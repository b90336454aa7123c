import LatencyExporter.Core.Bpf.Nfs
import LatencyExporter.Theory.Histogram
import LatencyExporter.Theory.Ignored

/-!
# Histograms over Scrapes

The three tracing programs of a node with scrapes in between. Prometheus takes
a counter that falls for a restart and a bucket above a wider one for garbage,
so an exported histogram has to be cumulative at each scrape and must not go
backwards from one scrape to the next.

Both rest on one description of an exported bucket: the samples in the slots
whose ceiling is within the boundary (`bucketAt_toNat`). A wider boundary takes
in more slots, and the count takes in all of them. A slot holds as many samples
as the handlers decided to record in it (`sampleCount_run`), which a longer run
can only add to. Neither says anything about the order of the boundaries, so
the list may be unsorted and repeat itself.

The counters wrap at `2 ^ 64`, so all of this is for runs with fewer samples.

## Main definitions

* `Subsystem`, `Tracers`: The three programs and their maps.
* `NodeEvent`, `nodeStep`, `nodeRun`: Tracing events and scrapes.
* `nodeSample`, `recorded`: The samples the handlers record.
* `scraped`: What a scrape makes of a key.

## Theorems

* `nodeStep_hists`: An event records at most one sample, in its own map.
* `sampleCount_run`: A slot counts the samples recorded in it.
* `mem_run_iff`: A key has a histogram from its first sample on.
* `count_toNat`, `bucketAt_toNat`: The exported numbers.
* `mem_buckets`: The boundaries of an exported histogram.
* `bucketAt_mono`, `constHistogram_mono`: Wider boundaries, and fuller slots.
* `scrapes_cumulative_and_monotone`: Scrapes of a run.
-/

namespace LatencyExporter

namespace Ebpf

open Bpf

/-- The tracing programs, as `kme_subsystem_active` names them. -/
inductive Subsystem where
  | block
  | nfs
  | nfsKprobe
deriving DecidableEq

/-- The maps of all three programs. -/
structure Tracers where
  block : BlockState
  nfs : NfsState
  nfsKprobe : KprobeState

/-- All maps empty. -/
def Tracers.empty : Tracers := { block := .empty, nfs := .empty, nfsKprobe := .empty }

/-- The histogram map of a program. -/
def Tracers.hists (s : Tracers) : Subsystem → HistMap
  | .block => s.block.hists
  | .nfs => s.nfs.hists
  | .nfsKprobe => s.nfsKprobe.hists

/-- A handler of one of the programs runs, or the node is scraped. -/
inductive NodeEvent where
  | block (e : BlockEvent)
  | nfs (e : NfsEvent)
  | nfsKprobe (e : KprobeEvent)
  | scrape

/-- One event. A scrape only reads. -/
def nodeStep (s : Tracers) : NodeEvent → Tracers
  | .block e => { s with block := blockStep s.block e }
  | .nfs e => { s with nfs := nfsStep s.nfs e }
  | .nfsKprobe e => { s with nfsKprobe := kprobeStep s.nfsKprobe e }
  | .scrape => s

/-- A run of tracing events and scrapes. -/
def nodeRun (s : Tracers) (tr : List NodeEvent) : Tracers := tr.foldl nodeStep s

/-- What the completion of a pending NFS request counts. -/
def nfsDoneSample (op : UInt8) (s : NfsState) (hdr : PgioHeader) (now : Ktime) :
    Option (HistKey × Fin maxSlots) :=
  (s.start.lookup (nfsFillKey hdr op)).bind (nfsSample { dev := hdr.sDev, op := op } now)

/-- The sample an event records, with the program that records it. -/
def nodeSample (s : Tracers) : NodeEvent → Option (Subsystem × HistKey × Fin maxSlots)
  | .block (.issue _ _) => none
  | .block (.complete ctx now) =>
      ((s.block.start.lookup ctx.key).bind (blockSample ctx now)).map (Prod.mk .block)
  | .nfs (.initiateRead _ _) => none
  | .nfs (.initiateWrite _ _) => none
  | .nfs (.readpageDone hdr now) => (nfsDoneSample 0 s.nfs hdr now).map (Prod.mk .nfs)
  | .nfs (.writebackDone hdr now) => (nfsDoneSample 1 s.nfs hdr now).map (Prod.mk .nfs)
  | .nfsKprobe (.entry _ _ _ _) => none
  | .nfsKprobe (.ret pidTgid now) =>
      ((s.nfsKprobe.start.lookup pidTgid).bind (kprobeSample now)).map (Prod.mk .nfsKprobe)
  | .scrape => none

/-- The samples recorded along a run. -/
def recorded (s : Tracers) : List NodeEvent → List (Subsystem × HistKey × Fin maxSlots)
  | [] => []
  | e :: tr => (nodeSample s e).toList ++ recorded (nodeStep s e) tr

/-- What a scrape makes of a key of one of the maps. -/
def scraped (promBuckets : List ℚ) (s : Tracers) (sub : Subsystem) (hk : HistKey) :
    Option ConstHistogram :=
  ((s.hists sub).lookup hk).map fun h => slotsToConstHistogram (slotsRead h) promBuckets

/-- A sample for the map of a given program. -/
def sampleFor (sub : Subsystem) :
    Option (Subsystem × HistKey × Fin maxSlots) → Option (HistKey × Fin maxSlots)
  | none => none
  | some (sub', sample) => if sub' = sub then some sample else none

/-- A sample of a program is for its own map. -/
theorem sampleFor_self (sub : Subsystem) (o : Option (HistKey × Fin maxSlots)) :
    sampleFor sub (o.map (Prod.mk sub)) = o := by
  cases o with
  | none => rfl
  | some sample => exact if_pos rfl

/-- It is for no other map. -/
theorem sampleFor_ne (sub sub' : Subsystem) (hne : sub ≠ sub')
    (o : Option (HistKey × Fin maxSlots)) : sampleFor sub' (o.map (Prod.mk sub)) = none := by
  cases o with
  | none => rfl
  | some sample => exact if_neg hne

/-- The end of an NFS request records what it reads from its start time. -/
theorem nfsDone_hists (op : UInt8) (s : NfsState) (hdr : PgioHeader) (now : Ktime) :
    (nfsDone op s hdr now).hists = recordOpt s.hists (nfsDoneSample op s hdr now) := by
  simp only [nfsDone, nfsRecordLatency, nfsDoneSample]
  cases s.start.lookup (nfsFillKey hdr op) with
  | none => rfl
  | some tsp => rfl

/-- So does a return probe. -/
theorem kretprobe_hists (s : KprobeState) (pidTgid : UInt64) (now : Ktime) :
    (kretprobeNfsVfs s pidTgid now).hists
      = recordOpt s.hists ((s.start.lookup pidTgid).bind (kprobeSample now)) := by
  unfold kretprobeNfsVfs
  cases s.start.lookup pidTgid with
  | none => rfl
  | some start => rfl

/-- A step that records in the map of one program and leaves the others alone
    records everywhere what there is for the map. -/
theorem recordOpt_sampleFor {s s' : Tracers} {own : Subsystem}
    (hother : ∀ sub, sub ≠ own → s'.hists sub = s.hists sub)
    (o : Option (HistKey × Fin maxSlots)) (hown : s'.hists own = recordOpt (s.hists own) o)
    (sub : Subsystem) :
    s'.hists sub = recordOpt (s.hists sub) (sampleFor sub (o.map (Prod.mk own))) := by
  by_cases hsub : sub = own
  · rw [hsub, sampleFor_self, hown]
  · rw [sampleFor_ne own sub (Ne.symm hsub), hother sub hsub]
    rfl

/-- An event records the sample it decides on, in the map of its program, and
    leaves the other histograms alone. -/
theorem nodeStep_hists (s : Tracers) (e : NodeEvent) (sub : Subsystem) :
    (nodeStep s e).hists sub = recordOpt (s.hists sub) (sampleFor sub (nodeSample s e)) := by
  -- One case for each handler; a scrape changes nothing.
  cases e with
  | block e =>
      have hother : ∀ sub, sub ≠ .block → (nodeStep s (.block e)).hists sub = s.hists sub := by
        intro sub hsub
        cases sub with
        | block => exact absurd rfl hsub
        | nfs => rfl
        | nfsKprobe => rfl
      cases e with
      | issue ctx now =>
          exact recordOpt_sampleFor hother none (issue_hists s.block ctx now) sub
      | complete ctx now =>
          exact recordOpt_sampleFor hother _ (complete_hists s.block ctx now) sub
  | nfs e =>
      have hother : ∀ sub, sub ≠ .nfs → (nodeStep s (.nfs e)).hists sub = s.hists sub := by
        intro sub hsub
        cases sub with
        | block => rfl
        | nfs => exact absurd rfl hsub
        | nfsKprobe => rfl
      cases e with
      | initiateRead hdr now => exact recordOpt_sampleFor hother none rfl sub
      | initiateWrite hdr now => exact recordOpt_sampleFor hother none rfl sub
      | readpageDone hdr now =>
          exact recordOpt_sampleFor hother _ (nfsDone_hists 0 s.nfs hdr now) sub
      | writebackDone hdr now =>
          exact recordOpt_sampleFor hother _ (nfsDone_hists 1 s.nfs hdr now) sub
  | nfsKprobe e =>
      have hother : ∀ sub, sub ≠ .nfsKprobe →
          (nodeStep s (.nfsKprobe e)).hists sub = s.hists sub := by
        intro sub hsub
        cases sub with
        | block => rfl
        | nfs => rfl
        | nfsKprobe => exact absurd rfl hsub
      cases e with
      | entry fn pidTgid sDev now =>
          -- All entry probes only note the time.
          have hentry : (kprobeStep s.nfsKprobe (.entry fn pidTgid sDev now)).hists
              = s.nfsKprobe.hists := by
            cases fn <;> rfl
          exact recordOpt_sampleFor hother none hentry sub
      | ret pidTgid now =>
          exact recordOpt_sampleFor hother _ (kretprobe_hists s.nfsKprobe pidTgid now) sub
  | scrape => rfl

/-- One event adds at most one to one slot. -/
theorem sampleCount_step (s : Tracers) (e : NodeEvent) (sub : Subsystem) (hk : HistKey)
    (slot : Fin maxSlots) :
    sampleCount ((nodeStep s e).hists sub) hk slot
      = sampleCount (s.hists sub) hk slot + (nodeSample s e).toList.count (sub, hk, slot) := by
  rw [nodeStep_hists]
  rcases nodeSample s e with _ | ⟨sub', hk', slot'⟩
  · rfl
  · rw [Option.toList_some, List.count_singleton, sampleFor]
    by_cases hsub : sub' = sub
    · rw [if_pos hsub, recordOpt, sampleCount_recordSample]
      simp only [hsub, beq_iff_eq, Prod.mk.injEq, true_and, eq_comm (a := hk),
        eq_comm (a := slot)]
    · rw [if_neg hsub]
      simp only [recordOpt, beq_iff_eq, Prod.mk.injEq, hsub, false_and, if_false, Nat.add_zero]

/-- A slot counts the samples recorded in it. -/
theorem sampleCount_run (s : Tracers) (tr : List NodeEvent) (sub : Subsystem) (hk : HistKey)
    (slot : Fin maxSlots) :
    sampleCount ((nodeRun s tr).hists sub) hk slot
      = sampleCount (s.hists sub) hk slot + (recorded s tr).count (sub, hk, slot) := by
  induction tr generalizing s with
  | nil => rfl
  | cons e tr ih =>
      rw [nodeRun, List.foldl_cons, ← nodeRun, ih, sampleCount_step, recorded, List.count_append,
        Nat.add_assoc]

/-- Recording creates the histogram of its key and keeps all others. -/
theorem mem_recordOpt_iff (hists : HistMap) (o : Option (HistKey × Fin maxSlots)) (hk : HistKey) :
    hk ∈ recordOpt hists o ↔ hk ∈ hists ∨ ∃ slot, o = some (hk, slot) := by
  rcases o with _ | ⟨hk', slot⟩
  · simp only [recordOpt, reduceCtorEq, exists_false, or_false]
  · rw [recordOpt, ← Finmap.lookup_isSome]
    by_cases hkk : hk = hk'
    · rw [hkk, recordSample_lookup]
      exact iff_of_true rfl (Or.inr ⟨slot, rfl⟩)
    · rw [recordSample_lookup_ne _ _ _ _ hkk, Finmap.lookup_isSome]
      simp only [Option.some.injEq, Prod.mk.injEq, Ne.symm hkk, false_and, exists_false, or_false]

/-- What there is for a map. -/
theorem sampleFor_eq_some_iff (sub : Subsystem) (o : Option (Subsystem × HistKey × Fin maxSlots))
    (sample : HistKey × Fin maxSlots) :
    sampleFor sub o = some sample ↔ o = some (sub, sample) := by
  rcases o with _ | ⟨sub', sample'⟩
  · simp only [sampleFor, reduceCtorEq]
  · rw [sampleFor]
    by_cases hsub : sub' = sub
    · rw [if_pos hsub, hsub]
      simp only [Option.some.injEq, Prod.mk.injEq, true_and]
    · rw [if_neg hsub]
      simp only [reduceCtorEq, Option.some.injEq, Prod.mk.injEq, hsub, false_and]

/-- A key has a histogram from its first sample on. -/
theorem mem_run_iff (s : Tracers) (tr : List NodeEvent) (sub : Subsystem) (hk : HistKey) :
    hk ∈ (nodeRun s tr).hists sub ↔ hk ∈ s.hists sub ∨ ∃ slot, (sub, hk, slot) ∈ recorded s tr := by
  induction tr generalizing s with
  | nil => simp only [nodeRun, List.foldl_nil, recorded, List.not_mem_nil, exists_false, or_false]
  | cons e tr ih =>
      rw [nodeRun, List.foldl_cons, ← nodeRun, ih, nodeStep_hists, mem_recordOpt_iff]
      simp only [sampleFor_eq_some_iff, recorded, List.mem_append, Option.mem_toList, exists_or,
        or_assoc]

theorem nodeRun_append (s : Tracers) (tr tr' : List NodeEvent) :
    nodeRun s (tr ++ tr') = nodeRun (nodeRun s tr) tr' := List.foldl_append ..

/-- The samples of a run in two parts. -/
theorem recorded_append (s : Tracers) (tr tr' : List NodeEvent) :
    recorded s (tr ++ tr') = recorded s tr ++ recorded (nodeRun s tr) tr' := by
  induction tr generalizing s with
  | nil => rfl
  | cons e tr ih => rw [List.cons_append, recorded, ih, recorded, List.append_assoc]; rfl

/-- The count is the number of samples in the histogram. -/
theorem count_toNat (h : Hist) (promBuckets : List ℚ) (hlt : histTotal h < 2 ^ 64) :
    (slotsToConstHistogram (slotsRead h) promBuckets).count.toNat = histTotal h := by
  have hcount := (foldl_totalsStep h.slots (List.finRange maxSlots) Totals.zero 0 rfl rfl).2.1
  rw [Nat.zero_add, ← Fin.sum_univ_def] at hcount
  change (totals fun i => UInt64.ofNat (h.slots i)).count.toNat = histTotal h
  -- The sum in 64 bits is that of the numbers, as it does not wrap.
  rw [totals, hcount, UInt64.toNat_ofNat']
  exact Nat.mod_eq_of_lt hlt

/-- A bucket is the number of samples in the slots it takes in. -/
theorem bucketAt_toNat (h : Hist) (promBuckets : List ℚ) (hlt : histTotal h < 2 ^ 64) (b : ℚ)
    (hb : b ∈ promBuckets) :
    (bucketAt (slotsToConstHistogram (slotsRead h) promBuckets) b).toNat
      = ∑ slot with slotCeiling slot ≤ b, h.slots slot := by
  have hspec := lastSlot_spec b
  rw [bucketAt_eq _ _ _ hb, bucketValue]
  -- No slot is below the boundary, or all up to the last one.
  split at hspec
  · next hr =>
      rw [hr, Finset.filter_false_of_mem fun j _ => hspec j]
      rfl
  · next s hr =>
      have hset : (Finset.univ.filter fun j => slotCeiling j ≤ b) = Finset.Iic s := by
        ext j
        rw [Finset.mem_filter_univ, Finset.mem_Iic, hspec]
      have hle : ∑ j ∈ Finset.Iic s, h.slots j ≤ histTotal h :=
        Finset.sum_le_sum_of_subset (Finset.subset_univ _)
      have hrun := runningTotal_eq h.slots s
      rw [hr, hset]
      change ((totals fun i => UInt64.ofNat (h.slots i)).runningTotal s).toNat = _
      rw [hrun, UInt64.toNat_ofNat']
      exact Nat.mod_eq_of_lt (lt_of_le_of_lt hle hlt)

/-- The boundaries of an exported histogram are the listed ones. -/
theorem mem_buckets (slots : Fin maxSlots → UInt64) (promBuckets : List ℚ) (b : ℚ) :
    b ∈ (slotsToConstHistogram slots promBuckets).buckets ↔ b ∈ promBuckets := by
  have hfold : ∀ (l : List ℚ) (m : Finmap (fun _ : ℚ => UInt64)),
      b ∈ l.foldl (fun m b => m.insert b (bucketValue (totals slots) b)) m ↔ b ∈ l ∨ b ∈ m := by
    intro l
    -- The map that is there already is generalised.
    induction l with
    | nil => exact fun m => (or_iff_right List.not_mem_nil).symm
    | cons a l ih =>
        intro m
        rw [List.foldl_cons, ih, Finmap.mem_insert, List.mem_cons]
        tauto
  exact (hfold promBuckets ∅).trans (or_iff_left Finmap.notMem_empty)

/-- Adding up the slots of a key gives all samples recorded for it. -/
theorem sum_count_slots (l : List (Subsystem × HistKey × Fin maxSlots)) (sub : Subsystem)
    (hk : HistKey) :
    ∑ slot, l.count (sub, hk, slot) = l.countP fun x => x.1 = sub ∧ x.2.1 = hk := by
  induction l with
  | nil => simp only [List.count_nil, List.countP_nil, Finset.sum_const_zero]
  | cons x l ih =>
      rcases x with ⟨sub', hk', slot'⟩
      simp only [List.count_cons, List.countP_cons, Finset.sum_add_distrib, ih, beq_iff_eq,
        Prod.mk.injEq, decide_eq_true_eq]
      -- The new sample is in one slot of its own key and in none of another's.
      by_cases h : sub' = sub ∧ hk' = hk
      · simp only [h.1, h.2, true_and, and_self, Finset.sum_ite_eq, Finset.mem_univ, if_true]
      · have hnone : ∀ slot, ¬ (sub' = sub ∧ hk' = hk ∧ slot' = slot) :=
          fun slot hc => h ⟨hc.1, hc.2.1⟩
        simp only [hnone, h, if_false, Finset.sum_const_zero]

/-- The histogram of a key after a run from the empty maps. -/
theorem slots_run (tr : List NodeEvent) (sub : Subsystem) (hk : HistKey) (h : Hist)
    (hlook : ((nodeRun .empty tr).hists sub).lookup hk = some h) (slot : Fin maxSlots) :
    h.slots slot = (recorded .empty tr).count (sub, hk, slot) := by
  have hrun := sampleCount_run .empty tr sub hk slot
  have hempty : sampleCount (Tracers.empty.hists sub) hk slot = 0 := by cases sub <;> rfl
  rw [hempty, Nat.zero_add, sampleCount, hlook] at hrun
  exact hrun

/-- All slots of a key together. -/
theorem histTotal_run (tr : List NodeEvent) (sub : Subsystem) (hk : HistKey) (h : Hist)
    (hlook : ((nodeRun .empty tr).hists sub).lookup hk = some h) :
    histTotal h = (recorded .empty tr).countP fun x => x.1 = sub ∧ x.2.1 = hk := by
  rw [← sum_count_slots]
  exact Finset.sum_congr rfl fun slot _ => slots_run tr sub hk h hlook slot

/-- The buckets of a histogram are cumulative. -/
theorem bucketAt_mono (h : Hist) (promBuckets : List ℚ) (hlt : histTotal h < 2 ^ 64) {b₁ b₂ : ℚ}
    (hb₁ : b₁ ∈ promBuckets) (hb₂ : b₂ ∈ promBuckets) (hle : b₁ ≤ b₂) :
    bucketAt (slotsToConstHistogram (slotsRead h) promBuckets) b₁
        ≤ bucketAt (slotsToConstHistogram (slotsRead h) promBuckets) b₂ ∧
      bucketAt (slotsToConstHistogram (slotsRead h) promBuckets) b₂
        ≤ (slotsToConstHistogram (slotsRead h) promBuckets).count := by
  simp only [UInt64.le_iff_toNat_le, bucketAt_toNat h promBuckets hlt _ hb₁,
    bucketAt_toNat h promBuckets hlt _ hb₂, count_toNat h promBuckets hlt]
  refine ⟨Finset.sum_le_sum_of_subset ?_, Finset.sum_le_sum_of_subset ?_⟩
  · exact Finset.monotone_filter_right _ fun slot _ hslot => le_trans hslot hle
  · exact Finset.filter_subset _ _

/-- Slots that have grown export a histogram that is no smaller. -/
theorem constHistogram_mono {h' h : Hist} (promBuckets : List ℚ) (hlt : histTotal h < 2 ^ 64)
    (hslots : ∀ slot, h'.slots slot ≤ h.slots slot) :
    (slotsToConstHistogram (slotsRead h') promBuckets).count
        ≤ (slotsToConstHistogram (slotsRead h) promBuckets).count ∧
      ∀ b ∈ promBuckets, bucketAt (slotsToConstHistogram (slotsRead h') promBuckets) b
        ≤ bucketAt (slotsToConstHistogram (slotsRead h) promBuckets) b := by
  have hlt' : histTotal h' < 2 ^ 64 :=
    lt_of_le_of_lt (Finset.sum_le_sum fun slot _ => hslots slot) hlt
  refine ⟨?_, fun b hb => ?_⟩
  · rw [UInt64.le_iff_toNat_le, count_toNat h' promBuckets hlt', count_toNat h promBuckets hlt]
    exact Finset.sum_le_sum fun slot _ => hslots slot
  · rw [UInt64.le_iff_toNat_le, bucketAt_toNat h' promBuckets hlt' b hb,
      bucketAt_toNat h promBuckets hlt b hb]
    exact Finset.sum_le_sum fun slot _ => hslots slot

/-- At each scrape of a run a key is exported exactly if samples were recorded
    for it. The exported histogram has the listed boundaries, is cumulative, and
    counts the samples recorded for the key; and what an earlier scrape exported
    is exported again, no smaller. -/
theorem scrapes_cumulative_and_monotone (promBuckets : List ℚ) (tr : List NodeEvent)
    (hsamples : (recorded .empty tr).length < 2 ^ 64) :
    ∀ pre post, tr = pre ++ .scrape :: post → ∀ sub hk,
      ((scraped promBuckets (nodeRun .empty pre) sub hk).isSome ↔
        ∃ slot, (sub, hk, slot) ∈ recorded .empty pre) ∧
      (∀ h, scraped promBuckets (nodeRun .empty pre) sub hk = some h →
        (∀ b, b ∈ h.buckets ↔ b ∈ promBuckets) ∧
        (∀ b₁ ∈ promBuckets, ∀ b₂ ∈ promBuckets, b₁ ≤ b₂ →
          bucketAt h b₁ ≤ bucketAt h b₂ ∧ bucketAt h b₂ ≤ h.count) ∧
        h.count.toNat = (recorded .empty pre).countP fun x => x.1 = sub ∧ x.2.1 = hk) ∧
      ∀ pre' mid, pre = pre' ++ .scrape :: mid →
        ∀ h', scraped promBuckets (nodeRun .empty pre') sub hk = some h' →
          ∃ h, scraped promBuckets (nodeRun .empty pre) sub hk = some h ∧
            h'.count ≤ h.count ∧ ∀ b ∈ promBuckets, bucketAt h' b ≤ bucketAt h b := by
  intro pre post htr sub hk
  -- No histogram along the run has more samples than the run.
  have hsmall : ∀ h, ((nodeRun .empty pre).hists sub).lookup hk = some h →
      histTotal h < 2 ^ 64 := by
    intro h hlook
    rw [htr, recorded_append, List.length_append] at hsamples
    rw [histTotal_run pre sub hk h hlook]
    exact lt_of_le_of_lt List.countP_le_length (by omega)
  refine ⟨?_, ?_, ?_⟩
  · have hempty : hk ∉ Tracers.empty.hists sub := by cases sub <;> exact Finmap.notMem_empty
    rw [scraped, Option.isSome_map, Finmap.lookup_isSome, mem_run_iff]
    exact or_iff_right hempty
  · intro h hscraped
    rcases Option.map_eq_some_iff.mp hscraped with ⟨hist, hlook, rfl⟩
    have hlt := hsmall hist hlook
    refine ⟨mem_buckets _ promBuckets, ?_, ?_⟩
    · exact fun b₁ hb₁ b₂ hb₂ hle => bucketAt_mono hist promBuckets hlt hb₁ hb₂ hle
    · rw [count_toNat hist promBuckets hlt]
      exact histTotal_run pre sub hk hist hlook
  · intro pre' mid hpre h' hscraped'
    rcases Option.map_eq_some_iff.mp hscraped' with ⟨hist', hlook', rfl⟩
    -- The histogram is still there at the later scrape.
    have hmem : hk ∈ (nodeRun .empty pre).hists sub := by
      rw [hpre, nodeRun_append]
      exact (mem_run_iff _ _ sub hk).mpr (Or.inl (Finmap.mem_of_lookup_eq_some hlook'))
    rcases Finmap.mem_iff.mp hmem with ⟨hist, hlook⟩
    -- Along a run slots only grow.
    have hslots : ∀ slot, hist'.slots slot ≤ hist.slots slot := by
      intro slot
      rw [slots_run pre' sub hk hist' hlook' slot, slots_run pre sub hk hist hlook slot, hpre,
        recorded_append, List.count_append]
      omega
    exact ⟨_, by rw [scraped, hlook, Option.map_some],
      constHistogram_mono promBuckets (hsmall hist hlook) hslots⟩

/-- A read of a file between two scrapes. -/
def readBetweenScrapes : List NodeEvent :=
  [.nfsKprobe (.entry .nfsFileRead 1 7 (.early 0)), .nfsKprobe (.ret 1 (.early 5000)), .scrape,
    .nfsKprobe (.entry .nfsFileRead 1 7 (.early 6000)), .nfsKprobe (.ret 1 (.early 9000)), .scrape]

/-- The boundaries are out of order and one is negative. The second scrape
    exports both reads, the first one at least as it was. -/
theorem scrapes_monotone_two_reads :
    ∃ h' h, scraped [1, -1, 1 / 100] (nodeRun .empty (readBetweenScrapes.take 2)) .nfsKprobe ⟨7, 0⟩
        = some h' ∧
      scraped [1, -1, 1 / 100] (nodeRun .empty (readBetweenScrapes.take 5)) .nfsKprobe ⟨7, 0⟩
        = some h ∧
      h.count.toNat = 2 ∧ h'.count ≤ h.count ∧ bucketAt h' (1 / 100) ≤ bucketAt h (1 / 100) := by
  have hsamples : (recorded .empty readBetweenScrapes).length < 2 ^ 64 := by decide +kernel
  have hfirst := (scrapes_cumulative_and_monotone [1, -1, 1 / 100] readBetweenScrapes hsamples
    (readBetweenScrapes.take 2) (readBetweenScrapes.drop 3) rfl .nfsKprobe ⟨7, 0⟩).1.mpr
    ⟨⟨2, by decide⟩, by decide +kernel⟩
  have hall := scrapes_cumulative_and_monotone [1, -1, 1 / 100] readBetweenScrapes hsamples
    (readBetweenScrapes.take 5) [] rfl .nfsKprobe ⟨7, 0⟩
  rcases Option.isSome_iff_exists.mp hfirst with ⟨h', hscraped'⟩
  rcases hall.2.2 (readBetweenScrapes.take 2) (readBetweenScrapes.drop 3 |>.take 2) rfl h' hscraped'
    with ⟨h, hscraped, hcount, hbuckets⟩
  have htwo : ((recorded .empty (readBetweenScrapes.take 5)).countP
      fun x => x.1 = .nfsKprobe ∧ x.2.1 = ⟨7, 0⟩) = 2 := by decide +kernel
  refine ⟨h', h, hscraped', hscraped, ((hall.2.1 h hscraped).2.2).trans htwo, hcount,
    hbuckets (1 / 100) ?_⟩
  exact List.mem_cons_of_mem _ (List.mem_cons_of_mem _ List.mem_cons_self)

end Ebpf

end LatencyExporter
