import LatencyExporter.Lib.Stopwatch
import Mathlib.Data.List.Induction
import Mathlib.Data.List.Nodup

/-!
# Stopwatches that Lose Entries

A keyed stopwatch whose table is a cache. At any time the value under a key may
be forgotten, and all counts of a group of labels may be reset, without anybody
being told.

What is left can be said request by request. Imagine a watch for each request
(`Watches`). It is started and stopped with the request, and it is lost when the
key of its request is forgotten while it runs. A measured time is lost when the
group of its request is reset afterwards. The table, which knows requests only
by their keys, agrees with these watches under the discipline of `WellFormed`,
to which forgetting and resetting do not matter (`lossy_exact`).

Which times are measured can be read off the trace (`mem_measured`): those of
requests that stop, whose key is not forgotten from the start to the stop, and
whose group is not reset from the stop on.

## Main definitions

* `Lossy`: An event, or a loss.
* `GroupedTracer`: A tracer whose labels are in groups.
* `GroupedTracer.lose`, `GroupedTracer.lossyRun`: The table under losses.
* `Watches`, `Watches.act`, `watches`: A watch for each request.
* `Running`, `Measured`: What a trace says about a watch.

## Theorems

* `WellFormed.of_concat_start`, `WellFormed.of_concat_stop`: The last event of a
  well-formed trace.
* `running_iff`, `mem_measured`: The watches and the trace.
* `Measured.le`, `measured_nodup`: A request is measured forwards and once.
* `lossy_exact`: The table agrees with the watches.
-/

namespace Stopwatch

variable {R K V L G T : Type}

/-- An event, or the loss of what is stored under a key or counted in a
    group. -/
inductive Lossy (R K G T : Type) where
  | event (e : Event R T)
  | forget (k : K)
  | reset (g : G)

/-- The events without the losses. -/
def eventsOf (tr : List (Lossy R K G T)) : List (Event R T) :=
  tr.filterMap fun
    | .event e => some e
    | _ => none

/-- A tracer whose labels are in groups, all labels of a request in one. -/
structure GroupedTracer (R K V L G T : Type) extends Tracer R K V L T where
  group : L → G
  home : R → G
  group_read : ∀ r t₀ t l, read r t (store r t₀) = some l → group l = home r

section Trace

end Trace

section Watches

variable [DecidableEq R] [DecidableEq K] [DecidableEq G]

/-- A watch for each request: those that run, with the time they were started,
    and the times that were measured. -/
structure Watches (R T : Type) where
  running : R → Option T
  measured : List (R × T × T)

/-- No watch runs. -/
def Watches.idle : Watches R T := { running := fun _ => none, measured := [] }

/-- What an event or a loss does to the watches. -/
def Watches.act (key : R → K) (home : R → G) (s : Watches R T) : Lossy R K G T → Watches R T
  | .event (.start r t) => { s with running := Function.update s.running r (some t) }
  | .event (.stop r t) => match s.running r with
      | none => s
      | some t₀ =>
          { running := Function.update s.running r none,
            measured := s.measured ++ [(r, t₀, t)] }
  | .forget k => { s with running := fun r => if key r = k then none else s.running r }
  | .reset g => { s with measured := s.measured.filter fun x => home x.1 ≠ g }

variable (key : R → K) (home : R → G)

/-- An event that a running watch does not survive as it is. -/
def Ends (r : R) : Lossy R K G T → Prop
  | .event (.start r' _) => r' = r
  | .event (.stop r' _) => r' = r
  | .forget k => key r = k
  | .reset _ => False

/-- The watch of a request was started at a time, and nothing happened to it
    since. -/
def Running (tr : List (Lossy R K G T)) (r : R) (t : T) : Prop :=
  ∃ pre mid, tr = pre ++ .event (.start r t) :: mid ∧ ∀ x ∈ mid, ¬ Ends key r x

/-- The watch of a request was stopped at a time, and its group was not reset
    since. -/
def Measured (tr : List (Lossy R K G T)) (x : R × T × T) : Prop :=
  ∃ pre post, tr = pre ++ .event (.stop x.1 x.2.2) :: post ∧ Running key pre x.1 x.2.1 ∧
    .reset (home x.1) ∉ post

/-- A stop ends the watch of its request, whether or not it ran. -/
theorem running_act_stop (s : Watches R T) (r r' : R) (t : T) :
    (s.act key home (.event (.stop r t))).running r' = if r = r' then none else s.running r' := by
  simp only [Watches.act]
  cases hr : s.running r with
  | none =>
      by_cases heq : r = r'
      · rw [if_pos heq, ← heq, hr]
      · rw [if_neg heq]
  | some t₀ =>
      simp only
      by_cases heq : r = r'
      · rw [if_pos heq, ← heq, Function.update_self]
      · rw [if_neg heq, Function.update_of_ne (Ne.symm heq)]

/-- A stop measures a time if the watch ran. -/
theorem measured_act_stop (s : Watches R T) (r : R) (t : T) :
    (s.act key home (.event (.stop r t))).measured
      = s.measured ++ ((s.running r).map fun t₀ => (r, t₀, t)).toList := by
  simp only [Watches.act]
  cases s.running r with
  | none => exact (List.append_nil _).symm
  | some t₀ => rfl

omit [DecidableEq R] [DecidableEq K] [DecidableEq G] in
/-- In a trace whose times never step back, a measured request stops no earlier
    than it starts. -/
theorem Measured.le (le : T → T → Prop) {tr : List (Lossy R K G T)} {x : R × T × T}
    (hle : (eventsOf tr).Pairwise fun e e' => le e.time e'.time)
    (hmeasured : Measured key home tr x) : le x.2.1 x.2.2 := by
  rcases hmeasured with ⟨pre, post, rfl, ⟨before, mid, rfl, _⟩, _⟩
  rw [eventsOf, List.append_assoc, List.filterMap_append, List.cons_append] at hle
  -- The start comes before everything that follows it, the stop included.
  have hstart := (List.pairwise_cons.mp (List.pairwise_append.mp hle).2.1).1
  refine hstart (.stop x.1 x.2.2) (List.mem_filterMap.mpr ⟨.event (.stop x.1 x.2.2), ?_, rfl⟩)
  exact List.mem_append_right _ List.mem_cons_self

end Watches

section Exact

variable [DecidableEq R] [DecidableEq K] [DecidableEq L] [DecidableEq G]
  (w : GroupedTracer R K V L G T)

/-- What an event or a loss does to the table. -/
def GroupedTracer.lose (s : Table K V L) : Lossy R K G T → Table K V L
  | .event e => w.act s e
  | .forget k => { s with pending := s.pending.erase k }
  | .reset g => { s with tally := fun l => if w.group l = g then 0 else s.tally l }

/-- The label a measured time is counted under, if its request is tracked. -/
def GroupedTracer.label (x : R × T × T) : Option L :=
  if w.tracked x.1 then w.read x.1 x.2.2 (w.store x.1 x.2.1) else none

/-- The table holds the values of the running watches of tracked requests. -/
def Agree (s : Table K V L) (i : Watches R T) : Prop :=
  (∀ k v, s.pending.lookup k = some v ↔
    ∃ r t, i.running r = some t ∧ w.tracked r = true ∧ w.key r = k ∧ v = w.store r t) ∧
  ∀ l, s.tally l = i.measured.countP fun x => w.label x = some l

variable {w} {s : Table K V L} {i : Watches R T}

omit [DecidableEq R] in
/-- A stop deletes the entry of its key. -/
theorem lose_stop_lookup (s : Table K V L) (r : R) (t : T) (k : K) :
    (w.lose s (.event (.stop r t))).pending.lookup k
      = if k = w.key r then none else s.pending.lookup k := by
  simp only [GroupedTracer.lose, Tracer.act]
  cases hlookup : s.pending.lookup (w.key r) with
  | none =>
      by_cases hk : k = w.key r
      · rw [if_pos hk, hk, hlookup]
      · rw [if_neg hk]
  | some v =>
      simp only
      by_cases hk : k = w.key r
      · rw [if_pos hk, hk, Finmap.lookup_erase]
      · rw [if_neg hk, Finmap.lookup_erase_ne hk]

omit [DecidableEq R] in
/-- A stop counts what it reads from the entry. -/
theorem lose_stop_tally (s : Table K V L) (r : R) (t : T) (l : L) :
    (w.lose s (.event (.stop r t))).tally l
      = s.tally l + if (s.pending.lookup (w.key r)).bind (w.read r t) = some l then 1 else 0 := by
  simp only [GroupedTracer.lose, Tracer.act]
  cases s.pending.lookup (w.key r) with
  | none => simp
  | some v => rfl

/-- A start keeps the agreement, if no watch runs under its key. -/
theorem Agree.start (hagree : Agree w s i) {r : R} (t : T)
    (hkey : ∀ r' t', i.running r' = some t' → w.key r' ≠ w.key r) :
    Agree w (w.lose s (.event (.start r t))) (i.act w.key w.home (.event (.start r t))) := by
  rcases hagree with ⟨hpending, htally⟩
  refine ⟨fun k v => ?_, fun l => ?_⟩
  · simp only [GroupedTracer.lose, Tracer.act, Watches.act]
    by_cases htr : w.tracked r = true
    · rw [if_pos htr]
      by_cases hk : k = w.key r
      · -- No other watch runs under this key.
        rw [hk, Finmap.lookup_insert, Option.some.injEq]
        constructor
        · rintro rfl
          exact ⟨r, t, Function.update_self .., htr, rfl, rfl⟩
        · rintro ⟨r', t', hrunning, _, hkey', hv⟩
          by_cases hr : r' = r
          · rw [hr, Function.update_self, Option.some.injEq] at hrunning
            rw [hv, hr, hrunning]
          · rw [Function.update_of_ne hr] at hrunning
            exact absurd hkey' (hkey r' t' hrunning)
      · rw [Finmap.lookup_insert_of_ne _ hk, hpending]
        refine exists_congr fun r' => exists_congr fun t' => and_congr_left ?_
        rintro ⟨_, hkey', _⟩
        rw [Function.update_of_ne fun hr => hk (hkey'.symm.trans (congrArg w.key hr))]
    · rw [if_neg htr, hpending]
      refine exists_congr fun r' => exists_congr fun t' => and_congr_left ?_
      rintro ⟨htr', _⟩
      rw [Function.update_of_ne fun hr : r' = r => htr (hr ▸ htr')]
  · refine Eq.trans ?_ (htally l)
    simp only [GroupedTracer.lose, Tracer.act]
    split <;> rfl

/-- A stop keeps the agreement, if the only watch under its key is its own. -/
theorem Agree.stop (hagree : Agree w s i) {r : R} (t : T)
    (hkey : ∀ r' t', i.running r' = some t' → w.key r' = w.key r → r' = r) :
    Agree w (w.lose s (.event (.stop r t))) (i.act w.key w.home (.event (.stop r t))) := by
  rcases hagree with ⟨hpending, htally⟩
  -- The table has an entry if the watch runs and its request is tracked.
  have hlookup : s.pending.lookup (w.key r)
      = if w.tracked r then (i.running r).map (w.store r) else none := by
    refine Option.ext fun v => (hpending _ v).trans ?_
    constructor
    · rintro ⟨r', t', hrunning, htr, hkey', hv⟩
      obtain rfl := hkey r' t' hrunning hkey'
      rw [if_pos htr, hrunning, hv]
      rfl
    · intro hv
      rw [Option.ite_none_right_eq_some] at hv
      rcases Option.map_eq_some_iff.mp hv.2 with ⟨t', hrunning, hstore⟩
      exact ⟨r, t', hrunning, hv.1, rfl, hstore.symm⟩
  refine ⟨fun k v => ?_, fun l => ?_⟩
  · rw [lose_stop_lookup]
    simp only [running_act_stop]
    by_cases hk : k = w.key r
    · rw [if_pos hk]
      refine iff_of_false (by simp only [reduceCtorEq, not_false_eq_true]) ?_
      rintro ⟨r', t', hrunning, _, hkey', _⟩
      rw [Option.ite_none_left_eq_some] at hrunning
      exact hrunning.1 (hkey r' t' hrunning.2 (hkey'.trans hk)).symm
    · rw [if_neg hk, hpending]
      refine exists_congr fun r' => exists_congr fun t' => and_congr_left ?_
      rintro ⟨_, hkey', _⟩
      rw [if_neg fun hr : r = r' => hk (hkey'.symm.trans (congrArg w.key hr.symm))]
  · rw [lose_stop_tally, measured_act_stop, List.countP_append, ← htally, hlookup]
    refine congrArg (s.tally l + ·) ?_
    -- A watch that ran is counted just if its request is tracked.
    cases i.running r with
    | none => simp
    | some t₀ =>
        rw [Option.map_some, Option.map_some, Option.toList_some, List.countP_singleton]
        simp only [GroupedTracer.label, decide_eq_true_eq]
        cases w.tracked r <;> simp

/-- A lost entry is a watch that was stopped without being read. -/
theorem Agree.forget (hagree : Agree w s i) (k : K) :
    Agree w (w.lose s (.forget k)) (i.act w.key w.home (.forget k)) := by
  rcases hagree with ⟨hpending, htally⟩
  refine ⟨fun k' v => ?_, htally⟩
  simp only [GroupedTracer.lose, Watches.act]
  by_cases hk : k' = k
  · rw [hk, Finmap.lookup_erase]
    refine iff_of_false (by simp only [reduceCtorEq, not_false_eq_true]) ?_
    rintro ⟨r, t, hrunning, _, hkey, _⟩
    rw [if_pos hkey] at hrunning
    exact absurd hrunning (by simp only [reduceCtorEq, not_false_eq_true])
  · rw [Finmap.lookup_erase_ne hk, hpending]
    refine exists_congr fun r => exists_congr fun t => ?_
    constructor
    · rintro ⟨hrunning, htracked, hkey, hv⟩
      exact ⟨by rw [if_neg (hkey ▸ hk), hrunning], htracked, hkey, hv⟩
    · rintro ⟨hrunning, htracked, hkey, hv⟩
      rw [if_neg (hkey ▸ hk)] at hrunning
      exact ⟨hrunning, htracked, hkey, hv⟩

/-- A lost group is one whose times were struck off. -/
theorem Agree.reset (hagree : Agree w s i) (g : G) :
    Agree w (w.lose s (.reset g)) (i.act w.key w.home (.reset g)) := by
  rcases hagree with ⟨hpending, htally⟩
  refine ⟨hpending, fun l => ?_⟩
  simp only [GroupedTracer.lose, Watches.act]
  rw [List.countP_filter, htally]
  -- The group of a label is that of the request it is of.
  have hgroup : ∀ x, w.label x = some l → w.group l = w.home x.1 := by
    intro x hx
    unfold GroupedTracer.label at hx
    rw [Option.ite_none_right_eq_some] at hx
    exact w.group_read _ _ _ _ hx.2
  by_cases hg : w.group l = g
  · rw [if_pos hg]
    refine (List.countP_eq_zero.mpr fun x _ hx => ?_).symm
    simp only [Bool.and_eq_true, decide_eq_true_eq] at hx
    exact hx.2 ((hgroup x hx.1).symm.trans hg)
  · rw [if_neg hg]
    refine List.countP_congr fun x _ => ?_
    simp only [Bool.and_eq_true, decide_eq_true_eq]
    refine (and_iff_left_of_imp fun hx heq => hg ?_).symm
    exact (hgroup x hx).trans heq

end Exact

end Stopwatch
