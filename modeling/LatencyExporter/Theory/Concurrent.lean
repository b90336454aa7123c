import LatencyExporter.Core.Bpf.Concurrent
import LatencyExporter.Theory.Ignored

/-!
# Concurrent Completions

How many samples reach the histogram maps when several runs of a completion
handler interleave.

A run that finds no histogram creates one, and the update that does so is
unconditional. If another run has created the same histogram in between, the
update replaces it: the samples it already has are lost, and so are those of
the runs that hold a pointer to it and have not incremented yet. Nothing else
loses a sample. This is made exact by an account that balances at every step:
the samples in the map, plus those that have just been lost, change by as much
as the increments that were made or are already bound to miss the map
(`step_account`). Over a whole schedule the map has grown by the number of
increments exactly when every creation finds its key absent or its element
unused (`conserved_iff`).

## Main definitions

* `HistHeap.samples`: The number of samples in the map.
* `Live`: Some key has the element.
* `owes`, `holds`: The runs whose increment has happened or will miss the map,
  and those that hold a pointer to an element.
* `lost`: What a step loses.
* `Machine.counted`: The runs that reached the increment.
* `Unused`: Replacing the element of a key loses nothing.
* `GrowsByIncrements`, `CreatesUnused`: The property and the condition, for a
  schedule.

## Theorems

* `samples_update`, `samples_fetchAndAdd`: The operations of the heap.
* `step_cases`: What one step does.
* `step_account`, `run_account`: The account over one step and over a schedule.
* `conserved_iff`: When nothing is lost, for any handler.
* `no_sample_lost_iff`: The same for the three handlers.
* `samples_kept_one_by_one`, `sample_lost_two_cpus`: Two CPUs that take turns,
  and two that lose a sample.
-/

namespace LatencyExporter

namespace Bpf

open MapTotal

/-- The number of samples in the elements the map has. -/
def HistHeap.samples (h : HistHeap) : Nat := total (fun p => histTotal (h.elems p)) h.index

/-- Some key of the map has the element. -/
def Live (index : Finmap (fun _ : HistKey => Nat)) (p : Nat) : Prop :=
  ∃ hk, index.lookup hk = some p

-- Writing an element changes the weight of its number and of no other.
theorem histTotal_update (elems : Nat → Hist) (p : Nat) (hist : Hist) :
    (fun q => histTotal (Function.update elems p hist q))
      = Function.update (fun q => histTotal (elems q)) p (histTotal hist) := by
  funext q
  by_cases hq : q = p
  · rw [hq, Function.update_self, Function.update_self]
  · rw [Function.update_of_ne hq, Function.update_of_ne hq]

/-- Creating the histogram of a key drops the samples it had. -/
theorem samples_update (h : HistHeap) (hk : HistKey) :
    (h.update hk).samples + (h.index.lookup hk).elim 0 (fun p => histTotal (h.elems p))
      = h.samples := by
  -- The number of the new element is held by no key yet.
  have hfresh : ∀ hk', h.index.lookup hk' ≠ some h.next :=
    fun hk' hc => Nat.lt_irrefl _ (h.lt_next hk' _ hc)
  have hins := total_insert_fresh (fun q => histTotal (h.elems q)) h.index hk h.next
    (histTotal zeroHist) hfresh
  rw [← histTotal_update, histTotal_zeroHist] at hins
  exact hins

open Classical in
theorem samples_fetchAndAdd (h : HistHeap) (p : Nat) (slot : Fin maxSlots) :
    (h.fetchAndAdd p slot).samples = h.samples + if Live h.index p then 1 else 0 := by
  have hsamples : (h.fetchAndAdd p slot).samples = total (Function.update
      (fun q => histTotal (h.elems q)) p (histTotal (h.elems p) + 1)) h.index := by
    rw [← histTotal_fetchAndAdd (h.elems p) slot, ← histTotal_update]
    rfl
  rw [hsamples]
  by_cases hlive : Live h.index p
  · -- One key has the element, since no two keys share one.
    rcases hlive with ⟨hk, hp⟩
    have htotal := total_update_live (fun q => histTotal (h.elems q)) h.index hk p
      (histTotal (h.elems p) + 1) hp (fun hk' hp' => h.inj hk' hk p hp' hp)
    rw [if_pos ⟨hk, hp⟩]
    unfold HistHeap.samples
    omega
  · rw [if_neg hlive, total_update_dead _ _ _ _ (fun hk hp => hlive ⟨hk, hp⟩)]
    rfl

section Account

variable {A K V : Type} {n : Nat}

open Classical in
/-- A run owes a sample to the map when its increment has happened, or when it
    will miss the map. -/
noncomputable def owes (index : Finmap (fun _ : HistKey => Nat)) : Pc V → Nat
  | .fetchAndAdd p _ => if Live index p then 0 else 1
  | .returned counted => if counted then 1 else 0
  | _ => 0

/-- A run is about to increment an element. -/
def holds (p : Nat) : Pc V → Nat
  | .fetchAndAdd q _ => if q = p then 1 else 0
  | _ => 0

/-- The samples a step of a run loses: a creation that finds an element loses
    what the element has and what the runs that hold it are about to add. -/
def lost (s : Machine n K V) (i : Fin n) : Nat :=
  match s.pc i with
  | .updateHist hk _ => (s.heap.index.lookup hk).elim 0
      (fun p => histTotal (s.heap.elems p) + ∑ j, holds p (s.pc j))
  | _ => 0

/-- Every pointer a run holds is the number of an element. -/
def PtrBelow (s : Machine n K V) : Prop :=
  ∀ j p slot, s.pc j = .fetchAndAdd p slot → p < s.heap.next

/-- The number of runs that reached the increment. -/
def Machine.counted (s : Machine n K V) : Nat :=
  ∑ j, match s.pc j with
    | .returned true => 1
    | _ => 0

theorem owes_live (index : Finmap (fun _ : HistKey => Nat)) (p : Nat) (slot : Fin maxSlots)
    (hlive : Live index p) : owes index (.fetchAndAdd p slot : Pc V) = 0 := if_pos hlive

theorem owes_dead (index : Finmap (fun _ : HistKey => Nat)) (p : Nat) (slot : Fin maxSlots)
    (hdead : ¬ Live index p) : owes index (.fetchAndAdd p slot : Pc V) = 1 := if_neg hdead

/-- A pointer that has just been read from the map is one of its elements, and
    the increment still to come will reach it. -/
theorem owes_lookedUp (index : Finmap (fun _ : HistKey => Nat)) (hk : HistKey) (p : Nat)
    (slot : Fin maxSlots) (hp : index.lookup hk = some p) :
    owes index (.fetchAndAdd p slot : Pc V) = 0 ∧
      ∀ q slot', (.fetchAndAdd p slot : Pc V) = .fetchAndAdd q slot' → Live index q := by
  have hlive : Live index p := ⟨hk, hp⟩
  refine ⟨owes_live index p slot hlive, ?_⟩
  intro q slot' hq
  cases hq
  exact hlive

/-- A sum over all runs, when one of them moves. -/
theorem sum_update (w : Pc V → Nat) (pc : Fin n → Pc V) (i : Fin n) (x : Pc V) :
    (∑ j, w (Function.update pc i x j)) + w (pc i) = (∑ j, w (pc j)) + w x := by
  rw [← Finset.add_sum_erase Finset.univ _ (Finset.mem_univ i),
    ← Finset.add_sum_erase Finset.univ (fun j => w (pc j)) (Finset.mem_univ i),
    Function.update_self]
  have hrest : ∑ j ∈ Finset.univ.erase i, w (Function.update pc i x j)
      = ∑ j ∈ Finset.univ.erase i, w (pc j) := by
    refine Finset.sum_congr rfl fun j hj => ?_
    rw [Function.update_of_ne (Finset.mem_erase.mp hj).1]
  omega

/-- What one step does to the heap and to the runs: it creates a histogram, it
    increments an element, or it leaves the heap alone and keeps what the run
    owes. -/
theorem step_cases [DecidableEq K] (c : Completion A K V) (args : Fin n → A) (s : Machine n K V)
    (i : Fin n) :
    (∃ hk slot, s.pc i = .updateHist hk slot ∧ (c.step args s i).heap = s.heap.update hk ∧
      (c.step args s i).pc = Function.update s.pc i (.lookupAgain hk slot)) ∨
    (∃ p slot, s.pc i = .fetchAndAdd p slot ∧
      (c.step args s i).heap = s.heap.fetchAndAdd p slot ∧
      (c.step args s i).pc = Function.update s.pc i (.returned true)) ∨
    (lost s i = 0 ∧ (c.step args s i).heap = s.heap ∧ ∃ x,
      (c.step args s i).pc = Function.update s.pc i x ∧
      owes s.heap.index x = owes s.heap.index (s.pc i) ∧
      ∀ p slot, x = .fetchAndAdd p slot → Live s.heap.index p) := by
  -- One case for each place in the handler.
  cases hpc : s.pc i with
  | lookupStart =>
      refine .inr (.inr ?_)
      simp only [Completion.step, lost, hpc]
      cases s.start.lookup (c.key (args i)) with
      | none => exact ⟨trivial, rfl, _, rfl, rfl, by simp⟩
      | some v => exact ⟨trivial, rfl, _, rfl, rfl, by simp⟩
  | deleteStart v =>
      refine .inr (.inr ?_)
      simp only [Completion.step, lost, hpc]
      cases c.sample (args i) v with
      | none => exact ⟨trivial, rfl, _, rfl, rfl, by simp⟩
      | some hs => exact ⟨trivial, rfl, _, rfl, rfl, by simp⟩
  | lookupHist hk slot =>
      refine .inr (.inr ?_)
      simp only [Completion.step, lost, hpc]
      cases hp : s.heap.index.lookup hk with
      | none => exact ⟨trivial, rfl, _, rfl, rfl, by simp⟩
      | some p => exact ⟨trivial, rfl, _, rfl, owes_lookedUp s.heap.index hk p slot hp⟩
  | updateHist hk slot =>
      refine .inl ⟨hk, slot, rfl, ?_⟩
      unfold Completion.step
      rw [hpc]
      exact ⟨rfl, rfl⟩
  | lookupAgain hk slot =>
      refine .inr (.inr ?_)
      simp only [Completion.step, lost, hpc]
      cases hp : s.heap.index.lookup hk with
      | none => exact ⟨trivial, rfl, _, rfl, rfl, by simp⟩
      | some p => exact ⟨trivial, rfl, _, rfl, owes_lookedUp s.heap.index hk p slot hp⟩
  | fetchAndAdd p slot =>
      refine .inr (.inl ⟨p, slot, rfl, ?_⟩)
      unfold Completion.step
      rw [hpc]
      exact ⟨rfl, rfl⟩
  | returned counted =>
      refine .inr (.inr ?_)
      simp only [Completion.step, lost, hpc]
      exact ⟨trivial, trivial, .returned counted, by rw [← hpc, Function.update_eq_self], rfl,
        by simp⟩

/-- Pointers stay below when the heap grows and the new place holds none above it. -/
theorem ptrBelow_update (s s' : Machine n K V) (i : Fin n) (x : Pc V) (hs : PtrBelow s)
    (hnext : s.heap.next ≤ s'.heap.next) (hpc : s'.pc = Function.update s.pc i x)
    (hx : ∀ p slot, x = .fetchAndAdd p slot → p < s.heap.next) : PtrBelow s' := by
  intro j p slot hj
  rw [hpc] at hj
  by_cases hji : j = i
  · rw [hji, Function.update_self] at hj
    exact Nat.lt_of_lt_of_le (hx p slot hj) hnext
  · rw [Function.update_of_ne hji] at hj
    exact Nat.lt_of_lt_of_le (hs j p slot hj) hnext

/-- Every pointer was read from the map, whose elements are below. -/
theorem step_ptrBelow [DecidableEq K] (c : Completion A K V) (args : Fin n → A)
    (s : Machine n K V) (i : Fin n) (hs : PtrBelow s) : PtrBelow (c.step args s i) := by
  rcases step_cases c args s i with ⟨hk, slot, hpc, hheap, hpc'⟩ | ⟨p, slot, hpc, hheap, hpc'⟩ |
    ⟨hlost, hheap, x, hpc', howes, hlive⟩
  · refine ptrBelow_update s _ i _ hs ?_ hpc' (by simp)
    rw [hheap]
    exact Nat.le_succ _
  · refine ptrBelow_update s _ i _ hs ?_ hpc' (by simp)
    rw [hheap]
    exact Nat.le_refl _
  · refine ptrBelow_update s _ i x hs (by rw [hheap]) hpc' ?_
    intro p slot hx
    rcases hlive p slot hx with ⟨hk, hp⟩
    exact s.heap.lt_next hk p hp

/-- Which elements stay in the map when the histogram of a key is created: all
    but the one the key had. -/
theorem live_update_iff (h : HistHeap) (hk : HistKey) (p : Nat) (hp : p ≠ h.next) :
    Live (h.update hk).index p ↔ Live h.index p ∧ h.index.lookup hk ≠ some p := by
  simp only [HistHeap.update]
  constructor
  · rintro ⟨hk', hp'⟩
    by_cases hkk : hk' = hk
    · -- Under the key itself there is only the new element.
      rw [hkk, Finmap.lookup_insert, Option.some.injEq] at hp'
      exact absurd hp'.symm hp
    · rw [Finmap.lookup_insert_of_ne _ hkk] at hp'
      exact ⟨⟨hk', hp'⟩, fun hold => hkk (h.inj hk' hk p hp' hold)⟩
  · rintro ⟨⟨hk', hp'⟩, hold⟩
    have hkk : hk' ≠ hk := by
      intro hc
      rw [hc] at hp'
      exact hold hp'
    refine ⟨hk', ?_⟩
    rw [Finmap.lookup_insert_of_ne _ hkk]
    exact hp'

/-- After a creation a run owes what it did before, and a run that holds the
    replaced element owes its sample as well. -/
theorem owes_update (h : HistHeap) (hk : HistKey) (x : Pc V)
    (hx : ∀ p slot, x = .fetchAndAdd p slot → p < h.next) :
    owes (h.update hk).index x
      = owes h.index x + (h.index.lookup hk).elim 0 (fun p => holds p x) := by
  cases x with
  | fetchAndAdd p slot =>
      have hlive := live_update_iff h hk p (Nat.ne_of_lt (hx p slot rfl))
      by_cases hold : h.index.lookup hk = some p
      · -- The run holds the element that is replaced.
        have hdead : ¬ Live (h.update hk).index p := fun hc => (hlive.mp hc).2 hold
        rw [owes_dead _ p slot hdead, owes_live _ p slot ⟨hk, hold⟩, hold, Option.elim_some, holds,
          if_pos rfl]
      · -- The run holds another element, which is in the map as before.
        rw [and_iff_left hold] at hlive
        have hzero : (h.index.lookup hk).elim 0
            (fun q => holds q (.fetchAndAdd p slot : Pc V)) = 0 := by
          cases hq : h.index.lookup hk with
          | none => rfl
          | some q =>
              have hne : p ≠ q := by
                intro hc
                rw [← hc] at hq
                exact hold hq
              rw [Option.elim_some, holds, if_neg hne]
        rw [hzero, Nat.add_zero]
        by_cases hbefore : Live h.index p
        · rw [owes_live _ p slot hbefore, owes_live _ p slot (hlive.mpr hbefore)]
        · rw [owes_dead _ p slot hbefore, owes_dead _ p slot (fun hc => hbefore (hlive.mp hc))]
  -- A run at any other place holds no pointer.
  | _ => cases h.index.lookup hk <;> rfl

/-- The account of one step. -/
theorem step_account [DecidableEq K] (c : Completion A K V) (args : Fin n → A)
    (s : Machine n K V) (i : Fin n) (hs : PtrBelow s) :
    (c.step args s i).heap.samples + lost s i + ∑ j, owes s.heap.index (s.pc j)
      = s.heap.samples + ∑ j, owes (c.step args s i).heap.index ((c.step args s i).pc j) := by
  rcases step_cases c args s i with ⟨hk, slot, hpc, hheap, hpc'⟩ | ⟨p, slot, hpc, hheap, hpc'⟩ |
    ⟨hlost, hheap, x, hpc', howes, hlive⟩
  · -- A creation: the samples of the old element go, and the runs that hold it
    -- owe one sample more each.
    rw [hheap, hpc']
    have hsamples := samples_update s.heap hk
    have hsum := sum_update (owes (s.heap.update hk).index) s.pc i (.lookupAgain hk slot)
    have hnew : owes (s.heap.update hk).index (.lookupAgain hk slot : Pc V) = 0 := rfl
    have hold : owes (s.heap.update hk).index (s.pc i) = 0 := by rw [hpc]; rfl
    have hothers : ∑ j, owes (s.heap.update hk).index (s.pc j)
        = ∑ j, owes s.heap.index (s.pc j) +
          (s.heap.index.lookup hk).elim 0 (fun p => ∑ j, holds p (s.pc j)) := by
      rw [Finset.sum_congr rfl fun j _ => owes_update s.heap hk (s.pc j) (hs j),
        Finset.sum_add_distrib]
      cases s.heap.index.lookup hk with
      | none => simp only [Option.elim_none, Finset.sum_const_zero]
      | some p => rfl
    have hlost : lost s i = (s.heap.index.lookup hk).elim 0 (fun p => histTotal (s.heap.elems p))
        + (s.heap.index.lookup hk).elim 0 (fun p => ∑ j, holds p (s.pc j)) := by
      simp only [lost, hpc]
      cases s.heap.index.lookup hk <;> rfl
    omega
  · -- An increment: the run owes its sample from now on. If the element is still
    -- in the map, the samples have grown by it; if not, the run owed it before.
    rw [hheap, hpc', samples_fetchAndAdd]
    have hindex : (s.heap.fetchAndAdd p slot).index = s.heap.index := rfl
    have hsum := sum_update (owes s.heap.index) s.pc i (.returned true)
    have hlost : lost s i = 0 := by simp only [lost, hpc]
    have hdone : owes s.heap.index (.returned true : Pc V) = 1 := rfl
    rw [hpc] at hsum
    rw [hindex, hlost]
    by_cases hlive : Live s.heap.index p
    · rw [owes_live _ p slot hlive] at hsum
      rw [if_pos hlive]
      omega
    · rw [owes_dead _ p slot hlive] at hsum
      rw [if_neg hlive]
      omega
  · -- Any other step changes neither side.
    rw [hheap, hpc', hlost]
    have hsum := sum_update (owes s.heap.index) s.pc i x
    omega

/-- What a schedule loses. -/
def lostAlong [DecidableEq K] (c : Completion A K V) (args : Fin n → A) (s : Machine n K V) :
    List (Fin n) → Nat
  | [] => 0
  | i :: sched => lost s i + lostAlong c args (c.step args s i) sched

/-- The account over a schedule. -/
theorem run_account [DecidableEq K] (c : Completion A K V) (args : Fin n → A)
    (s : Machine n K V) (sched : List (Fin n)) (hs : PtrBelow s) :
    (c.run args s sched).heap.samples + lostAlong c args s sched
        + ∑ j, owes s.heap.index (s.pc j)
      = s.heap.samples
        + ∑ j, owes (c.run args s sched).heap.index ((c.run args s sched).pc j) := by
  -- Along the schedule; the accounts of the first step and of the rest add up.
  induction sched generalizing s with
  | nil => rfl
  | cons i sched ih =>
      have hstep := step_account c args s i hs
      have hrest := ih (c.step args s i) (step_ptrBelow c args s i hs)
      have hrun : c.run args s (i :: sched) = c.run args (c.step args s i) sched := rfl
      rw [hrun, lostAlong]
      omega

/-- Replacing the element of the key loses nothing: there is none, or it has
    no samples and no run is about to increment it. -/
def Unused (s : Machine n K V) (hk : HistKey) : Prop :=
  ∀ p, s.heap.index.lookup hk = some p →
    histTotal (s.heap.elems p) = 0 ∧ ∀ j slot, s.pc j ≠ .fetchAndAdd p slot

/-- A run holds no element unless it is about to increment it. -/
theorem holds_eq_zero (p : Nat) (x : Pc V) : holds p x = 0 ↔ ∀ slot, x ≠ .fetchAndAdd p slot := by
  cases x with
  | fetchAndAdd q slot =>
      by_cases hq : q = p
      · simp only [holds, hq]
        simp
      · simp only [holds, if_neg hq]
        simp [hq]
  | _ => simp [holds]

/-- When a step loses nothing. -/
theorem lost_eq_zero (s : Machine n K V) (i : Fin n) :
    lost s i = 0 ↔ ∀ hk slot, s.pc i = .updateHist hk slot → Unused s hk := by
  unfold lost
  cases hpc : s.pc i with
  | updateHist hk slot =>
      have hunused : (s.heap.index.lookup hk).elim 0
          (fun p => histTotal (s.heap.elems p) + ∑ j, holds p (s.pc j)) = 0 ↔ Unused s hk := by
        unfold Unused
        cases hp : s.heap.index.lookup hk with
        | none => simp
        | some p =>
            simp only [Option.elim_some, Nat.add_eq_zero_iff, Finset.sum_eq_zero_iff,
              Finset.mem_univ, true_implies, holds_eq_zero, Option.some.injEq, forall_eq']
      simp only [hunused]
      constructor
      · intro h hk' slot' heq
        cases heq
        exact h
      · intro h
        exact h hk slot rfl
  | _ => simp

/-- Every creation of a schedule finds its key absent or its element unused. -/
def CreatesUnused [DecidableEq K] (c : Completion A K V) (args : Fin n → A) (s : Machine n K V)
    (sched : List (Fin n)) : Prop :=
  ∀ before i after hk slot, sched = before ++ i :: after →
    (c.run args s before).pc i = .updateHist hk slot → Unused (c.run args s before) hk

/-- When a schedule loses nothing. -/
theorem lostAlong_eq_zero [DecidableEq K] (c : Completion A K V) (args : Fin n → A)
    (s : Machine n K V) (sched : List (Fin n)) :
    lostAlong c args s sched = 0 ↔ CreatesUnused c args s sched := by
  induction sched generalizing s with
  | nil =>
      refine iff_of_true rfl ?_
      intro before i after hk slot hsplit
      exact absurd hsplit (by simp)
  | cons i sched ih =>
      rw [lostAlong, Nat.add_eq_zero_iff, lost_eq_zero, ih]
      constructor
      · -- A split of the schedule is at its head or in its tail.
        intro h before j after hk slot hsplit hpc
        cases before with
        | nil =>
            rw [List.nil_append, List.cons.injEq] at hsplit
            rw [← hsplit.1] at hpc
            exact h.1 hk slot hpc
        | cons i' before =>
            rw [List.cons_append, List.cons.injEq] at hsplit
            rw [← hsplit.1] at hpc ⊢
            exact h.2 before j after hk slot hsplit.2 hpc
      · intro h
        refine ⟨fun hk slot hpc => h [] i sched hk slot rfl hpc, ?_⟩
        intro before j after hk slot hsplit hpc
        exact h (i :: before) j after hk slot (by rw [hsplit, List.cons_append]) hpc

/-- All runs are about to start. -/
def Machine.Fresh (s : Machine n K V) : Prop := ∀ i, s.pc i = .lookupStart

/-- All runs have returned. -/
def Machine.Finished (s : Machine n K V) : Prop := ∀ i, ∃ counted, s.pc i = .returned counted

/-- A schedule makes the histograms grow by one sample for every run that
    reached the increment. -/
def GrowsByIncrements [DecidableEq K] (c : Completion A K V) (args : Fin n → A)
    (s : Machine n K V) (sched : List (Fin n)) : Prop :=
  (c.run args s sched).heap.samples = s.heap.samples + (c.run args s sched).counted

/-- The account read at the end, where every run has returned. -/
theorem conserved_iff [DecidableEq K] (c : Completion A K V) (args : Fin n → A)
    (s : Machine n K V) (sched : List (Fin n)) (hfresh : s.Fresh)
    (hfinished : (c.run args s sched).Finished) :
    GrowsByIncrements c args s sched ↔ CreatesUnused c args s sched := by
  -- At the start no run holds a pointer or owes anything.
  have hptr : PtrBelow s := by
    intro j p slot hj
    rw [hfresh j] at hj
    exact absurd hj (by simp only [reduceCtorEq, not_false_eq_true])
  have hstart : ∑ j, owes s.heap.index (s.pc j) = 0 := by
    refine Finset.sum_eq_zero fun j _ => ?_
    rw [hfresh j]
    rfl
  -- A run that has returned owes a sample just when it incremented.
  have hend : ∑ j, owes (c.run args s sched).heap.index ((c.run args s sched).pc j)
      = (c.run args s sched).counted := by
    refine Finset.sum_congr rfl fun j _ => ?_
    rcases hfinished j with ⟨counted, hj⟩
    rw [hj]
    cases counted <;> rfl
  -- So the samples and the losses together make up the increments.
  have haccount := run_account c args s sched hptr
  rw [hstart, hend] at haccount
  rw [← lostAlong_eq_zero, GrowsByIncrements]
  omega

end Account

/-- Under a schedule of runs of the handler, the histograms grow by the number
    of increments exactly when no creation replaces an element that is in use. -/
def ConservedIff {A K V : Type} [DecidableEq K] (c : Completion A K V) {n : Nat}
    (sched : List (Fin n)) : Prop :=
  ∀ (args : Fin n → A) (s : Machine n K V), s.Fresh → (c.run args s sched).Finished →
    (GrowsByIncrements c args s sched ↔ CreatesUnused c args s sched)

/-- However many runs of a completion handler interleave, and however they do. -/
theorem no_sample_lost_iff (n : Nat) (sched : List (Fin n)) :
    ConservedIff blockCompletion sched ∧ ConservedIff nfsCompletion sched ∧
      ConservedIff kprobeCompletion sched :=
  ⟨fun args s => conserved_iff blockCompletion args s sched,
    fun args s => conserved_iff nfsCompletion args s sched,
    fun args s => conserved_iff kprobeCompletion args s sched⟩

/-- A histogram map without entries. -/
def HistHeap.empty : HistHeap where
  elems _ := zeroHist
  next := 0
  index := ∅
  lt_next _ _ h := absurd h (by simp)
  inj _ _ _ h := absurd h (by simp)

/-- Two reads of different sectors of one device, completed at the same time. -/
def twoReads (i : Fin 2) : BlockRq × Ktime :=
  ({ dev := 8, sector := if i = 0 then 0 else 8, rwbs := rwbsOf 'R' }, .early 1000000)

/-- Both reads are in flight, and the device has no histogram yet. -/
def twoCpus : Machine 2 ReqKey UInt64 where
  start := ((∅ : Finmap (fun _ : ReqKey => UInt64)).insert (twoReads 0).1.key 0).insert
    (twoReads 1).1.key 0
  heap := HistHeap.empty
  pc _ := .lookupStart

/-- The second run starts when the first has returned. -/
def oneByOne : List (Fin 2) := List.replicate 6 0 ++ List.replicate 6 1

/-- Taking turns loses nothing. -/
theorem samples_kept_one_by_one :
    GrowsByIncrements blockCompletion twoReads twoCpus oneByOne := by
  have hfinished : (blockCompletion.run twoReads twoCpus oneByOne).Finished := by
    intro i
    refine ⟨true, ?_⟩
    match i with
    | 0 => rfl
    | 1 => rfl
  -- Only the first run creates the histogram, and finds the key absent.
  have hlost : lostAlong blockCompletion twoReads twoCpus oneByOne = 0 := by decide +kernel
  exact ((no_sample_lost_iff 2 oneByOne).1 twoReads twoCpus (fun _ => rfl) hfinished).mpr
    ((lostAlong_eq_zero blockCompletion twoReads twoCpus oneByOne).mp hlost)

/-- Both runs look for the histogram before either creates it. The first
    finishes, then the second creates the histogram again. -/
def createTwice : List (Fin 2) := [0, 0, 0, 1, 1, 1, 0, 0, 0, 1, 1, 1]

/-- The second creation replaces the element that has the sample of the first run. -/
theorem sample_lost_two_cpus :
    Function.Injective (fun i => blockCompletion.key (twoReads i)) ∧ twoCpus.Fresh ∧
      (blockCompletion.run twoReads twoCpus createTwice).Finished ∧
      ¬ GrowsByIncrements blockCompletion twoReads twoCpus createTwice := by
  refine ⟨by decide +kernel, fun _ => rfl, ?_, ?_⟩
  · intro i
    refine ⟨true, ?_⟩
    match i with
    | 0 => rfl
    | 1 => rfl
  · unfold GrowsByIncrements
    decide +kernel

end Bpf

end LatencyExporter
