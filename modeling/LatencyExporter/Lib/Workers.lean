import LatencyExporter.Lib.Sums
import Mathlib.Data.List.Induction
import Mathlib.Data.List.Perm.Basic
import Mathlib.Logic.Function.Basic

/-!
# Workers behind a Semaphore

A main thread starts a worker for each of some tasks and waits for all of them.
A worker waits for one of a fixed number of permits, works on a cell of memory
that is its own, takes a lock, reports what it found, gives back the lock and
then the permit, and is counted off. The report is a sequence of steps on the
memory all workers share and on the worker's own cell; other workers may take
steps in between, but none of them has the lock.

`Pool` is a state of all this, and a schedule is any sequence of moves of the
main thread and of the workers. A move that is not possible, since there is no
permit left or the lock is taken, is no part of a run.

Whatever the schedule, the outcome is that of serving the workers one after the
other, in the order in which they took the lock (`run_served`). At most as many
workers work at a time as there are permits, and one reports (`Inv`). With at
least one permit some move is possible until all workers are counted off, and
each move brings the end nearer (`exists_move`, `run_length`); without a permit
no worker ever works (`no_permit`).

## Main definitions

* `Job`: What a worker does and reports.
* `Phase`: Where a worker stands.
* `Pool`: The workers and the memory.
* `Job.spawn`, `Job.advance`, `Job.step`, `Job.run`: Moves and schedules.
* `Pool.Joined`: The main thread need not wait any longer.
* `Job.serve`, `Job.served`: The workers one after the other.
* `Inv`: The invariant of all runs.

## Theorems

* `advance_inv`, `spawn_inv`: What a move can be.
* `served_of_not_mem`: A cell nobody served.
* `inv_start`, `inv_spawn`, `inv_advance`, `inv_run`: The invariant.
* `exists_move`, `exists_joined`: There is no deadlock.
* `left_step`, `run_length`: There are finitely many moves.
* `no_permit`, `eq_nil_of_no_permit`: Without permits.
* `run_served`: The outcome of a run that is over.
-/

namespace Workers

/-- What a worker computes from its cell, which it may change, and the steps of
    its report, on its cell and on the shared memory. -/
structure Job (ι C R S : Type) where
  work : ι → C → R × C
  report : ι → R → List (C × S → C × S)

/-- Where a worker stands. -/
inductive Phase (C R S : Type) where
  | idle
  -- It waits for a permit.
  | queued
  | working
  -- It waits for the lock.
  | finished (r : R)
  -- It has the lock, and these steps are left.
  | reporting (rest : List (C × S → C × S))
  -- It has given back the lock, then the permit.
  | reported
  | released
  | done

namespace Phase

variable {C R S : Type}

/-- The worker has a permit. -/
def holdsPermit : Phase C R S → Bool
  | working => true
  | finished _ => true
  | reporting _ => true
  | reported => true
  | _ => false

/-- The worker has the lock. -/
def holdsLock : Phase C R S → Bool
  | reporting _ => true
  | _ => false

/-- The worker was started and is not counted off. -/
def active : Phase C R S → Bool
  | idle => false
  | done => false
  | _ => true

/-- The worker has taken the lock at some time. -/
def entered : Phase C R S → Bool
  | reporting _ => true
  | reported => true
  | released => true
  | done => true
  | _ => false

end Phase

/-- The workers and the memory: the workers that are still to be started, the
    permits in use, who has the lock, and the count of the wait group. The order
    in which the lock was taken is remembered. -/
structure Pool (ι C R S : Type) where
  todo : List ι
  phase : ι → Phase C R S
  cells : ι → C
  shared : S
  permits : Nat
  holder : Option ι
  counter : Nat
  order : List ι

/-- All workers of a list are still to be started. -/
def Pool.start {ι C R S : Type} (ids : List ι) (cells : ι → C) (shared : S) : Pool ι C R S :=
  { todo := ids, phase := fun _ => .idle, cells := cells, shared := shared, permits := 0,
    holder := none, counter := 0, order := [] }

/-- The main thread is through with its loop, and no worker is left to wait
    for. -/
def Pool.Joined {ι C R S : Type} (p : Pool ι C R S) : Prop := p.todo = [] ∧ p.counter = 0

/-- A move of the main thread or of a worker. -/
inductive Move (ι : Type) where
  | main
  | worker (i : ι)

variable {ι C R S : Type} [DecidableEq ι]

/-- A worker continues in another phase. -/
def Pool.goto (p : Pool ι C R S) (i : ι) (x : Phase C R S) : Pool ι C R S :=
  { p with phase := Function.update p.phase i x }

namespace Job

variable (job : Job ι C R S) (cap : Nat)

/-- The main thread starts the next worker. -/
def spawn (p : Pool ι C R S) : Option (Pool ι C R S) :=
  match p.todo with
  | [] => none
  | i :: rest => some { p.goto i .queued with todo := rest, counter := p.counter + 1 }

/-- A worker goes on, if it can. -/
def advance (p : Pool ι C R S) (i : ι) : Option (Pool ι C R S) :=
  match p.phase i with
  | .idle => none
  | .queued =>
      if p.permits < cap then some { p.goto i .working with permits := p.permits + 1 } else none
  | .working =>
      let (r, c) := job.work i (p.cells i)
      some { p.goto i (.finished r) with cells := Function.update p.cells i c }
  | .finished r =>
      if p.holder.isSome then none
      else some { p.goto i (.reporting (job.report i r)) with
        holder := some i, order := p.order ++ [i] }
  | .reporting (f :: rest) =>
      let (c, s) := f (p.cells i, p.shared)
      some { p.goto i (.reporting rest) with cells := Function.update p.cells i c, shared := s }
  | .reporting [] => some { p.goto i .reported with holder := none }
  | .reported => some { p.goto i .released with permits := p.permits - 1 }
  | .released => some { p.goto i .done with counter := p.counter - 1 }
  | .done => none

/-- One move. -/
def step (p : Pool ι C R S) : Move ι → Option (Pool ι C R S)
  | .main => spawn p
  | .worker i => job.advance cap p i

@[simp]
theorem step_main (p : Pool ι C R S) : job.step cap p .main = spawn p := rfl

/-- The moves of a schedule, all of which have to be possible. -/
def run (p : Pool ι C R S) (sched : List (Move ι)) : Option (Pool ι C R S) :=
  sched.foldlM (job.step cap) p

/-- The steps of a report one after the other. -/
def runAll (steps : List (C × S → C × S)) (m : C × S) : C × S := steps.foldl (fun m f => f m) m

/-- One worker from beginning to end, with nobody else about. -/
def serve (m : (ι → C) × S) (i : ι) : (ι → C) × S :=
  let (r, c) := job.work i (m.1 i)
  let (c, s) := runAll (job.report i r) (c, m.2)
  (Function.update m.1 i c, s)

/-- Workers one after the other. -/
def served (cells : ι → C) (shared : S) (order : List ι) : (ι → C) × S :=
  order.foldl job.serve (cells, shared)

end Job

open Job Sums

/-- What a move of a worker can be. -/
inductive Advanced (job : Job ι C R S) (cap : Nat) (p : Pool ι C R S) (i : ι) :
    Pool ι C R S → Prop where
  | acquire (hphase : p.phase i = .queued) (hcap : p.permits < cap) :
      Advanced job cap p i { p.goto i .working with permits := p.permits + 1 }
  | work (hphase : p.phase i = .working) :
      Advanced job cap p i { p.goto i (.finished (job.work i (p.cells i)).1) with
        cells := Function.update p.cells i (job.work i (p.cells i)).2 }
  | lock {r : R} (hphase : p.phase i = .finished r) (hfree : p.holder = none) :
      Advanced job cap p i { p.goto i (.reporting (job.report i r)) with
        holder := some i, order := p.order ++ [i] }
  | report {f : C × S → C × S} {rest : List (C × S → C × S)}
      (hphase : p.phase i = .reporting (f :: rest)) :
      Advanced job cap p i { p.goto i (.reporting rest) with
        cells := Function.update p.cells i (f (p.cells i, p.shared)).1,
        shared := (f (p.cells i, p.shared)).2 }
  | unlock (hphase : p.phase i = .reporting []) :
      Advanced job cap p i { p.goto i .reported with holder := none }
  | release (hphase : p.phase i = .reported) :
      Advanced job cap p i { p.goto i .released with permits := p.permits - 1 }
  | leave (hphase : p.phase i = .released) :
      Advanced job cap p i { p.goto i .done with counter := p.counter - 1 }

/-- A move of a worker is one of these. -/
theorem advance_inv {job : Job ι C R S} {cap : Nat} {p p' : Pool ι C R S} {i : ι}
    (hstep : job.advance cap p i = some p') : Advanced job cap p i p' := by
  unfold advance at hstep
  cases hphase : p.phase i with
  | queued =>
      simp only [hphase, Option.ite_none_right_eq_some, Option.some.injEq] at hstep
      obtain ⟨hcap, rfl⟩ := hstep
      exact .acquire hphase hcap
  | finished r =>
      simp only [hphase, Option.ite_none_left_eq_some, Option.some.injEq] at hstep
      obtain ⟨hfree, rfl⟩ := hstep
      exact .lock hphase (Option.not_isSome_iff_eq_none.mp hfree)
  | reporting steps =>
      cases steps with
      | nil =>
          simp only [hphase, Option.some.injEq] at hstep
          obtain rfl := hstep
          exact .unlock hphase
      | cons f rest =>
          simp only [hphase, Option.some.injEq] at hstep
          obtain rfl := hstep
          exact .report hphase
  | working =>
      simp only [hphase, Option.some.injEq] at hstep
      obtain rfl := hstep
      exact .work hphase
  | reported =>
      simp only [hphase, Option.some.injEq] at hstep
      obtain rfl := hstep
      exact .release hphase
  | released =>
      simp only [hphase, Option.some.injEq] at hstep
      obtain rfl := hstep
      exact .leave hphase
  | _ => simp only [hphase, reduceCtorEq] at hstep

/-- The main thread starts the first of the workers that are left. -/
theorem spawn_inv {p p' : Pool ι C R S} (hstep : spawn p = some p') : ∃ i rest,
    p.todo = i :: rest ∧ p' = { p.goto i .queued with todo := rest, counter := p.counter + 1 } := by
  unfold spawn at hstep
  cases htodo : p.todo with
  | nil => simp only [htodo, reduceCtorEq] at hstep
  | cons i rest =>
      simp only [htodo, Option.some.injEq] at hstep
      exact ⟨i, rest, rfl, hstep.symm⟩

section Served

variable (job : Job ι C R S)

/-- A worker that is served changes no cell but its own. -/
theorem serve_ne (m : (ι → C) × S) {i j : ι} (hne : j ≠ i) : (job.serve m i).1 j = m.1 j :=
  Function.update_of_ne hne _ _

theorem served_concat (cells : ι → C) (shared : S) (order : List ι) (i : ι) :
    job.served cells shared (order ++ [i]) = job.serve (job.served cells shared order) i :=
  List.foldl_concat ..

/-- The cell of a worker that was not served is as it was. -/
theorem served_of_not_mem (cells : ι → C) (shared : S) (order : List ι) {i : ι} (hi : i ∉ order) :
    (job.served cells shared order).1 i = cells i := by
  induction order using List.reverseRecOn with
  | nil => rfl
  | append_singleton order j ih =>
      rw [List.mem_append, not_or, List.mem_singleton] at hi
      rw [served_concat, serve_ne job _ hi.2, ih hi.1]

end Served

/-- What the memory of a worker is in a phase, when the workers in `order` have
    been served: what it was at first, what it is after the work, what becomes
    of it by the rest of the report, or what it is in the end. -/
def CellOk (job : Job ι C R S) (cells : ι → C) (shared : S) (p : Pool ι C R S) (i : ι) : Prop :=
  match p.phase i with
  | .idle => p.cells i = cells i
  | .queued => p.cells i = cells i
  | .working => p.cells i = cells i
  | .finished r => job.work i (cells i) = (r, p.cells i)
  | .reporting rest =>
      runAll rest (p.cells i, p.shared)
        = ((job.served cells shared p.order).1 i, (job.served cells shared p.order).2)
  | .reported => p.cells i = (job.served cells shared p.order).1 i
  | .released => p.cells i = (job.served cells shared p.order).1 i
  | .done => p.cells i = (job.served cells shared p.order).1 i

/-- The invariant of all runs that start with the workers in `ids`. -/
structure Inv (job : Job ι C R S) (cap : Nat) (ids : List ι) (cells : ι → C) (shared : S)
    (p : Pool ι C R S) : Prop where
  todo_nodup : p.todo.Nodup
  mem_todo : ∀ i, i ∈ p.todo → i ∈ ids
  idle_iff : ∀ i ∈ ids, p.phase i = .idle ↔ i ∈ p.todo
  idle_of_not_mem : ∀ i, i ∉ ids → p.phase i = .idle
  permits_eq : p.permits = ids.countP fun i => (p.phase i).holdsPermit
  permits_le : p.permits ≤ cap
  holder_iff : ∀ i, p.holder = some i ↔ (p.phase i).holdsLock = true
  counter_eq : p.counter = ids.countP fun i => (p.phase i).active
  order_nodup : p.order.Nodup
  mem_order : ∀ i, i ∈ p.order ↔ (p.phase i).entered = true
  cells_ok : ∀ i, CellOk job cells shared p i
  shared_ok : p.holder = none → p.shared = (job.served cells shared p.order).2

section Invariant

variable {job : Job ι C R S} {cap : Nat} {ids : List ι} {cells : ι → C} {shared : S}
  {p p' : Pool ι C R S} {i : ι}

/-- The invariant holds at first. -/
theorem inv_start (hnodup : ids.Nodup) :
    Inv job cap ids cells shared (Pool.start ids cells shared) where
  todo_nodup := hnodup
  mem_todo _ hi := hi
  idle_iff _ hi := iff_of_true rfl hi
  idle_of_not_mem _ _ := rfl
  permits_eq := (List.countP_eq_zero.mpr fun _ _ => Bool.false_ne_true).symm
  permits_le := Nat.zero_le cap
  holder_iff _ := iff_of_false (by simp [Pool.start]) Bool.false_ne_true
  counter_eq := (List.countP_eq_zero.mpr fun _ _ => Bool.false_ne_true).symm
  order_nodup := List.nodup_nil
  mem_order _ := iff_of_false List.not_mem_nil Bool.false_ne_true
  cells_ok _ := rfl
  shared_ok _ := rfl

/-- A worker that does not move is not concerned, unless it has the lock and the
    shared memory changes. -/
theorem CellOk.of_eq {j : ι} (hok : CellOk job cells shared p j) (hphase : p'.phase j = p.phase j)
    (hcells : p'.cells j = p.cells j)
    (hserved : (job.served cells shared p'.order).1 j = (job.served cells shared p.order).1 j)
    (hlock : (p.phase j).holdsLock = true → p'.shared = p.shared ∧
      (job.served cells shared p'.order).2 = (job.served cells shared p.order).2) :
    CellOk job cells shared p' j := by
  unfold CellOk at hok ⊢
  rw [hphase, hcells, hserved]
  cases hj : p.phase j with
  -- Only here the shared memory is part of what is said.
  | reporting rest =>
      rcases hlock (by rw [hj]; rfl) with ⟨hshared, hsnd⟩
      rw [hj] at hok
      simp only [hshared, hsnd]
      exact hok
  | _ =>
      rw [hj] at hok
      exact hok

/-- A worker moves on from a phase to another. What is left to show is what
    depends on the phases. -/
theorem Inv.of_goto (hinv : Inv job cap ids cells shared p) (hnodup : ids.Nodup) (hi : i ∈ ids)
    (x : Phase C R S) (hphase : p'.phase = Function.update p.phase i x) (hx : x ≠ .idle)
    (htodo : p'.todo.Nodup) (hmem_todo : ∀ j, j ∈ p'.todo ↔ j ∈ p.todo ∧ j ≠ i)
    (hpermits : p'.permits + (if (p.phase i).holdsPermit then 1 else 0)
      = p.permits + if x.holdsPermit then 1 else 0)
    (hle : p'.permits ≤ cap)
    (hcounter : p'.counter + (if (p.phase i).active then 1 else 0)
      = p.counter + if x.active then 1 else 0)
    (hholder : ∀ j, p'.holder = some j ↔ (Function.update p.phase i x j).holdsLock = true)
    (horder : p'.order.Nodup)
    (hmem : ∀ j, j ∈ p'.order ↔ (Function.update p.phase i x j).entered = true)
    (hcell : CellOk job cells shared p' i)
    (hothers : ∀ j, j ≠ i → p'.cells j = p.cells j ∧
      (job.served cells shared p'.order).1 j = (job.served cells shared p.order).1 j ∧
      ((p.phase j).holdsLock = true → p'.shared = p.shared ∧
        (job.served cells shared p'.order).2 = (job.served cells shared p.order).2))
    (hshared : p'.holder = none → p'.shared = (job.served cells shared p'.order).2) :
    Inv job cap ids cells shared p' where
  todo_nodup := htodo
  mem_todo j hj := hinv.mem_todo j ((hmem_todo j).mp hj).1
  idle_iff j hj := by
    rw [hphase, hmem_todo]
    by_cases hij : j = i
    · rw [hij, Function.update_self]
      exact iff_of_false hx fun hand => hand.2 rfl
    · rw [Function.update_of_ne hij, hinv.idle_iff j hj]
      exact (and_iff_left hij).symm
  idle_of_not_mem j hj := by
    have hij : j ≠ i := fun heq => hj (heq ▸ hi)
    rw [hphase, Function.update_of_ne hij]
    exact hinv.idle_of_not_mem j hj
  permits_eq := by
    have hcount := countP_update Phase.holdsPermit p.phase i x ids hnodup hi
    rw [← hinv.permits_eq] at hcount
    rw [hphase]
    omega
  permits_le := hle
  holder_iff j := by
    rw [hphase]
    exact hholder j
  counter_eq := by
    have hcount := countP_update Phase.active p.phase i x ids hnodup hi
    rw [← hinv.counter_eq] at hcount
    rw [hphase]
    omega
  order_nodup := horder
  mem_order j := by
    rw [hphase]
    exact hmem j
  cells_ok j := by
    by_cases hij : j = i
    · rw [hij]
      exact hcell
    · rcases hothers j hij with ⟨hcells, hserved, hlock⟩
      refine (hinv.cells_ok j).of_eq ?_ hcells hserved hlock
      rw [hphase, Function.update_of_ne hij]
  shared_ok := hshared

/-- A phase that neither takes nor gives back the lock. -/
theorem Inv.holder_update (hinv : Inv job cap ids cells shared p) (x : Phase C R S)
    (hx : x.holdsLock = (p.phase i).holdsLock) (j : ι) :
    p.holder = some j ↔ (Function.update p.phase i x j).holdsLock = true := by
  rw [hinv.holder_iff]
  by_cases hij : j = i
  · rw [hij, Function.update_self, hx]
  · rw [Function.update_of_ne hij]

/-- A phase that does not take the lock for the first time. -/
theorem Inv.order_update (hinv : Inv job cap ids cells shared p) (x : Phase C R S)
    (hx : x.entered = (p.phase i).entered) (j : ι) :
    j ∈ p.order ↔ (Function.update p.phase i x j).entered = true := by
  rw [hinv.mem_order]
  by_cases hij : j = i
  · rw [hij, Function.update_self, hx]
  · rw [Function.update_of_ne hij]

/-- The start of a worker touches neither the permits nor the memory. -/
theorem inv_spawn (hnodup : ids.Nodup) (hinv : Inv job cap ids cells shared p)
    (hstep : spawn p = some p') : Inv job cap ids cells shared p' := by
  rcases spawn_inv hstep with ⟨i, rest, htodo, rfl⟩
  have hmem : i ∈ p.todo := htodo ▸ List.mem_cons_self
  have hi := hinv.mem_todo i hmem
  have hidle := (hinv.idle_iff i hi).mpr hmem
  have hrest := List.nodup_cons.mp (htodo ▸ hinv.todo_nodup)
  have hcell := hinv.cells_ok i
  unfold CellOk at hcell
  rw [hidle] at hcell
  refine hinv.of_goto hnodup hi .queued rfl (by simp) hrest.2 (fun j => ?_) ?_ hinv.permits_le
    ?_ (hinv.holder_update _ (by rw [hidle]; rfl)) hinv.order_nodup
    (hinv.order_update _ (by rw [hidle]; rfl)) ?_ (fun j _ => ⟨rfl, rfl, fun _ => ⟨rfl, rfl⟩⟩)
    hinv.shared_ok
  · -- The worker is not to be started twice, as the list has no duplicates.
    rw [htodo, List.mem_cons]
    constructor
    · intro hj
      exact ⟨.inr hj, fun heq => hrest.1 (heq ▸ hj)⟩
    · rintro ⟨hj, hne⟩
      exact hj.resolve_left hne
  · rw [hidle]
    rfl
  · rw [hidle]
    rfl
  · unfold CellOk Pool.goto
    simp only [Function.update_self]
    exact hcell

/-- A worker that is about to move is one of those the run started with, and
    not one that is still to be started. -/
theorem Inv.mem_of_phase (hinv : Inv job cap ids cells shared p) (hphase : p.phase i ≠ .idle) :
    i ∈ ids ∧ ∀ j, j ∈ p.todo ↔ j ∈ p.todo ∧ j ≠ i := by
  have hi : i ∈ ids := by
    by_contra hi
    exact hphase (hinv.idle_of_not_mem i hi)
  refine ⟨hi, fun j => (and_iff_left_of_imp fun hj heq => ?_).symm⟩
  exact hphase ((hinv.idle_iff i hi).mpr (heq ▸ hj))

/-- Only one worker has the lock. -/
theorem Inv.not_holdsLock (hinv : Inv job cap ids cells shared p) {j : ι}
    (hi : (p.phase i).holdsLock = true) (hne : j ≠ i) : (p.phase j).holdsLock ≠ true := by
  intro hj
  have hij := ((hinv.holder_iff j).mpr hj).symm.trans ((hinv.holder_iff i).mpr hi)
  exact hne (Option.some.inj hij)

/-- A worker that has not taken the lock can take it when nobody has it. -/
theorem inv_lock (hnodup : ids.Nodup) (hinv : Inv job cap ids cells shared p) {r : R}
    (hphase : p.phase i = .finished r) (hfree : p.holder = none) :
    Inv job cap ids cells shared { p.goto i (.reporting (job.report i r)) with
      holder := some i, order := p.order ++ [i] } := by
  rcases hinv.mem_of_phase (i := i) (by rw [hphase]; simp) with ⟨hi, htodo⟩
  have hnot : i ∉ p.order := by
    rw [hinv.mem_order, hphase]
    exact Bool.false_ne_true
  have hcell := hinv.cells_ok i
  unfold CellOk at hcell
  rw [hphase] at hcell
  -- Nobody has the lock, so nobody is at its report.
  have hlock : ∀ j, (p.phase j).holdsLock ≠ true := by
    intro j hj
    rw [(hinv.holder_iff j).mpr hj] at hfree
    exact absurd hfree (by simp)
  refine hinv.of_goto hnodup hi _ rfl (by simp) hinv.todo_nodup htodo ?_ hinv.permits_le ?_
    (fun j => ?_) ?_ (fun j => ?_) ?_ (fun j hne => ⟨rfl, ?_, fun hj => absurd hj (hlock j)⟩)
    (fun h => absurd h (by simp))
  · rw [hphase]
    rfl
  · rw [hphase]
    rfl
  · by_cases hij : j = i
    · rw [hij, Function.update_self]
      exact iff_of_true rfl rfl
    · rw [Function.update_of_ne hij]
      exact iff_of_false (fun heq => hij (Option.some.inj heq).symm) (hlock j)
  · exact List.nodup_append.mpr ⟨hinv.order_nodup, List.pairwise_singleton _ i,
      fun a ha b hb heq => hnot (List.mem_singleton.mp hb ▸ heq ▸ ha)⟩
  · rw [List.mem_append, List.mem_singleton]
    by_cases hij : j = i
    · rw [hij, Function.update_self]
      exact iff_of_true (.inr rfl) rfl
    · rw [Function.update_of_ne hij, hinv.mem_order]
      exact or_iff_left hij
  · -- From here on the worker does what it does when served.
    unfold CellOk Pool.goto
    simp only [Function.update_self, served_concat, serve,
      served_of_not_mem job cells shared _ hnot, hcell, hinv.shared_ok hfree]
  · rw [served_concat, serve_ne job _ hne]

/-- A step of a report. -/
theorem inv_report (hnodup : ids.Nodup) (hinv : Inv job cap ids cells shared p)
    {f : C × S → C × S} {rest : List (C × S → C × S)}
    (hphase : p.phase i = .reporting (f :: rest)) :
    Inv job cap ids cells shared { p.goto i (.reporting rest) with
      cells := Function.update p.cells i (f (p.cells i, p.shared)).1,
      shared := (f (p.cells i, p.shared)).2 } := by
  rcases hinv.mem_of_phase (i := i) (by rw [hphase]; simp) with ⟨hi, htodo⟩
  have hholds : (p.phase i).holdsLock = true := by
    rw [hphase]
    rfl
  have hcell := hinv.cells_ok i
  unfold CellOk at hcell
  rw [hphase] at hcell
  refine hinv.of_goto hnodup hi _ rfl (by simp) hinv.todo_nodup htodo ?_ hinv.permits_le ?_
    (hinv.holder_update _ (by rw [hphase]; rfl)) hinv.order_nodup
    (hinv.order_update _ (by rw [hphase]; rfl)) ?_
    (fun j hne => ⟨Function.update_of_ne hne _ _, rfl,
      fun hj => absurd hj (hinv.not_holdsLock hholds hne)⟩) (fun hnone => ?_)
  · rw [hphase]
    rfl
  · rw [hphase]
    rfl
  · unfold CellOk Pool.goto
    simp only [Function.update_self]
    -- What is left of the report leads to the same result.
    exact hcell
  · exact absurd (hnone.symm.trans ((hinv.holder_iff i).mpr hholds)) (by simp)

/-- The end of a report. -/
theorem inv_unlock (hnodup : ids.Nodup) (hinv : Inv job cap ids cells shared p)
    (hphase : p.phase i = .reporting []) :
    Inv job cap ids cells shared { p.goto i .reported with holder := none } := by
  rcases hinv.mem_of_phase (i := i) (by rw [hphase]; simp) with ⟨hi, htodo⟩
  have hholds : (p.phase i).holdsLock = true := by
    rw [hphase]
    rfl
  have hcell := hinv.cells_ok i
  unfold CellOk at hcell
  rw [hphase] at hcell
  -- The report is through, so its result is there.
  have hboth := Prod.mk.inj hcell
  refine hinv.of_goto hnodup hi _ rfl (by simp) hinv.todo_nodup htodo ?_ hinv.permits_le ?_
    (fun j => iff_of_false (by simp) ?_) hinv.order_nodup
    (hinv.order_update _ (by rw [hphase]; rfl)) ?_ (fun j _ => ⟨rfl, rfl, fun _ => ⟨rfl, rfl⟩⟩)
    (fun _ => hboth.2)
  · rw [hphase]
    rfl
  · rw [hphase]
    rfl
  · by_cases hij : j = i
    · rw [hij, Function.update_self]
      exact Bool.false_ne_true
    · rw [Function.update_of_ne hij]
      exact hinv.not_holdsLock hholds hij
  · unfold CellOk Pool.goto
    simp only [Function.update_self]
    exact hboth.1

/-- A move that has to do neither with the lock nor with the memory others
    see. -/
theorem Inv.of_quiet (hnodup : ids.Nodup) (hinv : Inv job cap ids cells shared p)
    (x : Phase C R S) (c : C) (permits counter : Nat) (hphase : p.phase i ≠ .idle) (hx : x ≠ .idle)
    (hpermits : permits + (if (p.phase i).holdsPermit then 1 else 0)
      = p.permits + if x.holdsPermit then 1 else 0)
    (hle : permits ≤ cap)
    (hcounter : counter + (if (p.phase i).active then 1 else 0)
      = p.counter + if x.active then 1 else 0)
    (hlock : x.holdsLock = (p.phase i).holdsLock) (hentered : x.entered = (p.phase i).entered)
    (hcell : CellOk job cells shared { p.goto i x with
      cells := Function.update p.cells i c, permits := permits, counter := counter } i) :
    Inv job cap ids cells shared { p.goto i x with
      cells := Function.update p.cells i c, permits := permits, counter := counter } := by
  rcases hinv.mem_of_phase hphase with ⟨hi, htodo⟩
  exact hinv.of_goto hnodup hi x rfl hx hinv.todo_nodup htodo hpermits hle hcounter
    (hinv.holder_update x hlock) hinv.order_nodup (hinv.order_update x hentered) hcell
    (fun j hne => ⟨Function.update_of_ne hne _ _, rfl, fun _ => ⟨rfl, rfl⟩⟩) hinv.shared_ok

/-- A worker that holds a permit is counted. -/
theorem Inv.permits_pos (hinv : Inv job cap ids cells shared p) (hi : i ∈ ids)
    (hphase : (p.phase i).holdsPermit = true) : 0 < p.permits := by
  rw [hinv.permits_eq]
  exact List.countP_pos_iff.mpr ⟨i, hi, hphase⟩

/-- A worker that is not counted off is counted. -/
theorem Inv.counter_pos (hinv : Inv job cap ids cells shared p) (hi : i ∈ ids)
    (hphase : (p.phase i).active = true) : 0 < p.counter := by
  rw [hinv.counter_eq]
  exact List.countP_pos_iff.mpr ⟨i, hi, hphase⟩

/-- Every move of a worker preserves the invariant. -/
theorem inv_advance (hnodup : ids.Nodup) (hinv : Inv job cap ids cells shared p)
    (hstep : job.advance cap p i = some p') : Inv job cap ids cells shared p' := by
  have hcell := hinv.cells_ok i
  have hle := hinv.permits_le
  unfold CellOk at hcell
  cases advance_inv hstep with
  | acquire hphase hcap =>
      rw [hphase] at hcell
      have hquiet := hinv.of_quiet hnodup (i := i) .working (p.cells i) (p.permits + 1) p.counter
        (by simp [hphase]) (by simp) (by rw [hphase]; rfl) hcap (by rw [hphase]; rfl)
        (by rw [hphase]; rfl) (by rw [hphase]; rfl)
        (by unfold CellOk Pool.goto; simpa only [Function.update_self] using hcell)
      rwa [Function.update_eq_self] at hquiet
  | work hphase =>
      rw [hphase] at hcell
      exact hinv.of_quiet hnodup (i := i) (.finished (job.work i (p.cells i)).1) _ p.permits
        p.counter (by simp [hphase]) (by simp) (by rw [hphase]; rfl) hle (by rw [hphase]; rfl)
        (by rw [hphase]; rfl) (by rw [hphase]; rfl)
        (by unfold CellOk Pool.goto; simp only [Function.update_self, hcell])
  | lock hphase hfree => exact inv_lock hnodup hinv hphase hfree
  | report hphase => exact inv_report hnodup hinv hphase
  | unlock hphase => exact inv_unlock hnodup hinv hphase
  | release hphase =>
      rw [hphase] at hcell
      have hi := (hinv.mem_of_phase (i := i) (by simp [hphase])).1
      -- A permit that is given back was counted.
      have hpos := hinv.permits_pos hi (by rw [hphase]; rfl)
      have hquiet := hinv.of_quiet hnodup (i := i) .released (p.cells i) (p.permits - 1) p.counter
        (by simp [hphase]) (by simp) (by simp [hphase, Phase.holdsPermit]; omega)
        (by omega) (by rw [hphase]; rfl) (by rw [hphase]; rfl) (by rw [hphase]; rfl)
        (by unfold CellOk Pool.goto; simpa only [Function.update_self] using hcell)
      rwa [Function.update_eq_self] at hquiet
  | leave hphase =>
      rw [hphase] at hcell
      have hi := (hinv.mem_of_phase (i := i) (by simp [hphase])).1
      have hpos := hinv.counter_pos hi (by rw [hphase]; rfl)
      have hquiet := hinv.of_quiet hnodup (i := i) .done (p.cells i) p.permits (p.counter - 1)
        (by simp [hphase]) (by simp) (by rw [hphase]; rfl) hle
        (by simp [hphase, Phase.active]; omega) (by rw [hphase]; rfl) (by rw [hphase]; rfl)
        (by unfold CellOk Pool.goto; simpa only [Function.update_self] using hcell)
      rwa [Function.update_eq_self] at hquiet

/-- Every move preserves the invariant. -/
theorem inv_step (hnodup : ids.Nodup) (hinv : Inv job cap ids cells shared p) {m : Move ι}
    (hstep : job.step cap p m = some p') : Inv job cap ids cells shared p' := by
  cases m with
  | main => exact inv_spawn hnodup hinv hstep
  | worker i => exact inv_advance hnodup hinv hstep

/-- Every schedule preserves the invariant. -/
theorem inv_run_from (hnodup : ids.Nodup) (sched : List (Move ι))
    (hinv : Inv job cap ids cells shared p) (hrun : job.run cap p sched = some p') :
    Inv job cap ids cells shared p' := by
  induction sched generalizing p with
  | nil =>
      obtain rfl := Option.some.inj hrun
      exact hinv
  | cons m sched ih =>
      unfold run at hrun
      rw [List.foldlM_cons] at hrun
      rcases Option.bind_eq_some_iff.mp hrun with ⟨q, hstep, hrest⟩
      exact ih (inv_step hnodup hinv hstep) hrest

/-- The invariant holds along every run. -/
theorem inv_run (hnodup : ids.Nodup) (sched : List (Move ι))
    (hrun : job.run cap (Pool.start ids cells shared) sched = some p) :
    Inv job cap ids cells shared p :=
  inv_run_from hnodup sched (inv_start hnodup) hrun

/-- All workers are counted off when the main thread need not wait. -/
theorem Inv.phase_of_joined (hinv : Inv job cap ids cells shared p) (hjoined : p.Joined)
    (hi : i ∈ ids) : p.phase i = .done := by
  rcases hjoined with ⟨htodo, hcounter⟩
  have hidle : p.phase i ≠ .idle := by
    intro hidle
    have hmem := (hinv.idle_iff i hi).mp hidle
    rw [htodo] at hmem
    exact List.not_mem_nil hmem
  have hactive : (p.phase i).active ≠ true := by
    intro hactive
    have hpos := hinv.counter_pos hi hactive
    omega
  cases hphase : p.phase i with
  | idle => exact absurd hphase hidle
  | done => rfl
  | _ =>
      rw [hphase] at hactive
      exact absurd rfl hactive

/-- A run that is over has served all workers, in the order in which they took
    the lock. -/
theorem run_served (hnodup : ids.Nodup) (sched : List (Move ι))
    (hrun : job.run cap (Pool.start ids cells shared) sched = some p) (hjoined : p.Joined) :
    p.order.Perm ids ∧ (p.cells, p.shared) = job.served cells shared p.order := by
  have hinv := inv_run hnodup sched hrun
  have hmem : ∀ i, i ∈ p.order ↔ i ∈ ids := by
    intro i
    rw [hinv.mem_order]
    constructor
    · intro hentered
      by_contra hi
      rw [hinv.idle_of_not_mem i hi] at hentered
      exact Bool.false_ne_true hentered
    · intro hi
      rw [hinv.phase_of_joined hjoined hi]
      rfl
  refine ⟨(List.perm_ext_iff_of_nodup hinv.order_nodup hnodup).mpr hmem, Prod.ext ?_ ?_⟩
  · -- All workers are done, so the cells are what serving makes of them.
    funext i
    have hcell := hinv.cells_ok i
    unfold CellOk at hcell
    by_cases hi : i ∈ ids
    · rw [hinv.phase_of_joined hjoined hi] at hcell
      exact hcell
    · rw [hinv.idle_of_not_mem i hi] at hcell
      rw [served_of_not_mem job cells shared _ (mt (hmem i).mp hi)]
      exact hcell
  · refine hinv.shared_ok ?_
    -- A worker that is done does not have the lock.
    by_contra hsome
    rcases Option.ne_none_iff_exists'.mp hsome with ⟨i, hholder⟩
    have hholds := (hinv.holder_iff i).mp hholder
    by_cases hi : i ∈ ids
    · rw [hinv.phase_of_joined hjoined hi] at hholds
      exact Bool.false_ne_true hholds
    · rw [hinv.idle_of_not_mem i hi] at hholds
      exact Bool.false_ne_true hholds

/-- A worker that was started and is not counted off can move, but for one that
    waits for a permit or for the lock. -/
theorem advance_isSome (hactive : (p.phase i).active = true)
    (hpermit : p.phase i = .queued → p.permits < cap)
    (hlock : ∀ r, p.phase i = .finished r → p.holder = none) :
    (job.advance cap p i).isSome = true := by
  unfold advance
  cases hphase : p.phase i with
  | idle =>
      rw [hphase] at hactive
      exact absurd hactive Bool.false_ne_true
  | queued => simp only [if_pos (hpermit hphase), Option.isSome_some]
  | finished r => simp [hlock r hphase]
  | reporting steps =>
      cases steps with
      | nil => rfl
      | cons f rest => rfl
  | done =>
      rw [hphase] at hactive
      exact absurd hactive Bool.false_ne_true
  | _ => rfl

/-- Some worker that is not counted off does not have to wait. -/
theorem Inv.exists_advance (hinv : Inv job cap ids cells shared p) (hcap : 0 < cap)
    (hactive : (p.phase i).active = true) : ∃ j, (job.advance cap p j).isSome = true := by
  cases hholder : p.holder with
  | some j =>
      -- Who has the lock does not wait for it, or for a permit.
      have hholds := (hinv.holder_iff j).mp hholder
      refine ⟨j, advance_isSome ?_ (fun heq => ?_) (fun r heq => ?_)⟩
      · cases hphase : p.phase j with
        | reporting steps => rfl
        | _ =>
            rw [hphase] at hholds
            exact absurd hholds Bool.false_ne_true
      · rw [heq] at hholds
        exact absurd hholds Bool.false_ne_true
      · rw [heq] at hholds
        exact absurd hholds Bool.false_ne_true
  | none =>
      by_cases hfree : p.permits < cap
      · exact ⟨i, advance_isSome hactive (fun _ => hfree) (fun _ _ => hholder)⟩
      · -- All permits are in use, and one who has a permit does not wait for one.
        have hused : 0 < p.permits := by omega
        rw [hinv.permits_eq, List.countP_pos_iff] at hused
        rcases hused with ⟨j, _, hholds⟩
        refine ⟨j, advance_isSome ?_ (fun heq => ?_) (fun _ _ => hholder)⟩
        · cases hphase : p.phase j with
          | idle =>
              rw [hphase] at hholds
              exact absurd hholds Bool.false_ne_true
          | done =>
              rw [hphase] at hholds
              exact absurd hholds Bool.false_ne_true
          | _ => rfl
        · rw [heq] at hholds
          exact absurd hholds Bool.false_ne_true

/-- Until the main thread need not wait any longer, somebody can move. -/
theorem exists_move (hinv : Inv job cap ids cells shared p) (hcap : 0 < cap)
    (hjoined : ¬ p.Joined) : ∃ m, (job.step cap p m).isSome = true := by
  cases htodo : p.todo with
  | cons i rest =>
      refine ⟨.main, ?_⟩
      rw [step_main]
      unfold spawn
      rw [htodo]
      rfl
  | nil =>
      have hpos : 0 < p.counter := Nat.pos_of_ne_zero fun hzero => hjoined ⟨htodo, hzero⟩
      rw [hinv.counter_eq, List.countP_pos_iff] at hpos
      rcases hpos with ⟨i, _, hactive⟩
      rcases hinv.exists_advance hcap hactive with ⟨j, hj⟩
      exact ⟨.worker j, hj⟩

/-- Without permits no worker gets further than to wait for one. -/
theorem no_permit (sched : List (Move ι))
    (hphase : ∀ i, p.phase i = .idle ∨ p.phase i = .queued)
    (hrun : job.run 0 p sched = some p') :
    (∀ i, p'.phase i = .idle ∨ p'.phase i = .queued) ∧ p'.shared = p.shared := by
  induction sched generalizing p with
  | nil =>
      obtain rfl := Option.some.inj hrun
      exact ⟨hphase, rfl⟩
  | cons m sched ih =>
      unfold run at hrun
      rw [List.foldlM_cons] at hrun
      rcases Option.bind_eq_some_iff.mp hrun with ⟨q, hstep, hrest⟩
      -- One move, which is the start of a worker.
      suffices hq : (∀ i, q.phase i = .idle ∨ q.phase i = .queued) ∧ q.shared = p.shared by
        rcases ih hq.1 hrest with ⟨hphase', hshared⟩
        exact ⟨hphase', hshared.trans hq.2⟩
      cases m with
      | main =>
          rcases spawn_inv hstep with ⟨i, rest, _, rfl⟩
          refine ⟨fun j => ?_, rfl⟩
          unfold Pool.goto
          by_cases hij : j = i
          · simp only [hij, Function.update_self, or_true]
          · simp only [Function.update_of_ne hij]
            exact hphase j
      | worker i =>
          have hi := hphase i
          cases advance_inv hstep with
          | acquire _ hcap => exact absurd hcap (Nat.not_lt_zero _)
          | _ hmoved => simp [hmoved] at hi

end Invariant

section Length

variable {job : Job ι C R S} {cap : Nat} {ids : List ι} {cells : ι → C} {shared : S}
  {p p' : Pool ι C R S}

/-- The moves of a worker that are still to come, the start among them, when its
    report has as many steps as are given. -/
def Phase.left (steps : Nat) : Phase C R S → Nat
  | idle => steps + 7
  | queued => steps + 6
  | working => steps + 5
  | finished _ => steps + 4
  | reporting rest => rest.length + 3
  | reported => 2
  | released => 1
  | done => 0

/-- The number of steps of the report of a worker. -/
def Job.steps (job : Job ι C R S) (cells : ι → C) (i : ι) : Nat :=
  (job.report i (job.work i (cells i)).1).length

/-- The moves that are still to come. -/
def Pool.left (job : Job ι C R S) (cells : ι → C) (ids : List ι) (p : Pool ι C R S) : Nat :=
  (ids.map fun i => (p.phase i).left (job.steps cells i)).sum

/-- Each move brings the end nearer by one. -/
theorem left_step (hnodup : ids.Nodup) (hinv : Inv job cap ids cells shared p) {m : Move ι}
    (hstep : job.step cap p m = some p') : p'.left job cells ids + 1 = p.left job cells ids := by
  -- It suffices to look at the worker that moves.
  have hgoto : ∀ i ∈ ids, ∀ x : Phase C R S,
      x.left (job.steps cells i) + 1 = (p.phase i).left (job.steps cells i) →
      (p.goto i x).left job cells ids + 1 = p.left job cells ids := by
    intro i hi x hleft
    have hsum := sum_update (fun j => Phase.left (C := C) (R := R) (S := S) (job.steps cells j))
      p.phase i x ids hnodup hi
    unfold Pool.left Pool.goto
    simp only at hsum ⊢
    omega
  cases m with
  | main =>
      rcases spawn_inv hstep with ⟨i, rest, htodo, rfl⟩
      have hmem : i ∈ p.todo := htodo ▸ List.mem_cons_self
      have hi := hinv.mem_todo i hmem
      refine hgoto i hi .queued ?_
      rw [(hinv.idle_iff i hi).mpr hmem]
      rfl
  | worker i =>
      have hi : p.phase i ≠ .idle → i ∈ ids := fun hphase => (hinv.mem_of_phase hphase).1
      cases advance_inv hstep with
      -- The number of steps becomes known here: it was counted from the result of the work.
      | lock hphase _ =>
          refine hgoto i (hi (by simp [hphase])) (.reporting _) ?_
          have hcell := hinv.cells_ok i
          unfold CellOk at hcell
          rw [hphase] at hcell ⊢
          simp only [Phase.left, Job.steps, hcell]
      | acquire hphase _ => exact hgoto i (hi (by simp [hphase])) .working (by rw [hphase]; rfl)
      | work hphase => exact hgoto i (hi (by simp [hphase])) (.finished _) (by rw [hphase]; rfl)
      | report hphase =>
          refine hgoto i (hi (by simp [hphase])) (.reporting _) ?_
          rw [hphase]
          simp only [Phase.left, List.length_cons]
      | unlock hphase => exact hgoto i (hi (by simp [hphase])) .reported (by rw [hphase]; rfl)
      | release hphase => exact hgoto i (hi (by simp [hphase])) .released (by rw [hphase]; rfl)
      | leave hphase => exact hgoto i (hi (by simp [hphase])) .done (by rw [hphase]; rfl)

theorem run_append (sched sched' : List (Move ι)) (p : Pool ι C R S) :
    job.run cap p (sched ++ sched') = (job.run cap p sched).bind fun q => job.run cap q sched' :=
  List.foldlM_append ..

/-- With a permit, a run can be continued until it is over. -/
theorem exists_joined (hnodup : ids.Nodup) (hcap : 0 < cap)
    (hinv : Inv job cap ids cells shared p) :
    ∃ sched p', job.run cap p sched = some p' ∧ p'.Joined := by
  -- The moves that are left get fewer.
  induction hleft : p.left job cells ids generalizing p with
  | zero =>
      refine ⟨[], p, rfl, ?_⟩
      by_contra hjoined
      rcases exists_move hinv hcap hjoined with ⟨m, hm⟩
      rcases Option.isSome_iff_exists.mp hm with ⟨q, hq⟩
      have hstep := left_step hnodup hinv hq
      omega
  | succ n ih =>
      by_cases hjoined : p.Joined
      · exact ⟨[], p, rfl, hjoined⟩
      · rcases exists_move hinv hcap hjoined with ⟨m, hm⟩
        rcases Option.isSome_iff_exists.mp hm with ⟨q, hq⟩
        have hstep := left_step hnodup hinv hq
        rcases ih (inv_step hnodup hinv hq) (by omega) with ⟨sched, p', hrun, hdone⟩
        refine ⟨m :: sched, p', ?_, hdone⟩
        unfold run
        rw [List.foldlM_cons, hq]
        exact hrun

/-- Without permits a run is over only if there was nobody to start. -/
theorem eq_nil_of_no_permit (hnodup : ids.Nodup) (sched : List (Move ι))
    (hrun : job.run 0 (Pool.start ids cells shared) sched = some p) (hjoined : p.Joined) :
    ids = [] := by
  refine List.eq_nil_iff_forall_not_mem.mpr fun i hi => ?_
  have hdone := (inv_run hnodup sched hrun).phase_of_joined hjoined hi
  rcases (no_permit sched (fun _ => .inl rfl) hrun).1 i with hphase | hphase
  · exact absurd (hdone.symm.trans hphase) (by simp only [reduceCtorEq, not_false_eq_true])
  · exact absurd (hdone.symm.trans hphase) (by simp only [reduceCtorEq, not_false_eq_true])

end Length

end Workers
