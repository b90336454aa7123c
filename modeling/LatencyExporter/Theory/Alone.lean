import LatencyExporter.Theory.Concurrent

/-!
# Runs without Interference

The two models of the completion handlers agree where both apply. `Core.Bpf`
has each handler as one step on finite maps; `Core.Bpf.Concurrent` has it as
six steps on a map with element identities. A run that takes its steps one
after another, with no other run in between, ends with the maps the one step
computes.

## Main definitions

* `Represents`: A heap and the map it stands for.
* `Completion.atomic`: A handler as one step.
* `Returns`, `AllReturn`: Runs have returned and left two maps behind.
* `inTurn`: Schedules in which no two runs overlap.
* `Completion.atomicRun`: The handlers as steps, one after another.
* `Ready`: A machine before its runs begin.

## Theorems

* `represents_update`, `represents_fetchAndAdd`: The operations of the heap.
* `run_alone_fetchAndAdd`, `run_alone_lookupHist`: The tail of a run.
* `run_alone`: A whole run is the handler as one step.
* `blockRqComplete_atomic`, `nfsDone_atomic`, `kretprobeNfsVfs_atomic`: That
  step is the handler of `Core.Bpf`.
* `run_inTurn`: Any number of runs, one after another.
* `handlers_in_turn`: The step-by-step model refines `Core.Bpf`.
-/

namespace LatencyExporter

namespace Bpf

section Alone

variable {A K V : Type} {n : Nat} [DecidableEq K]

/-- The heap stands for the map: every key has the element its index says. -/
def Represents (h : HistHeap) (hists : HistMap) : Prop :=
  ∀ hk, hists.lookup hk = (h.index.lookup hk).map h.elems

theorem represents_update (h : HistHeap) (hists : HistMap) (hk : HistKey)
    (hr : Represents h hists) (hnone : h.index.lookup hk = none) :
    Represents (h.update hk) (ensureHist hists hk) := by
  intro hk'
  simp only [HistHeap.update]
  by_cases hkk : hk' = hk
  · -- The key gets a zero histogram on both sides.
    rw [hkk, ensureHist_lookup, hr hk, hnone, Finmap.lookup_insert, Option.map_some,
      Function.update_self]
    rfl
  · rw [ensureHist_lookup_ne _ _ _ hkk, hr hk', Finmap.lookup_insert_of_ne _ hkk]
    cases hp : h.index.lookup hk' with
    | none => rfl
    | some p =>
        rw [Option.map_some, Option.map_some,
          Function.update_of_ne (Nat.ne_of_lt (h.lt_next hk' p hp))]

theorem represents_fetchAndAdd (h : HistHeap) (hists : HistMap) (hk : HistKey) (p : Nat)
    (slot : Fin maxSlots) (hr : Represents h (ensureHist hists hk))
    (hp : h.index.lookup hk = some p) :
    Represents (h.fetchAndAdd p slot) (recordSample hists hk slot) := by
  intro hk'
  simp only [HistHeap.fetchAndAdd]
  by_cases hkk : hk' = hk
  · have hens := hr hk
    rw [ensureHist_lookup, hp, Option.map_some, Option.some.injEq] at hens
    rw [hkk, recordSample_lookup, hp, Option.map_some, Function.update_self, hens]
  · have hens := hr hk'
    rw [ensureHist_lookup_ne _ _ _ hkk] at hens
    rw [recordSample_lookup_ne _ _ _ _ hkk, hens]
    cases hq : h.index.lookup hk' with
    | none => rfl
    | some q =>
        -- Another key has another element.
        have hne : q ≠ p := by
          intro hc
          rw [hc] at hq
          exact hkk (h.inj hk' hk p hq hp)
        rw [Option.map_some, Option.map_some, Function.update_of_ne hne]

/-- A completion handler as one step on its maps. -/
def Completion.atomic (c : Completion A K V) (a : A) (start : Finmap (fun _ : K => V))
    (hists : HistMap) : Finmap (fun _ : K => V) × HistMap :=
  match start.lookup (c.key a) with
  | none => (start, hists)
  | some v => (start.erase (c.key a), recordOpt hists (c.sample a v))

/-- A run has returned and left the two maps behind. -/
def Returns (s : Machine n K V) (i : Fin n) (start : Finmap (fun _ : K => V))
    (hists : HistMap) : Prop :=
  (∃ counted, s.pc i = .returned counted) ∧ s.start = start ∧ Represents s.heap hists

theorem run_returned (c : Completion A K V) (args : Fin n → A) (s : Machine n K V) (i : Fin n)
    (k : Nat) (hpc : ∃ counted, s.pc i = .returned counted) :
    c.run args s (List.replicate k i) = s := by
  rcases hpc with ⟨counted, hpc⟩
  -- A run that has returned takes no more steps.
  have hstep : c.step args s i = s := by
    unfold Completion.step
    rw [hpc]
  induction k with
  | zero => rfl
  | succ k ih =>
      rw [List.replicate_succ]
      change c.run args (c.step args s i) _ = s
      rw [hstep, ih]

theorem run_alone_fetchAndAdd (c : Completion A K V) (args : Fin n → A) (s : Machine n K V)
    (i : Fin n) (hists : HistMap) (hk : HistKey) (p : Nat) (slot : Fin maxSlots) (k : Nat)
    (hpc : s.pc i = .fetchAndAdd p slot) (hr : Represents s.heap (ensureHist hists hk))
    (hp : s.heap.index.lookup hk = some p) :
    Returns (c.run args s (List.replicate (k + 1) i)) i s.start (recordSample hists hk slot) := by
  have hstep : c.step args s i
      = { s.goto i (.returned true) with heap := s.heap.fetchAndAdd p slot } := by
    unfold Completion.step
    rw [hpc]
  have hdone : ∃ counted, (c.step args s i).pc i = .returned counted :=
    ⟨true, by rw [hstep]; exact Function.update_self ..⟩
  rw [List.replicate_succ]
  change Returns (c.run args (c.step args s i) _) i _ _
  rw [run_returned c args _ i k hdone]
  refine ⟨hdone, ?_, ?_⟩
  · rw [hstep]
    rfl
  · rw [hstep]
    exact represents_fetchAndAdd s.heap hists hk p slot hr hp

/-- From the first histogram lookup on, at most four steps remain. -/
theorem run_alone_lookupHist (c : Completion A K V) (args : Fin n → A) (s : Machine n K V)
    (i : Fin n) (hists : HistMap) (hk : HistKey) (slot : Fin maxSlots)
    (hpc : s.pc i = .lookupHist hk slot) (hr : Represents s.heap hists) :
    Returns (c.run args s (List.replicate 4 i)) i s.start (recordSample hists hk slot) := by
  cases hp : s.heap.index.lookup hk with
  | some p =>
      -- The histogram is there, and looking it up is all that was left to do.
      have hstep : c.step args s i = s.goto i (.fetchAndAdd p slot) := by
        unfold Completion.step
        rw [hpc]
        simp only [hp]
      have hens : ensureHist hists hk = hists := by
        unfold ensureHist
        rw [hr hk, hp]
        rfl
      change Returns (c.run args (c.step args s i) (List.replicate 3 i)) i _ _
      rw [hstep]
      refine run_alone_fetchAndAdd c args (s.goto i (.fetchAndAdd p slot)) i hists hk p slot 2
        (Function.update_self ..) ?_ hp
      rw [hens]
      exact hr
  | none =>
      -- Create it, and find the new element under the key.
      have hlookup : (s.heap.update hk).index.lookup hk = some s.heap.next :=
        Finmap.lookup_insert _
      let s₁ := s.goto i (.updateHist hk slot)
      -- The handler sees its own new element, not one of another run.
      let s₂ : Machine n K V :=
        { s₁.goto i (.lookupAgain hk slot) with heap := s.heap.update hk }
      let s₃ := s₂.goto i (.fetchAndAdd s.heap.next slot)
      have hstep₁ : c.step args s i = s₁ := by
        unfold Completion.step
        rw [hpc]
        simp only [hp, s₁]
      have hstep₂ : c.step args s₁ i = s₂ := by
        have hpc₁ : s₁.pc i = .updateHist hk slot := Function.update_self ..
        unfold Completion.step
        rw [hpc₁]
        rfl
      have hstep₃ : c.step args s₂ i = s₃ := by
        have hpc₂ : s₂.pc i = .lookupAgain hk slot := Function.update_self ..
        have hlookup₂ : s₂.heap.index.lookup hk = some s.heap.next := hlookup
        unfold Completion.step
        rw [hpc₂]
        simp only [hlookup₂, s₃]
      change Returns (c.run args (c.step args (c.step args (c.step args s i) i) i)
        (List.replicate 1 i)) i _ _
      rw [hstep₁, hstep₂, hstep₃]
      exact run_alone_fetchAndAdd c args s₃ i hists hk s.heap.next slot 0
        (Function.update_self ..) (represents_update s.heap hists hk hr hp) hlookup

/-- A run that takes its six steps without interference does what the handler
    does as one step. -/
theorem run_alone (c : Completion A K V) (args : Fin n → A) (s : Machine n K V) (i : Fin n)
    (hists : HistMap) (hpc : s.pc i = .lookupStart) (hr : Represents s.heap hists) :
    Returns (c.run args s (List.replicate 6 i)) i (c.atomic (args i) s.start hists).1
      (c.atomic (args i) s.start hists).2 := by
  unfold Completion.atomic
  cases hv : s.start.lookup (c.key (args i)) with
  | none =>
      -- No start time: the run returns at once, and five steps do nothing.
      have hstep : c.step args s i = s.goto i (.returned false) := by
        unfold Completion.step
        rw [hpc]
        simp only [hv]
      have hdone : ∃ counted, (s.goto i (.returned false)).pc i = .returned counted :=
        ⟨false, Function.update_self ..⟩
      change Returns (c.run args (c.step args s i) (List.replicate 5 i)) i _ _
      rw [hstep, run_returned c args _ i 5 hdone]
      exact ⟨hdone, rfl, hr⟩
  | some v =>
      have hstep : c.step args s i = s.goto i (.deleteStart v) := by
        unfold Completion.step
        rw [hpc]
        simp only [hv]
      have hpc₁ : (s.goto i (.deleteStart v)).pc i = .deleteStart v := Function.update_self ..
      change Returns (c.run args (c.step args (c.step args s i) i) (List.replicate 4 i)) i _ _
      rw [hstep]
      cases hs : c.sample (args i) v with
      | none =>
          -- The entry is deleted although nothing is counted.
          let s₂ : Machine n K V := { (s.goto i (.deleteStart v)).goto i (.returned false) with
            start := s.start.erase (c.key (args i)) }
          have hstep₂ : c.step args (s.goto i (.deleteStart v)) i = s₂ := by
            unfold Completion.step
            rw [hpc₁]
            simp only [hs, s₂]
            rfl
          have hdone : ∃ counted, s₂.pc i = .returned counted := ⟨false, Function.update_self ..⟩
          rw [hstep₂, run_returned c args _ i 4 hdone]
          refine ⟨hdone, rfl, ?_⟩
          simp only [hs]
          exact hr
      | some hks =>
          -- Delete the entry, then count from the first histogram lookup on.
          rcases hks with ⟨hk, slot⟩
          let s₂ : Machine n K V := { (s.goto i (.deleteStart v)).goto i (.lookupHist hk slot) with
            start := s.start.erase (c.key (args i)) }
          have hstep₂ : c.step args (s.goto i (.deleteStart v)) i = s₂ := by
            unfold Completion.step
            rw [hpc₁]
            simp only [hs, s₂]
            rfl
          rw [hstep₂]
          simp only [hs]
          exact run_alone_lookupHist c args s₂ i hists hk slot (Function.update_self ..) hr

/-- A step of one run leaves the others where they are. -/
theorem step_pc_of_ne (c : Completion A K V) (args : Fin n → A) (s : Machine n K V) {i j : Fin n}
    (hne : j ≠ i) : (c.step args s i).pc j = s.pc j := by
  unfold Completion.step
  -- Whatever the step is, it moves the program counter of its own run only.
  cases s.pc i with
  | lookupStart =>
      simp only
      cases s.start.lookup (c.key (args i)) <;> exact Function.update_of_ne hne ..
  | deleteStart v =>
      simp only
      cases c.sample (args i) v <;> exact Function.update_of_ne hne ..
  | lookupHist hk slot =>
      simp only
      cases s.heap.index.lookup hk <;> exact Function.update_of_ne hne ..
  | updateHist hk slot => exact Function.update_of_ne hne ..
  | lookupAgain hk slot =>
      simp only
      cases s.heap.index.lookup hk <;> exact Function.update_of_ne hne ..
  | fetchAndAdd p slot => exact Function.update_of_ne hne ..
  | returned counted => rfl

theorem run_pc_of_not_mem (c : Completion A K V) (args : Fin n → A) (s : Machine n K V)
    (sched : List (Fin n)) {j : Fin n} (hj : j ∉ sched) : (c.run args s sched).pc j = s.pc j := by
  induction sched generalizing s with
  | nil => rfl
  | cons i sched ih =>
      rw [List.mem_cons, not_or] at hj
      exact (ih (c.step args s i) hj.2).trans (step_pc_of_ne c args s hj.1)

/-- A schedule of runs that take turns: each one takes its six steps before the
    next one starts. -/
def inTurn (order : List (Fin n)) : List (Fin n) := order.flatMap (List.replicate 6)

theorem not_mem_inTurn {order : List (Fin n)} {i : Fin n} (hi : i ∉ order) : i ∉ inTurn order := by
  intro hmem
  rcases List.mem_flatMap.mp hmem with ⟨j, hj, hij⟩
  exact hi (List.eq_of_mem_replicate hij ▸ hj)

/-- The handlers as steps, one after another. -/
def Completion.atomicRun (c : Completion A K V) (args : Fin n → A) (order : List (Fin n))
    (maps : Finmap (fun _ : K => V) × HistMap) : Finmap (fun _ : K => V) × HistMap :=
  order.foldl (fun maps i => c.atomic (args i) maps.1 maps.2) maps

/-- These runs have returned and left the two maps behind. -/
def AllReturn (m : Machine n K V) (order : List (Fin n)) (start : Finmap (fun _ : K => V))
    (hists : HistMap) : Prop :=
  (∀ i ∈ order, ∃ counted, m.pc i = .returned counted) ∧ m.start = start ∧
    Represents m.heap hists

/-- Runs that take turns all return, and leave the maps the handlers leave as
    steps. -/
theorem run_inTurn (c : Completion A K V) (args : Fin n → A) (s : Machine n K V)
    (order : List (Fin n)) (hnodup : order.Nodup) (hists : HistMap)
    (hpc : ∀ i ∈ order, s.pc i = .lookupStart) (hr : Represents s.heap hists) :
    AllReturn (c.run args s (inTurn order)) order (c.atomicRun args order (s.start, hists)).1
      (c.atomicRun args order (s.start, hists)).2 := by
  induction order generalizing s hists with
  | nil => exact ⟨fun i hi => absurd hi List.not_mem_nil, rfl, hr⟩
  | cons i order ih =>
      rw [List.nodup_cons] at hnodup
      rcases run_alone c args s i hists (hpc i List.mem_cons_self) hr with
        ⟨⟨counted, hreturned⟩, hstart, hheap⟩
      -- The six steps of the first run come before all others.
      have hsplit : c.run args s (inTurn (i :: order))
          = c.run args (c.run args s (List.replicate 6 i)) (inTurn order) := List.foldl_append ..
      -- The others have not begun when the first one returns.
      have hwait : ∀ j ∈ order, (c.run args s (List.replicate 6 i)).pc j = .lookupStart := by
        intro j hj
        have hji : j ∉ List.replicate 6 i := fun hmem =>
          hnodup.1 (List.eq_of_mem_replicate hmem ▸ hj)
        rw [run_pc_of_not_mem c args s _ hji, hpc j (List.mem_cons_of_mem _ hj)]
      rcases ih _ hnodup.2 _ hwait hheap with ⟨hothers, hmaps⟩
      rw [hsplit]
      refine ⟨fun j hj => ?_, ?_⟩
      · rcases List.mem_cons.mp hj with rfl | hj
        · -- The first run has returned and is not scheduled again.
          rw [run_pc_of_not_mem c args _ _ (not_mem_inTurn hnodup.1)]
          exact ⟨counted, hreturned⟩
        · exact hothers j hj
      · rw [hstart] at hmaps
        exact hmaps

/-- A machine that has the maps of a program and runs that have not begun. -/
structure Ready (m : Machine n K V) (start : Finmap (fun _ : K => V)) (hists : HistMap) :
    Prop where
  start_eq : m.start = start
  represents : Represents m.heap hists
  pc_eq : ∀ i, m.pc i = .lookupStart

/-- Runs that take turns, for a handler on states of its own. -/
theorem run_inTurn_handler {S : Type} (c : Completion A K V) (args : Fin n → A)
    (maps : S → Finmap (fun _ : K => V) × HistMap) (handler : S → Fin n → S)
    (hhandler : ∀ s i, maps (handler s i) = c.atomic (args i) (maps s).1 (maps s).2)
    (order : List (Fin n)) (hnodup : order.Nodup) (m : Machine n K V) (s : S)
    (hready : Ready m (maps s).1 (maps s).2) :
    AllReturn (c.run args m (inTurn order)) order (maps (order.foldl handler s)).1
      (maps (order.foldl handler s)).2 := by
  have hsteps : c.atomicRun args order (maps s) = maps (order.foldl handler s) :=
    List.foldl_hom maps fun s i => (hhandler s i).symm
  have hruns := run_inTurn c args m order hnodup (maps s).2 (fun i _ => hready.pc_eq i)
    hready.represents
  rw [hready.start_eq, Prod.mk.eta, hsteps] at hruns
  exact hruns

end Alone

theorem blockRqComplete_atomic (s : BlockState) (ctx : BlockRq) (now : Ktime) :
    ((blockRqComplete s ctx now).start, (blockRqComplete s ctx now).hists)
      = blockCompletion.atomic (ctx, now) s.start s.hists := by
  have hkey : blockCompletion.key (ctx, now) = ctx.key := rfl
  unfold blockRqComplete Completion.atomic
  rw [hkey]
  cases s.start.lookup ctx.key <;> rfl

theorem nfsDone_atomic (op : UInt8) (s : NfsState) (hdr : PgioHeader) (now : Ktime) :
    ((nfsDone op s hdr now).start, (nfsDone op s hdr now).hists)
      = nfsCompletion.atomic (hdr, op, now) s.start s.hists := by
  have hkey : nfsCompletion.key (hdr, op, now) = nfsFillKey hdr op := rfl
  unfold nfsDone nfsRecordLatency Completion.atomic
  rw [hkey]
  cases hv : s.start.lookup (nfsFillKey hdr op) with
  | none => simp only [hv]
  | some tsp =>
      simp only [hv]
      rfl

theorem kretprobeNfsVfs_atomic (s : KprobeState) (pidTgid : UInt64) (now : Ktime) :
    ((kretprobeNfsVfs s pidTgid now).start, (kretprobeNfsVfs s pidTgid now).hists)
      = kprobeCompletion.atomic (pidTgid, now) s.start s.hists := by
  have hkey : kprobeCompletion.key (pidTgid, now) = pidTgid := rfl
  unfold kretprobeNfsVfs Completion.atomic
  rw [hkey]
  cases s.start.lookup pidTgid <;> rfl

/-- The handlers step by step refine the handlers of `Core.Bpf`. Whatever the
    maps are, runs of a handler that take turns all return, and the maps are
    those the handler leaves when it is called for one run after another. -/
theorem handlers_in_turn {n : Nat} (order : List (Fin n)) (hnodup : order.Nodup) :
    (∀ (args : Fin n → BlockRq × Ktime) (m : Machine n ReqKey UInt64) (s : BlockState),
      Ready m s.start s.hists →
      let s' := order.foldl (fun s i => blockRqComplete s (args i).1 (args i).2) s
      AllReturn (blockCompletion.run args m (inTurn order)) order s'.start s'.hists) ∧
    (∀ (args : Fin n → PgioHeader × UInt8 × Ktime) (m : Machine n NfsReqKey UInt64)
      (s : NfsState), Ready m s.start s.hists →
      let s' := order.foldl (fun s i => nfsDone (args i).2.1 s (args i).1 (args i).2.2) s
      AllReturn (nfsCompletion.run args m (inTurn order)) order s'.start s'.hists) ∧
    ∀ (args : Fin n → UInt64 × Ktime) (m : Machine n UInt64 KprobeStart) (s : KprobeState),
      Ready m s.start s.hists →
      let s' := order.foldl (fun s i => kretprobeNfsVfs s (args i).1 (args i).2) s
      AllReturn (kprobeCompletion.run args m (inTurn order)) order s'.start s'.hists := by
  refine ⟨fun args m s hready => ?_, fun args m s hready => ?_, fun args m s hready => ?_⟩
  · exact run_inTurn_handler blockCompletion args (fun s : BlockState => (s.start, s.hists)) _
      (fun s i => blockRqComplete_atomic s (args i).1 (args i).2) order hnodup m s hready
  · exact run_inTurn_handler nfsCompletion args (fun s : NfsState => (s.start, s.hists)) _
      (fun s i => nfsDone_atomic (args i).2.1 s (args i).1 (args i).2.2) order hnodup m s hready
  · exact run_inTurn_handler kprobeCompletion args (fun s : KprobeState => (s.start, s.hists)) _
      (fun s i => kretprobeNfsVfs_atomic s (args i).1 (args i).2) order hnodup m s hready

/-- Both reads are counted if the second one waits for the first. -/
theorem handlers_in_turn_two_reads :
    let s' := [0, 1].foldl (fun s i => blockRqComplete s (twoReads i).1 (twoReads i).2)
      { start := twoCpus.start, hists := ∅ }
    AllReturn (blockCompletion.run twoReads twoCpus (inTurn [0, 1])) [0, 1] s'.start s'.hists ∧
      sampleCount s'.hists ⟨8, 0⟩ (latencySlot 1000000) = 2 := by
  refine ⟨?_, by decide +kernel⟩
  refine (handlers_in_turn [0, 1] (by decide)).1 twoReads twoCpus
    { start := twoCpus.start, hists := ∅ } ⟨rfl, fun hk => ?_, fun _ => rfl⟩
  rw [Finmap.lookup_empty]
  rfl

end Bpf

end LatencyExporter
