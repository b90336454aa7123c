import Mathlib.Data.List.Basic
import Mathlib.Logic.Function.Basic

/-!
# Publication under a Read-Write Lock

One writer brings a shared record from version to version, and any number of
readers look at it. The writer makes its changes in critical sections, one
assignment at a time, and a reader goes through its statements one at a time;
in between, anybody else may move. The lock lets the writer in only if no reader
is inside, and a reader only if the writer is not.

So a reader finds the record between two sections, as the writer's sections
before it have left it, and all its statements find the same
(`run_done`): it never sees a section half done. A reader that begins after
another one has ended finds the same version or a later one
(`version_le_of_later`). Nobody is ever locked out: whatever has happened,
a reader can be brought to its end, and so can the next section (`exists_read`,
`exists_published`).

A lock that holds back new readers while a writer waits only allows fewer
schedules, so all this holds of it too.

## Main definitions

* `Reader`, `Memory`: Where the readers and the writer are.
* `step`, `run`: Schedules.
* `stateAt`, `observe`: The versions, and what a reader makes of one.
* `Inv`: The invariant.

## Theorems

* `stepped_of_step`: What a move does.
* `inv_run`: The invariant holds throughout.
* `run_done`: What a reader has seen.
* `version_le_of_later`: Readers one after the other.
* `exists_read`, `exists_published`: Nobody is locked out.
-/

namespace RwLock

/-- A reader: before its critical section, inside with some statements to go,
    or through. It remembers which version it found. -/
inductive Reader (S L : Type) where
  | idle
  | reading (version : Nat) (rest : List (S → L → L)) (seen : L)
  | done (version : Nat) (seen : L)

/-- The record, what is left of the section the writer is in, the sections after
    that, the number of sections that are complete, and the readers inside. -/
structure Memory (ι S L : Type) where
  shared : S
  writing : Option (List (S → S))
  sections : List (List (S → S))
  version : Nat
  active : List ι
  readers : ι → Reader S L

/-- A move of the writer or of a reader. -/
inductive Move (ι : Type) where
  | lock
  | write
  | unlock
  | rlock (i : ι)
  | read (i : ι)
  | runlock (i : ι)

variable {ι S L : Type}

/-- Nobody has moved yet. -/
def Memory.start (s₀ : S) (sections : List (List (S → S))) : Memory ι S L :=
  { shared := s₀, writing := none, sections := sections, version := 0, active := [],
    readers := fun _ => .idle }

/-- A reader continues. -/
def Memory.goto [DecidableEq ι] (m : Memory ι S L) (i : ι) (r : Reader S L) : Memory ι S L :=
  { m with readers := Function.update m.readers i r }

section Schedules

variable [DecidableEq ι] (prog : List (S → L → L)) (init : L)

/-- One move, if it is possible. -/
def step (m : Memory ι S L) : Move ι → Option (Memory ι S L)
  | .lock => match m.writing, m.active, m.sections with
      | none, [], ws :: rest => some { m with writing := some ws, sections := rest }
      | _, _, _ => none
  | .write => match m.writing with
      | some (w :: ws) => some { m with shared := w m.shared, writing := some ws }
      | _ => none
  | .unlock => match m.writing with
      | some [] => some { m with writing := none, version := m.version + 1 }
      | _ => none
  | .rlock i => match m.writing, m.readers i with
      | none, .idle =>
          some { m.goto i (.reading m.version prog init) with active := i :: m.active }
      | _, _ => none
  | .read i => match m.readers i with
      | .reading v (f :: rest) seen => some (m.goto i (.reading v rest (f m.shared seen)))
      | _ => none
  | .runlock i => match m.readers i with
      | .reading v [] seen => some { m.goto i (.done v seen) with active := m.active.erase i }
      | _ => none

/-- The moves of a schedule, all of which have to be possible. -/
def run (m : Memory ι S L) (sched : List (Move ι)) : Option (Memory ι S L) :=
  sched.foldlM (step prog init) m

/-- What a move does. -/
inductive Stepped (m : Memory ι S L) : Move ι → Memory ι S L → Prop where
  | lock (ws : List (S → S)) (rest : List (List (S → S))) (hwriting : m.writing = none)
      (hactive : m.active = []) (hsections : m.sections = ws :: rest) :
      Stepped m .lock { m with writing := some ws, sections := rest }
  | write (w : S → S) (ws : List (S → S)) (hwriting : m.writing = some (w :: ws)) :
      Stepped m .write { m with shared := w m.shared, writing := some ws }
  | unlock (hwriting : m.writing = some []) :
      Stepped m .unlock { m with writing := none, version := m.version + 1 }
  | rlock (i : ι) (hwriting : m.writing = none) (hidle : m.readers i = .idle) :
      Stepped m (.rlock i)
        { m.goto i (.reading m.version prog init) with active := i :: m.active }
  | read (i : ι) (v : Nat) (f : S → L → L) (rest : List (S → L → L)) (seen : L)
      (hreading : m.readers i = .reading v (f :: rest) seen) :
      Stepped m (.read i) (m.goto i (.reading v rest (f m.shared seen)))
  | runlock (i : ι) (v : Nat) (seen : L) (hreading : m.readers i = .reading v [] seen) :
      Stepped m (.runlock i) { m.goto i (.done v seen) with active := m.active.erase i }

/-- A move that is possible is one of these. -/
theorem stepped_of_step {m m' : Memory ι S L} {move : Move ι}
    (hstep : step prog init m move = some m') : Stepped prog init m move m' := by
  cases move with
  | lock =>
      simp only [step] at hstep
      split at hstep
      · next ws rest hwriting hactive hsections =>
          rw [← Option.some.inj hstep]
          exact .lock ws rest hwriting hactive hsections
      · exact absurd hstep (by simp only [reduceCtorEq, not_false_eq_true])
  | write =>
      simp only [step] at hstep
      split at hstep
      · next w ws hwriting =>
          rw [← Option.some.inj hstep]
          exact .write w ws hwriting
      · exact absurd hstep (by simp only [reduceCtorEq, not_false_eq_true])
  | unlock =>
      simp only [step] at hstep
      split at hstep
      · next hwriting =>
          rw [← Option.some.inj hstep]
          exact .unlock hwriting
      · exact absurd hstep (by simp only [reduceCtorEq, not_false_eq_true])
  | rlock i =>
      simp only [step] at hstep
      split at hstep
      · next hwriting hidle =>
          rw [← Option.some.inj hstep]
          exact .rlock i hwriting hidle
      · exact absurd hstep (by simp only [reduceCtorEq, not_false_eq_true])
  | read i =>
      simp only [step] at hstep
      split at hstep
      · next v f rest seen hreading =>
          rw [← Option.some.inj hstep]
          exact .read i v f rest seen hreading
      · exact absurd hstep (by simp only [reduceCtorEq, not_false_eq_true])
  | runlock i =>
      simp only [step] at hstep
      split at hstep
      · next v seen hreading =>
          rw [← Option.some.inj hstep]
          exact .runlock i v seen hreading
      · exact absurd hstep (by simp only [reduceCtorEq, not_false_eq_true])

/-- What each move keeps, every schedule keeps. -/
theorem run_induction {P : Memory ι S L → Prop} {m m' : Memory ι S L} {sched : List (Move ι)}
    (hstep : ∀ m move m', P m → Stepped prog init m move m' → P m') (hm : P m)
    (hrun : run prog init m sched = some m') : P m' := by
  induction sched generalizing m with
  | nil => exact Option.some.inj hrun ▸ hm
  | cons move sched ih =>
      rw [run, List.foldlM_cons, Option.bind_eq_bind, Option.bind_eq_some_iff] at hrun
      rcases hrun with ⟨m₁, hm₁, hrest⟩
      exact ih (hstep m move m₁ hm (stepped_of_step prog init hm₁)) hrest

theorem run_cons {m m₁ m₂ : Memory ι S L} {move : Move ι} {sched : List (Move ι)}
    (hstep : step prog init m move = some m₁) (hrun : run prog init m₁ sched = some m₂) :
    run prog init m (move :: sched) = some m₂ := by
  rw [run, List.foldlM_cons, hstep]
  exact hrun

/-- Two schedules one after the other. -/
theorem run_append {m m₁ m₂ : Memory ι S L} {sched sched' : List (Move ι)}
    (hrun : run prog init m sched = some m₁) (hrun' : run prog init m₁ sched' = some m₂) :
    run prog init m (sched ++ sched') = some m₂ := by
  rw [run, List.foldlM_append, Option.bind_eq_bind, Option.bind_eq_some_iff]
  exact ⟨m₁, hrun, hrun'⟩

end Schedules

/-- A critical section as a whole. -/
def runSection (s : S) (ws : List (S → S)) : S := ws.foldl (fun s w => w s) s

/-- A version of the record: the first sections have been gone through. -/
def stateAt (s₀ : S) (sections : List (List (S → S))) (version : Nat) : S :=
  (sections.take version).foldl runSection s₀

/-- What statements make of one version of the record. -/
def observe (prog : List (S → L → L)) (s : S) (seen : L) : L :=
  prog.foldl (fun seen f => f s seen) seen

section Invariant

variable (prog : List (S → L → L)) (init : L) (s₀ : S) (sections : List (List (S → S)))

/-- Where the writer is: between two sections, or inside the next one and
    alone. -/
def WriterOk (m : Memory ι S L) : Prop :=
  match m.writing with
  | none => m.sections = sections.drop m.version ∧ m.shared = stateAt s₀ sections m.version
  | some ws => ∃ pre, sections.drop m.version = (pre ++ ws) :: m.sections ∧
      m.shared = runSection (stateAt s₀ sections m.version) pre ∧ m.active = []

/-- Where a reader is: inside, it has seen the current version, and outside the
    one it has found. -/
def ReaderOk (m : Memory ι S L) (i : ι) : Reader S L → Prop
  | .idle => i ∉ m.active
  | .reading v rest seen => i ∈ m.active ∧ v = m.version ∧
      ∃ pre, prog = pre ++ rest ∧ seen = observe pre m.shared init
  | .done v seen => i ∉ m.active ∧ v ≤ m.version ∧
      seen = observe prog (stateAt s₀ sections v) init

/-- The invariant. -/
structure Inv (m : Memory ι S L) : Prop where
  writer : WriterOk s₀ sections m
  reader : ∀ i, ReaderOk prog init s₀ sections m i (m.readers i)
  nodup : m.active.Nodup
  version_le : m.version ≤ sections.length

/-- The invariant holds at first. -/
theorem inv_start : Inv prog init s₀ sections (.start s₀ sections : Memory ι S L) :=
  ⟨⟨rfl, rfl⟩, fun _ => List.not_mem_nil, List.nodup_nil, Nat.zero_le _⟩

variable {prog init s₀ sections}

/-- A reader inside keeps the writer out. -/
theorem Inv.writing_eq_none {m : Memory ι S L} (hinv : Inv prog init s₀ sections m) {i : ι}
    (hi : i ∈ m.active) : m.writing = none := by
  cases hw : m.writing with
  | none => rfl
  | some ws =>
      have hwriter := hinv.writer
      rw [WriterOk, hw] at hwriter
      rcases hwriter with ⟨_, _, _, hactive⟩
      rw [hactive] at hi
      exact absurd hi List.not_mem_nil

/-- A reader that does not move does not notice other readers. -/
theorem ReaderOk.frame {m m' : Memory ι S L} {i : ι} {r : Reader S L}
    (hok : ReaderOk prog init s₀ sections m i r) (hshared : m'.shared = m.shared)
    (hversion : m'.version = m.version) (hactive : i ∈ m'.active ↔ i ∈ m.active) :
    ReaderOk prog init s₀ sections m' i r := by
  cases r with
  | idle => exact fun hi => hok (hactive.mp hi)
  | reading v rest seen =>
      rcases hok with ⟨hin, hv, pre, hprog, hseen⟩
      exact ⟨hactive.mpr hin, hv.trans hversion.symm, pre, hprog, hshared ▸ hseen⟩
  | done v seen =>
      exact ⟨fun hi => hok.1 (hactive.mp hi), hversion ▸ hok.2.1, hok.2.2⟩

/-- A reader that is not inside does not notice the writer. -/
theorem ReaderOk.outside {m m' : Memory ι S L} {i : ι} {r : Reader S L}
    (hok : ReaderOk prog init s₀ sections m i r) (hnone : m.active = [])
    (hversion : m.version ≤ m'.version) (hactive : m'.active = []) :
    ReaderOk prog init s₀ sections m' i r := by
  cases r with
  | idle =>
      rw [ReaderOk, hactive]
      exact List.not_mem_nil
  | reading v rest seen => exact absurd (hnone ▸ hok.1) List.not_mem_nil
  | done v seen =>
      refine ⟨?_, Nat.le_trans hok.2.1 hversion, hok.2.2⟩
      rw [hactive]
      exact List.not_mem_nil

/-- The next version is the effect of the next section. -/
theorem stateAt_succ {version : Nat} {ws : List (S → S)} {rest : List (List (S → S))}
    (hdrop : sections.drop version = ws :: rest) :
    stateAt s₀ sections (version + 1) = runSection (stateAt s₀ sections version) ws := by
  have hget : sections[version]? = some ws := by
    rw [← List.head?_drop, hdrop, List.head?_cons]
  rw [stateAt, List.take_add_one, hget, Option.toList_some, List.foldl_concat]
  rfl

/-- One section fewer is left. -/
theorem drop_succ {version : Nat} {ws : List (S → S)} {rest : List (List (S → S))}
    (hdrop : sections.drop version = ws :: rest) : sections.drop (version + 1) = rest := by
  rw [← List.drop_drop, hdrop, List.drop_one, List.tail_cons]

variable [DecidableEq ι]

/-- Every move preserves the invariant. -/
theorem inv_stepped (m : Memory ι S L) (move : Move ι) (m' : Memory ι S L)
    (hinv : Inv prog init s₀ sections m) (hstep : Stepped prog init m move m') :
    Inv prog init s₀ sections m' := by
  have hwriter := hinv.writer
  cases hstep with
  | lock ws rest hwriting hactive hsections =>
      rw [WriterOk, hwriting] at hwriter
      refine ⟨⟨[], ?_, hwriter.2, hactive⟩, fun i => ?_, hinv.nodup, hinv.version_le⟩
      · rw [List.nil_append, ← hwriter.1, hsections]
      · exact (hinv.reader i).outside hactive (Nat.le_refl _) hactive
  -- Nobody reads while the record is half written.
  | write w ws hwriting =>
      rw [WriterOk, hwriting] at hwriter
      rcases hwriter with ⟨pre, hdrop, hshared, hactive⟩
      refine ⟨⟨pre ++ [w], ?_, ?_, hactive⟩, fun i => ?_, hinv.nodup, hinv.version_le⟩
      · rw [List.append_assoc, List.singleton_append]
        exact hdrop
      · rw [runSection, List.foldl_concat, ← runSection, ← hshared]
      · exact (hinv.reader i).outside hactive (Nat.le_refl _) hactive
  | unlock hwriting =>
      -- The section is complete, and its effect is the next version.
      rw [WriterOk, hwriting] at hwriter
      rcases hwriter with ⟨pre, hdrop, hshared, hactive⟩
      rw [List.append_nil] at hdrop
      have hlt : m.version < sections.length := by
        refine Nat.lt_of_not_le fun hle => ?_
        rw [List.drop_eq_nil_of_le hle] at hdrop
        exact absurd hdrop (by simp only [reduceCtorEq, not_false_eq_true])
      refine ⟨⟨(drop_succ hdrop).symm, ?_⟩, fun i => ?_, hinv.nodup, hlt⟩
      · rw [stateAt_succ hdrop]
        exact hshared
      · exact (hinv.reader i).outside hactive (Nat.le_succ _) hactive
  | rlock i hwriting hidle =>
      have hout : i ∉ m.active := by
        have hok := hinv.reader i
        rw [hidle] at hok
        exact hok
      refine ⟨?_, fun j => ?_, List.nodup_cons.mpr ⟨hout, hinv.nodup⟩,
        hinv.version_le⟩
      · rw [WriterOk, hwriting] at hwriter
        simp only [WriterOk, Memory.goto, hwriting]
        exact hwriter
      · by_cases hj : j = i
        · subst hj
          simp only [Memory.goto, Function.update_self]
          exact ⟨List.mem_cons_self, rfl, [], rfl, rfl⟩
        · simp only [Memory.goto, Function.update_of_ne hj]
          refine (hinv.reader j).frame rfl rfl ?_
          rw [List.mem_cons, or_iff_right hj]
  | read i v f rest seen hreading =>
      have hok := hinv.reader i
      rw [hreading] at hok
      rcases hok with ⟨hin, hv, pre, hprog, hseen⟩
      refine ⟨hwriter, fun j => ?_, hinv.nodup, hinv.version_le⟩
      by_cases hj : j = i
      · subst hj
        simp only [Memory.goto, Function.update_self]
        -- The reader sees the same record as with its first statement.
        refine ⟨hin, hv, pre ++ [f], ?_, ?_⟩
        · rw [hprog, List.append_assoc, List.singleton_append]
        · rw [observe, List.foldl_concat, ← observe, ← hseen]
      · simp only [Memory.goto, Function.update_of_ne hj]
        exact (hinv.reader j).frame rfl rfl Iff.rfl
  | runlock i v seen hreading =>
      have hok := hinv.reader i
      rw [hreading] at hok
      rcases hok with ⟨hin, hv, pre, hprog, hseen⟩
      have hwriting := hinv.writing_eq_none hin
      rw [WriterOk, hwriting] at hwriter
      refine ⟨?_, fun j => ?_, hinv.nodup.erase i, hinv.version_le⟩
      · simp only [WriterOk, Memory.goto, hwriting]
        exact hwriter
      · by_cases hj : j = i
        · subst hj
          simp only [Memory.goto, Function.update_self]
          refine ⟨hinv.nodup.not_mem_erase, Nat.le_of_eq hv, ?_⟩
          -- Nobody has written since the reader came in.
          rw [hseen, hprog, List.append_nil, hv, hwriter.2]
        · simp only [Memory.goto, Function.update_of_ne hj]
          exact (hinv.reader j).frame rfl rfl (List.mem_erase_of_ne hj)

/-- The invariant holds along every schedule. -/
theorem inv_run {m m' : Memory ι S L} {sched : List (Move ι)}
    (hinv : Inv prog init s₀ sections m) (hrun : run prog init m sched = some m') :
    Inv prog init s₀ sections m' :=
  run_induction prog init inv_stepped hinv hrun

/-- A reader that is through has seen one complete version. -/
theorem run_done {m : Memory ι S L} {sched : List (Move ι)}
    (hrun : run prog init (.start s₀ sections) sched = some m) {i : ι} {v : Nat} {seen : L}
    (hdone : m.readers i = .done v seen) :
    v ≤ m.version ∧ v ≤ sections.length ∧
      seen = observe prog (stateAt s₀ sections v) init := by
  have hinv := inv_run (inv_start prog init s₀ sections) hrun
  have hok := hinv.reader i
  rw [hdone] at hok
  exact ⟨hok.2.1, Nat.le_trans hok.2.1 hinv.version_le, hok.2.2⟩

/-- A reader that has come in since some version, if it has come in. -/
def Reader.Since (n : Nat) : Reader S L → Prop
  | .idle => True
  | .reading v _ _ => n ≤ v
  | .done v _ => n ≤ v

/-- Only the reader that moves has to be looked at. -/
theorem Reader.Since.goto {m : Memory ι S L} {n : Nat} {i j : ι} {r : Reader S L}
    (hj : (m.readers j).Since n) (hr : j = i → r.Since n) : ((m.goto i r).readers j).Since n := by
  by_cases hji : j = i
  · rw [hji]
    simp only [Memory.goto, Function.update_self]
    exact hr hji
  · simp only [Memory.goto, Function.update_of_ne hji]
    exact hj

/-- Versions do not go back, and a reader takes the current one. -/
theorem since_stepped (n : Nat) (j : ι) (m : Memory ι S L) (move : Move ι) (m' : Memory ι S L)
    (hm : n ≤ m.version ∧ (m.readers j).Since n) (hstep : Stepped prog init m move m') :
    n ≤ m'.version ∧ (m'.readers j).Since n := by
  cases hstep with
  | lock => exact hm
  | write => exact hm
  | unlock => exact ⟨Nat.le_succ_of_le hm.1, hm.2⟩
  | rlock i => exact ⟨hm.1, hm.2.goto fun _ => hm.1⟩
  | read i v f rest seen hreading =>
      refine ⟨hm.1, hm.2.goto fun hji => ?_⟩
      have hsince := hm.2
      rw [hji, hreading] at hsince
      exact hsince
  | runlock i v seen hreading =>
      refine ⟨hm.1, hm.2.goto fun hji => ?_⟩
      have hsince := hm.2
      rw [hji, hreading] at hsince
      exact hsince

/-- A reader that comes in when another one is through finds the same version or
    a later one. -/
theorem version_le_of_later {m m' : Memory ι S L} {sched sched' : List (Move ι)}
    (hrun : run prog init (.start s₀ sections) sched = some m)
    (hrun' : run prog init m sched' = some m') {i j : ι} {v v' : Nat} {seen seen' : L}
    (hfirst : m.readers i = .done v seen) (hidle : m.readers j = .idle)
    (hsecond : m'.readers j = .done v' seen') : v ≤ v' := by
  have hold : m.version ≤ m.version ∧ (m.readers j).Since m.version := by
    rw [hidle]
    exact ⟨Nat.le_refl _, trivial⟩
  have hnew := (run_induction prog init (since_stepped m.version j) hold hrun').2
  rw [hsecond] at hnew
  exact Nat.le_trans (run_done hrun hfirst).1 hnew

section Progress

/-- The writer can leave its section. -/
theorem exists_unlock {m : Memory ι S L} {ws : List (S → S)} (hwriting : m.writing = some ws) :
    ∃ sched m', run prog init m sched = some m' ∧ m'.writing = none ∧
      m'.version = m.version + 1 ∧ m'.readers = m.readers := by
  induction ws generalizing m with
  | nil =>
      refine ⟨[.unlock], { m with writing := none, version := m.version + 1 }, ?_, rfl, rfl, rfl⟩
      exact run_cons prog init (by simp only [step, hwriting]) rfl
  | cons w ws ih =>
      have hstep : step prog init m .write
          = some { m with shared := w m.shared, writing := some ws } := by
        simp only [step, hwriting]
      rcases @ih { m with shared := w m.shared, writing := some ws } rfl with
        ⟨sched, m', hrun, hnone, hversion, hreaders⟩
      exact ⟨.write :: sched, m', run_cons prog init hstep hrun, hnone, hversion, hreaders⟩

/-- A reader can leave its section. -/
theorem exists_runlock {m : Memory ι S L} {i : ι} {v : Nat} {rest : List (S → L → L)} {seen : L}
    (hreading : m.readers i = .reading v rest seen) :
    ∃ sched m' seen', run prog init m sched = some m' ∧ m'.readers i = .done v seen' ∧
      m'.active = m.active.erase i ∧ m'.version = m.version ∧ m'.sections = m.sections := by
  induction rest generalizing m seen with
  | nil =>
      refine ⟨[.runlock i], { m.goto i (.done v seen) with active := m.active.erase i }, seen,
        ?_, ?_, rfl, rfl, rfl⟩
      · exact run_cons prog init (by simp only [step, hreading]) rfl
      · simp only [Memory.goto, Function.update_self]
  | cons f rest ih =>
      have hstep : step prog init m (.read i)
          = some (m.goto i (.reading v rest (f m.shared seen))) := by
        simp only [step, hreading]
      have hnext : (m.goto i (.reading v rest (f m.shared seen))).readers i
          = .reading v rest (f m.shared seen) := by
        simp only [Memory.goto, Function.update_self]
      rcases ih hnext with ⟨sched, m', seen', hrun, hdone, hactive, hversion, hsections⟩
      exact ⟨.read i :: sched, m', seen', run_cons prog init hstep hrun, hdone, hactive, hversion,
        hsections⟩

/-- Every reader can be brought to its end. -/
theorem exists_read {m : Memory ι S L} (i : ι) :
    ∃ sched m' v seen, run prog init m sched = some m' ∧ m'.readers i = .done v seen := by
  -- From a state without a writer, a reader that is idle comes in and goes
  -- through.
  have hidle : ∀ m : Memory ι S L, m.writing = none → m.readers i = .idle →
      ∃ sched m' v seen, run prog init m sched = some m' ∧ m'.readers i = .done v seen := by
    intro m hwriting hidle
    have hstep : step prog init m (.rlock i)
        = some { m.goto i (.reading m.version prog init) with active := i :: m.active } := by
      simp only [step, hwriting, hidle]
    have hreading : ({ m.goto i (.reading m.version prog init) with
        active := i :: m.active } : Memory ι S L).readers i = .reading m.version prog init := by
      simp only [Memory.goto, Function.update_self]
    rcases exists_runlock hreading with ⟨sched, m', seen, hrun, hdone, _⟩
    exact ⟨.rlock i :: sched, m', _, seen, run_cons prog init hstep hrun, hdone⟩
  cases hi : m.readers i with
  | done v seen => exact ⟨[], m, v, seen, rfl, hi⟩
  | reading v rest seen =>
      rcases exists_runlock hi with ⟨sched, m', seen', hrun, hdone, _⟩
      exact ⟨sched, m', v, seen', hrun, hdone⟩
  | idle =>
      -- If the writer is inside, it goes first.
      cases hw : m.writing with
      | none => exact hidle m hw hi
      | some ws =>
          rcases exists_unlock hw with ⟨sched, m₁, hrun, hnone, _, hreaders⟩
          rcases hidle m₁ hnone (hreaders ▸ hi) with ⟨sched', m', v, seen, hrun', hdone⟩
          exact ⟨sched ++ sched', m', v, seen, run_append prog init hrun hrun', hdone⟩

/-- The readers inside can be brought to their ends. -/
theorem exists_drained {m : Memory ι S L} (hinv : Inv prog init s₀ sections m) :
    ∃ sched m', run prog init m sched = some m' ∧ m'.active = [] ∧ m'.version = m.version ∧
      m'.sections = m.sections := by
  -- By the number of readers that are inside.
  generalize hn : m.active.length = n
  induction n generalizing m with
  | zero => exact ⟨[], m, rfl, List.length_eq_zero_iff.mp hn, rfl, rfl⟩
  | succ n ih =>
      rcases List.exists_cons_of_length_eq_add_one hn with ⟨i, rest, hactive⟩
      have hi : i ∈ m.active := hactive ▸ List.mem_cons_self
      have hok := hinv.reader i
      cases hreader : m.readers i with
      | idle =>
          rw [hreader] at hok
          exact absurd hi hok
      | done v seen =>
          rw [hreader] at hok
          exact absurd hi hok.1
      | reading v todo seen =>
          rcases exists_runlock hreader with ⟨sched, m₁, _, hrun, _, herase, hversion, hsections⟩
          have hlen : m₁.active.length = n := by
            rw [herase, List.length_erase_of_mem hi, hn]
            rfl
          rcases ih (inv_run hinv hrun) hlen with ⟨sched', m', hrun', hnil, hversion', hsections'⟩
          exact ⟨sched ++ sched', m', run_append prog init hrun hrun', hnil,
            hversion'.trans hversion, hsections'.trans hsections⟩

/-- The next section can be brought to its end. -/
theorem exists_published {m : Memory ι S L} (hinv : Inv prog init s₀ sections m)
    (hmore : m.version < sections.length) :
    ∃ sched m', run prog init m sched = some m' ∧ m'.version = m.version + 1 := by
  cases hw : m.writing with
  | some ws =>
      rcases exists_unlock hw with ⟨sched, m', hrun, _, hversion, _⟩
      exact ⟨sched, m', hrun, hversion⟩
  | none =>
      -- The readers inside have to leave before the writer comes in.
      rcases exists_drained hinv with ⟨sched, m₁, hrun, hactive, hversion, hsections⟩
      have hwriter := hinv.writer
      rw [WriterOk, hw] at hwriter
      have hne : m.sections ≠ [] := by
        rw [hwriter.1, ne_eq, List.drop_eq_nil_iff]
        omega
      rcases List.exists_cons_of_ne_nil hne with ⟨ws, rest, hcons⟩
      cases hw₁ : m₁.writing with
      | some ws' =>
          rcases exists_unlock hw₁ with ⟨sched', m', hrun', _, hversion', _⟩
          exact ⟨sched ++ sched', m', run_append prog init hrun hrun', hversion ▸ hversion'⟩
      | none =>
          have hstep : step prog init m₁ .lock
              = some { m₁ with writing := some ws, sections := rest } := by
            simp only [step, hw₁, hactive, hsections, hcons]
          rcases @exists_unlock _ _ _ prog init _
            { m₁ with writing := some ws, sections := rest } ws rfl with
            ⟨sched', m', hrun', _, hversion', _⟩
          exact ⟨sched ++ .lock :: sched', m',
            run_append prog init hrun (run_cons prog init hstep hrun'), hversion ▸ hversion'⟩

end Progress

end Invariant

end RwLock
