import Mathlib.Data.List.Forall2

/-!
# Histories and Simulation

A step that may end in several ways is a relation between a state, an input and
a state. `Steps` is a history of such steps, one for each input of a list.

A function simulates the relation if each step can be matched, for an input that
is alike, by a step of the function from every state that looks the same. Then
it matches whole histories (`Steps.simulated`), and what holds of all runs of
the function and only depends on how a state looks holds of all histories.

## Main definitions

* `Steps`: Histories.
* `Visits`: Histories with the states in between.
* `Simulates`: Each step is matched.

## Theorems

* `exists_steps`: If no step gets stuck, no history does.
* `Steps.simulated`: Each history is matched.
* `Visits.pairwise`, `Visits.rel_of_le`: What every step relates, a history
  relates.
-/

variable {C D I : Type}

/-- A history, with an input for each step. -/
inductive Steps (step : C → I → C → Prop) : C → List I → C → Prop where
  | nil (c : C) : Steps step c [] c
  | cons {c c' c'' : C} {i : I} {is : List I} (hstep : step c i c') (hrest : Steps step c' is c'') :
      Steps step c (i :: is) c''

/-- A history with the states after each of its steps. -/
inductive Visits (step : C → I → C → Prop) : C → List I → List C → Prop where
  | nil (c : C) : Visits step c [] []
  | cons {c c' : C} {i : I} {is : List I} {cs : List C} (hstep : step c i c')
      (hrest : Visits step c' is cs) : Visits step c (i :: is) (c' :: cs)

/-- If every input has a step from every state, every list of inputs has a
    history. -/
theorem exists_steps {step : C → I → C → Prop} (htotal : ∀ c i, ∃ c', step c i c') (c : C)
    (is : List I) : ∃ c', Steps step c is c' := by
  induction is generalizing c with
  | nil => exact ⟨c, .nil c⟩
  | cons i is ih =>
      rcases htotal c i with ⟨c₁, hstep⟩
      rcases ih c₁ with ⟨c₂, hrest⟩
      exact ⟨c₂, .cons hstep hrest⟩

/-- A function matches each step, from states that look the same to states that
    look the same. -/
def Simulates (f : D → I → D) (alike : I → I → Prop) (same : C → D → Prop)
    (step : C → I → C → Prop) : Prop :=
  ∀ c d i c', same c d → step c i c' → ∃ i', alike i i' ∧ same c' (f d i')

theorem Steps.simulated {f : D → I → D} {alike : I → I → Prop} {same : C → D → Prop}
    {step : C → I → C → Prop} (hsim : Simulates f alike same step) {c c' : C} {d : D}
    {is : List I} (hsame : same c d) (hsteps : Steps step c is c') :
    ∃ is', List.Forall₂ alike is is' ∧ same c' (is'.foldl f d) := by
  induction hsteps generalizing d with
  | nil c => exact ⟨[], .nil, hsame⟩
  | cons hstep _ ih =>
      rcases hsim _ _ _ _ hsame hstep with ⟨i', halike, hsame'⟩
      rcases ih hsame' with ⟨is', hall, hend⟩
      exact ⟨i' :: is', .cons halike hall, hend⟩

/-- An order that no step breaks holds between the states of a history. -/
theorem Visits.pairwise {step : C → I → C → Prop} {rel : C → C → Prop}
    (htrans : ∀ c c' c'', rel c c' → rel c' c'' → rel c c'')
    (hstep : ∀ c i c', step c i c' → rel c c') {c : C} {is : List I} {cs : List C}
    (hvisits : Visits step c is cs) : (c :: cs).Pairwise rel := by
  induction hvisits with
  | nil c => exact List.pairwise_singleton rel c
  | cons hone _ ih =>
      refine List.pairwise_cons.mpr ⟨fun a ha => ?_, ih⟩
      rcases List.mem_cons.mp ha with rfl | ha
      · exact hstep _ _ _ hone
      · exact htrans _ _ _ (hstep _ _ _ hone) ((List.pairwise_cons.mp ih).1 a ha)

theorem Visits.rel_of_le {step : C → I → C → Prop} (rel : C → C → Prop) (hrefl : ∀ c, rel c c)
    (htrans : ∀ c c' c'', rel c c' → rel c' c'' → rel c c'')
    (hstep : ∀ c i c', step c i c' → rel c c') {c : C} {is : List I} {cs : List C}
    (hvisits : Visits step c is cs) {v v' : Nat} {a b : C} (hle : v ≤ v')
    (ha : (c :: cs)[v]? = some a) (hb : (c :: cs)[v']? = some b) : rel a b := by
  rcases List.getElem?_eq_some_iff.mp ha with ⟨hv, rfl⟩
  rcases List.getElem?_eq_some_iff.mp hb with ⟨hv', rfl⟩
  rcases Nat.eq_or_lt_of_le hle with rfl | hlt
  · exact hrefl _
  · exact List.pairwise_iff_getElem.mp (hvisits.pairwise htrans hstep) v v' hv hv' hlt
