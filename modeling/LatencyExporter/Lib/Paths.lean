import Mathlib.Data.List.Basic

/-!
# Paths and Their Components

A text with components at its end, each after a separator, and whatever comes
before. Splitting at the separator gets the components back, as long as none of
them has a separator in it, and they are found at the end of what is split,
independently of what comes before. Conversely, a text whose pieces end in some
list of components, and has at least one piece more, is a path with these
components.

This is what makes the end of a path say more than a pattern with a wildcard
before it seems to: there is one way only to cut components off.

## Main definitions

* `path`: A text with components at its end.

## Theorems

* `path_append`: More components.
* `intercalate_cons`: Components put together.
* `splitOn_path`: Splitting a path.
* `not_mem_of_mem_splitOn`: Pieces have no separator.
* `reverse_splitOn_iff`: A text by its last pieces.
-/

namespace Paths

variable {α : Type} [BEq α] [LawfulBEq α] (sep : α)

/-- A text with components at its end. -/
def path (pre : List α) (components : List (List α)) : List α :=
  pre ++ components.flatMap (sep :: ·)

omit [BEq α] [LawfulBEq α] in
theorem path_cons (pre c : List α) (components : List (List α)) :
    path sep pre (c :: components) = path sep (pre ++ sep :: c) components := by
  rw [path, path, List.flatMap_cons, List.append_assoc]

omit [BEq α] [LawfulBEq α] in
theorem path_append (pre : List α) (cs ds : List (List α)) :
    path sep pre (cs ++ ds) = path sep (path sep pre cs) ds := by
  rw [path, path, path, List.flatMap_append, List.append_assoc]

omit [BEq α] [LawfulBEq α] in
theorem intercalate_cons (c : List α) (components : List (List α)) :
    [sep].intercalate (c :: components) = path sep c components := by
  induction components generalizing c with
  | nil => rw [List.intercalate_singleton, path, List.flatMap_nil, List.append_nil]
  | cons d components ih =>
      rw [List.intercalate_cons_cons, ih, path_cons, path, path, List.append_assoc,
        List.append_assoc, List.singleton_append, List.cons_append]

theorem splitOn_path (pre : List α) (components : List (List α))
    (hsep : ∀ c ∈ components, sep ∉ c) :
    (path sep pre components).splitOn sep = pre.splitOn sep ++ components := by
  induction components generalizing pre with
  | nil => rw [path, List.flatMap_nil, List.append_nil, List.append_nil]
  | cons c components ih =>
      rw [List.forall_mem_cons] at hsep
      rw [path_cons, ih _ hsep.2, List.splitOn_append_cons_self, List.splitOn_eq_singleton hsep.1,
        List.append_assoc, List.singleton_append]

theorem not_mem_of_mem_splitOn (t w : List α) (hw : w ∈ t.splitOn sep) : sep ∉ w := by
  induction t generalizing w with
  | nil =>
      rw [List.splitOn_nil, List.mem_singleton] at hw
      rw [hw]
      exact List.not_mem_nil
  | cons x xs ih =>
      rw [List.splitOn_cons_eq_if_modifyHead] at hw
      split at hw
      · rcases List.mem_cons.mp hw with rfl | hw
        · exact List.not_mem_nil
        · exact ih w hw
      · next hx =>
          -- The character is put in front of the first piece.
          cases hpieces : xs.splitOn sep with
          | nil => exact absurd hpieces (List.splitOn_ne_nil sep xs)
          | cons first pieces =>
              rw [hpieces, List.modifyHead_cons] at hw
              rw [hpieces] at ih
              rcases List.mem_cons.mp hw with rfl | hw
              · rw [List.mem_cons, not_or]
                exact ⟨fun heq => hx (beq_iff_eq.mpr heq.symm), ih first List.mem_cons_self⟩
              · exact ih w (List.mem_cons_of_mem first hw)

/-- A text is a path exactly if the components are its last pieces, from the end. -/
theorem reverse_splitOn_iff (t : List α) (components : List (List α)) :
    (∃ first, first ≠ [] ∧ (t.splitOn sep).reverse = components.reverse ++ first) ↔
      (∃ pre, t = path sep pre components) ∧ ∀ c ∈ components, sep ∉ c := by
  constructor
  · rintro ⟨first, hfirst, ht⟩
    rw [List.reverse_eq_iff, List.reverse_append, List.reverse_reverse] at ht
    refine ⟨?_, fun c hc => ?_⟩
    · cases hpieces : first.reverse with
      | nil => exact absurd (List.reverse_eq_nil_iff.mp hpieces) hfirst
      | cons c pieces =>
          refine ⟨path sep c pieces, ?_⟩
          rw [hpieces] at ht
          rw [← path_append, ← intercalate_cons, ← List.cons_append, ← ht,
            List.intercalate_splitOn]
    · refine not_mem_of_mem_splitOn sep t c ?_
      rw [ht]
      exact List.mem_append_right _ hc
  · rintro ⟨⟨pre, rfl⟩, hsep⟩
    refine ⟨(pre.splitOn sep).reverse, ?_, ?_⟩
    · exact List.reverse_ne_nil_iff.mpr (List.splitOn_ne_nil sep pre)
    · rw [splitOn_path sep pre components hsep, List.reverse_append]

end Paths
