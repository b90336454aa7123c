import Mathlib.Data.List.Nodup
import Mathlib.Data.List.Pairwise

/-!
# Distinctness of Tagged Lists

Lists assembled from parts, where every element shows which part it comes
from. If the parts are tagged differently, the whole has no duplicates when no
part has any. If the tag of a part says all about it, equal tags are also the
only way to get a duplicate.

## Theorems

* `nodup_append_iff_of_apart`: Two parts that a property tells apart.
* `nodup_flatMap_of_tags`: Distinct tags leave duplicates within the parts.
* `nodup_flatMap_iff_tags`: Parts determined by their tags.
* `pairwise_disjoint_iff`: Disjointness over a list with distinct tags.
* `nodup_filterMap_iff`: Parts of at most one element.
-/

namespace Tagged

variable {α β γ : Type}

theorem nodup_append_iff_of_apart (p : β → Prop) (xs ys : List β) (hxs : ∀ y ∈ xs, p y)
    (hys : ∀ y ∈ ys, ¬ p y) : (xs ++ ys).Nodup ↔ xs.Nodup ∧ ys.Nodup := by
  rw [List.nodup_append]
  refine ⟨fun h => ⟨h.1, h.2.1⟩, fun h => ⟨h.1, h.2, ?_⟩⟩
  intro x hx y hy heq
  rw [heq] at hx
  exact hys y hy (hxs y hx)

theorem nodup_flatMap_of_tags (l : List α) (f : α → List β) (tag : α → γ) (tagOf : β → γ)
    (htag : ∀ x ∈ l, ∀ y ∈ f x, tagOf y = tag x) (htags : (l.map tag).Nodup) :
    (l.flatMap f).Nodup ↔ ∀ x ∈ l, (f x).Nodup := by
  rw [List.nodup_flatMap]
  refine ⟨fun h => h.1, fun h => ⟨h, ?_⟩⟩
  refine (List.pairwise_map.mp htags).imp_of_mem fun {x x'} hx hx' hne => ?_
  -- A common element would carry both tags.
  intro y hy hy'
  exact hne ((htag x hx y hy).symm.trans (htag x' hx' y hy'))

theorem nodup_flatMap_iff_tags (l : List α) (f : α → List β) (tag : α → γ) (tagOf : β → γ)
    (htag : ∀ x ∈ l, ∀ y ∈ f x, tagOf y = tag x) (hnodup : ∀ x ∈ l, (f x).Nodup)
    (hne : ∀ x ∈ l, f x ≠ []) (hcongr : ∀ x ∈ l, ∀ y ∈ l, tag x = tag y → f x = f y) :
    (l.flatMap f).Nodup ↔ (l.map tag).Nodup := by
  constructor
  · intro h
    refine List.pairwise_map.mpr ((List.nodup_flatMap.mp h).2.imp_of_mem ?_)
    intro x x' hx hx' hdisj heq
    -- Parts with one tag are the same part, and no part is empty.
    rcases List.exists_mem_of_ne_nil (f x) (hne x hx) with ⟨y, hy⟩
    refine hdisj hy ?_
    rw [← hcongr x hx x' hx' heq]
    exact hy
  · intro h
    exact (nodup_flatMap_of_tags l f tag tagOf htag h).mpr hnodup

theorem pairwise_disjoint_iff (l : List α) (f : α → List β) (tag : α → γ)
    (htags : (l.map tag).Nodup) :
    l.Pairwise (Function.onFun List.Disjoint f)
      ↔ ∀ x ∈ l, ∀ x' ∈ l, tag x ≠ tag x' → List.Disjoint (f x) (f x') := by
  constructor
  · intro h x hx x' hx' hne
    have hxx : x ≠ x' := by
      intro heq
      rw [heq] at hne
      exact hne rfl
    have hsymm : Std.Symm (Function.onFun List.Disjoint f) := ⟨fun _ _ hd _ hy hy' => hd hy' hy⟩
    exact h.forall hx hx' hxx
  · intro h
    refine (List.pairwise_map.mp htags).imp_of_mem fun {x x'} hx hx' hne => ?_
    exact h x hx x' hx' hne

theorem nodup_filterMap_iff (l : List α) (f : α → Option β) (tag : α → γ)
    (htags : (l.map tag).Nodup) :
    (l.filterMap f).Nodup
      ↔ ∀ x ∈ l, ∀ x' ∈ l, tag x ≠ tag x' → ∀ y, f x = some y → f x' ≠ some y := by
  have hnodup : ∀ x ∈ l, (f x).toList.Nodup := fun x _ => Option.toList_nodup (f x)
  rw [List.filterMap_eq_flatMap_toList, List.nodup_flatMap, and_iff_right hnodup,
    pairwise_disjoint_iff l _ tag htags]
  -- Two options are disjoint as lists when they hold no common value.
  refine forall₄_congr fun x _ x' _ => imp_congr_right fun _ => forall_congr' fun y => ?_
  rw [Option.mem_toList, Option.mem_toList]

end Tagged
