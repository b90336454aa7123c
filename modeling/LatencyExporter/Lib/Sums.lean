import Mathlib.Algebra.BigOperators.Group.List.Basic
import Mathlib.Algebra.Ring.Nat
import Mathlib.Data.List.Count
import Mathlib.Data.List.Perm.Basic
import Mathlib.Logic.Function.Basic

/-!
# Sums over Places

Each of finitely many places has a state, and a number is added up, or states
are counted, over all of them. When one place changes, the sum changes by what
that place changes by.

## Theorems

* `sum_update`: A sum, when one place changes.
* `countP_eq_sum`, `countP_update`: A count.
-/

namespace Sums

variable {ι : Type} [DecidableEq ι]

theorem sum_update {β : Type} (g : ι → β → Nat) (f : ι → β) (i : ι) (x : β) (ids : List ι)
    (hnodup : ids.Nodup) (hi : i ∈ ids) :
    (ids.map fun j => g j (Function.update f i x j)).sum + g i (f i)
      = (ids.map fun j => g j (f j)).sum + g i x := by
  -- Of the list without the changed place nothing changes.
  have hperm := List.perm_cons_erase hi
  have hrest : (ids.erase i).map (fun j => g j (Function.update f i x j))
      = (ids.erase i).map fun j => g j (f j) := by
    refine List.map_congr_left fun j hj => ?_
    have hne : j ≠ i := fun heq => (hnodup.mem_erase_iff.mp hj).1 heq
    rw [Function.update_of_ne hne]
  rw [(hperm.map _).sum_eq, (hperm.map fun j => g j (f j)).sum_eq, List.map_cons, List.map_cons,
    List.sum_cons, List.sum_cons, hrest, Function.update_self]
  omega

theorem countP_eq_sum {α : Type} (q : α → Bool) (l : List α) :
    l.countP q = (l.map fun a => if q a then 1 else 0).sum := by
  induction l with
  | nil => rfl
  | cons a l ih =>
      rw [List.countP_cons, List.map_cons, List.sum_cons, ih]
      omega

theorem countP_update {β : Type} (q : β → Bool) (f : ι → β) (i : ι) (x : β) (ids : List ι)
    (hnodup : ids.Nodup) (hi : i ∈ ids) :
    ids.countP (fun j => q (Function.update f i x j)) + (if q (f i) then 1 else 0)
      = ids.countP (fun j => q (f j)) + if q x then 1 else 0 := by
  rw [countP_eq_sum, countP_eq_sum]
  exact sum_update (fun _ y => if q y then 1 else 0) f i x ids hnodup hi

end Sums
