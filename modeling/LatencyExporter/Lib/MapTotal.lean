import Mathlib.Algebra.BigOperators.Group.Finset.Basic
import Mathlib.Data.Finmap

/-!
# Totals over Finite Maps

The sum of a weight over all values of a finite map, and how it moves when one
entry is written or when the weight of one value changes.

The second case is that of a map into a heap: the values are references, the
weight of a reference is what it points to, and writing through a reference
changes the weight and not the map. It moves the total once if some key holds
the reference and not at all if none does.

## Main definitions

* `total`: The sum of a weight over the values of a map.

## Theorems

* `keys_insert`: The keys after a write.
* `total_eq_add_erase`: Splitting the total at a key.
* `total_erase_le`: Removing an entry.
* `total_insert`: Writing an entry replaces its weight.
* `total_update_live`: Changing the weight of a value held by one key.
* `total_update_dead`: Changing the weight of a value no key holds.
* `total_insert_fresh`: Writing an entry with a value that is new to the map.
-/

namespace MapTotal

variable {K V : Type} [DecidableEq K]

/-- The sum of the weights of all values. -/
def total (g : V → Nat) (m : Finmap (fun _ : K => V)) : Nat :=
  ∑ k ∈ m.keys, (m.lookup k).elim 0 g

theorem keys_insert (m : Finmap (fun _ : K => V)) (k : K) (v : V) :
    (m.insert k v).keys = insert k m.keys := by
  ext k'
  rw [Finmap.mem_keys, Finmap.mem_insert, Finset.mem_insert, Finmap.mem_keys]

theorem total_eq_add_erase (g : V → Nat) (m : Finmap (fun _ : K => V)) (k : K) :
    total g m = (m.lookup k).elim 0 g + ∑ k' ∈ m.keys.erase k, (m.lookup k').elim 0 g := by
  by_cases hk : k ∈ m.keys
  · rw [total, ← Finset.add_sum_erase _ _ hk]
  · -- An absent key weighs nothing.
    have hnone : m.lookup k = none :=
      Finmap.lookup_eq_none.mpr fun hc => hk (Finmap.mem_keys.mpr hc)
    rw [total, hnone, Option.elim_none, Nat.zero_add, Finset.erase_eq_of_notMem hk]

theorem total_erase_le (g : V → Nat) (m : Finmap (fun _ : K => V)) (k : K) :
    total g (m.erase k) ≤ total g m := by
  have hsame : total g (m.erase k) = ∑ k' ∈ m.keys.erase k, (m.lookup k').elim 0 g := by
    rw [total, Finmap.keys_erase]
    refine Finset.sum_congr rfl fun k' hk' => ?_
    rw [Finmap.lookup_erase_ne (Finset.mem_erase.mp hk').1]
  rw [hsame, total_eq_add_erase g m k]
  omega

theorem total_insert (g : V → Nat) (m : Finmap (fun _ : K => V)) (k : K) (v : V) :
    total g (m.insert k v) + (m.lookup k).elim 0 g = total g m + g v := by
  have hrest : ∑ k' ∈ (m.insert k v).keys.erase k, ((m.insert k v).lookup k').elim 0 g
      = ∑ k' ∈ m.keys.erase k, (m.lookup k').elim 0 g := by
    rw [keys_insert, Finset.erase_insert_eq_erase]
    refine Finset.sum_congr rfl fun k' hk' => ?_
    rw [Finmap.lookup_insert_of_ne m (Finset.mem_erase.mp hk').1]
  rw [total_eq_add_erase g (m.insert k v) k, total_eq_add_erase g m k, hrest,
    Finmap.lookup_insert, Option.elim_some]
  omega

variable [DecidableEq V]

theorem total_update_live (g : V → Nat) (m : Finmap (fun _ : K => V)) (k : K) (p : V) (c : Nat)
    (hlive : m.lookup k = some p) (hinj : ∀ k', m.lookup k' = some p → k' = k) :
    total (Function.update g p c) m + g p = total g m + c := by
  -- No other key holds the value, so the rest of the sum is untouched.
  have hrest : ∑ k' ∈ m.keys.erase k, (m.lookup k').elim 0 (Function.update g p c)
      = ∑ k' ∈ m.keys.erase k, (m.lookup k').elim 0 g := by
    refine Finset.sum_congr rfl fun k' hk' => ?_
    cases hv : m.lookup k' with
    | none => rfl
    | some q =>
        have hq : q ≠ p := by
          intro hc
          rw [hc] at hv
          exact (Finset.mem_erase.mp hk').1 (hinj k' hv)
        rw [Option.elim_some, Option.elim_some, Function.update_of_ne hq]
  rw [total_eq_add_erase _ m k, total_eq_add_erase g m k, hrest, hlive, Option.elim_some,
    Option.elim_some, Function.update_self]
  omega

theorem total_update_dead (g : V → Nat) (m : Finmap (fun _ : K => V)) (p : V) (c : Nat)
    (hdead : ∀ k, m.lookup k ≠ some p) : total (Function.update g p c) m = total g m := by
  refine Finset.sum_congr rfl fun k _ => ?_
  cases hv : m.lookup k with
  | none => rfl
  | some q =>
      have hq : q ≠ p := by
        intro hc
        rw [hc] at hv
        exact hdead k hv
      rw [Option.elim_some, Option.elim_some, Function.update_of_ne hq]

theorem total_insert_fresh (g : V → Nat) (m : Finmap (fun _ : K => V)) (k : K) (p : V) (c : Nat)
    (hfresh : ∀ k', m.lookup k' ≠ some p) :
    total (Function.update g p c) (m.insert k p) + (m.lookup k).elim 0 g = total g m + c := by
  have hins := total_insert (Function.update g p c) m k p
  rw [total_update_dead g m p c hfresh, Function.update_self] at hins
  -- The value that goes is another one, so the new weight does not show in it.
  cases hv : m.lookup k with
  | none =>
      rw [hv] at hins
      exact hins
  | some q =>
      have hq : q ≠ p := by
        intro hc
        rw [hc] at hv
        exact hfresh k hv
      rw [hv, Option.elim_some, Function.update_of_ne hq] at hins
      exact hins

end MapTotal
