import Mathlib.Data.Finmap
import Mathlib.Data.List.Induction
import Mathlib.Data.List.Perm.Basic
import Mathlib.Logic.Function.Basic

/-!
# Tables Built by Overwriting

A table filled from a list of entries, one after the other, where an entry
replaces what an earlier one wrote under its key.

The table depends on the order of the entries only through entries of one key
that differ. `map_overwrite_perm` says so for a view of the values: if the
entries of a key agree as far as the view goes, every order of the entries
shows the same under the key. `overwrite_last` is the converse: any entry can
be made to win by putting it last.

`revise` is the loop that reads a place before it writes it. As long as no two
elements have one place, every element finds its own as it was before the loop.

## Main definitions

* `overwrite`: The table of a list of entries.
* `revise`: A loop that revises the place of each element.

## Theorems

* `overwrite_concat`: Adding an entry at the end.
* `mem_of_overwrite`: A value of the table is that of an entry.
* `isSome_overwrite_iff`: The keys of the table.
* `map_overwrite_perm`: Entries that agree may come in any order.
* `overwrite_last`: The last entry of a key wins.
* `overwrite_eq_some_iff`: A key whose entries agree.
* `overwrite_filterMap_iff`: The element that decides.
* `foldl_eq_overwrite`: Loops that fill a table.
* `lookup_foldl_insert`: The same for a finite map.
* `revise_of_mem`: Elements with places of their own.
-/

namespace Overwrite

variable {K V W : Type} [DecidableEq K]

/-- The table of a list of entries. -/
def overwrite (l : List (K × V)) : K → Option V :=
  l.foldl (fun m e => Function.update m e.1 (some e.2)) fun _ => none

theorem overwrite_concat (l : List (K × V)) (e : K × V) :
    overwrite (l ++ [e]) = Function.update (overwrite l) e.1 (some e.2) := List.foldl_concat ..

theorem mem_of_overwrite (l : List (K × V)) (k : K) (v : V) (h : overwrite l k = some v) :
    (k, v) ∈ l := by
  induction l using List.reverseRecOn with
  | nil =>
      exact absurd h (by simp only [overwrite, List.foldl_nil, reduceCtorEq, not_false_eq_true])
  | append_singleton l e ih =>
      rw [overwrite_concat] at h
      by_cases hk : k = e.1
      · rw [hk, Function.update_self, Option.some.injEq] at h
        rw [hk, ← h]
        exact List.mem_append_right l List.mem_cons_self
      · rw [Function.update_of_ne hk] at h
        exact List.mem_append_left [e] (ih h)

theorem isSome_overwrite_iff (l : List (K × V)) (k : K) :
    (overwrite l k).isSome ↔ ∃ v, (k, v) ∈ l := by
  constructor
  · intro h
    rcases Option.isSome_iff_exists.mp h with ⟨v, hv⟩
    exact ⟨v, mem_of_overwrite l k v hv⟩
  · rintro ⟨v, hv⟩
    induction l using List.reverseRecOn with
    | nil => exact absurd hv List.not_mem_nil
    | append_singleton l e ih =>
        rw [overwrite_concat]
        by_cases hk : k = e.1
        · rw [hk, Function.update_self, Option.isSome_some]
        · rw [Function.update_of_ne hk]
          rcases List.mem_append.mp hv with hv | hv
          · exact ih hv
          · exact absurd (congrArg Prod.fst (List.mem_singleton.mp hv)) hk

/-- If the entries of a key agree in a view of their values, the view does not
    depend on the order of the entries. -/
theorem map_overwrite_perm (f : V → W) (l l' : List (K × V)) (hperm : l'.Perm l) (k : K)
    (hagree : ∀ v v', (k, v) ∈ l → (k, v') ∈ l → f v = f v') :
    (overwrite l' k).map f = (overwrite l k).map f := by
  have hsome : (overwrite l' k).isSome ↔ (overwrite l k).isSome := by
    simp only [isSome_overwrite_iff, hperm.mem_iff]
  cases hv : overwrite l k with
  | none =>
      rw [hv, Option.isSome_none, Bool.false_eq_true, iff_false, Option.not_isSome_iff_eq_none]
        at hsome
      rw [hsome]
  | some v =>
      rw [hv] at hsome
      rcases Option.isSome_iff_exists.mp (hsome.mpr rfl) with ⟨v', hv'⟩
      rw [hv', Option.map_some, Option.map_some, Option.some.injEq]
      exact hagree v' v (hperm.mem_iff.mp (mem_of_overwrite l' k v' hv'))
        (mem_of_overwrite l k v hv)

theorem overwrite_last (l : List (K × V)) (k : K) (v : V) :
    overwrite (l ++ [(k, v)]) k = some v := by
  rw [overwrite_concat, Function.update_self]

/-- If the entries of a key agree, its value is that of any of them. -/
theorem overwrite_eq_some_iff (l : List (K × V)) (k : K) (v : V)
    (hagree : ∀ v v', (k, v) ∈ l → (k, v') ∈ l → v = v') :
    overwrite l k = some v ↔ (k, v) ∈ l := by
  refine ⟨mem_of_overwrite l k v, fun hmem => ?_⟩
  rcases Option.isSome_iff_exists.mp ((isSome_overwrite_iff l k).mpr ⟨v, hmem⟩) with ⟨v', hv'⟩
  rw [hv', hagree v' v (mem_of_overwrite l k v' hv') hmem]

theorem overwrite_append_of_ne (l l' : List (K × V)) (k : K) (hne : ∀ e ∈ l', e.1 ≠ k) :
    overwrite (l ++ l') k = overwrite l k := by
  induction l' using List.reverseRecOn with
  | nil => rw [List.append_nil]
  | append_singleton l' e ih =>
      rw [← List.append_assoc, overwrite_concat,
        Function.update_of_ne (hne e (List.mem_append_right l' List.mem_cons_self)).symm]
      exact ih fun e' he' => hne e' (List.mem_append_left [e] he')

variable {A : Type}

/-- Of the elements that give an entry for a key the last one decides. -/
theorem overwrite_filterMap_iff (entry : A → Option (K × V)) (l : List A) (k : K) (v : V) :
    overwrite (l.filterMap entry) k = some v ↔ ∃ before a after, l = before ++ a :: after ∧
      entry a = some (k, v) ∧ ∀ b ∈ after, ∀ v', entry b ≠ some (k, v') := by
  constructor
  · intro h
    induction l using List.reverseRecOn with
    | nil =>
        exact absurd (mem_of_overwrite _ k v h) List.not_mem_nil
    | append_singleton l c ih =>
        by_cases hc : ∃ v', entry c = some (k, v')
        · -- The new element decides, whatever came before.
          rcases hc with ⟨v', hc⟩
          rw [List.filterMap_append, List.filterMap_cons_some hc, List.filterMap_nil,
            overwrite_last, Option.some.injEq] at h
          exact ⟨l, c, [], rfl, h ▸ hc, fun b hb => absurd hb List.not_mem_nil⟩
        · -- Otherwise it leaves the place of the key alone.
          rw [List.filterMap_append, overwrite_append_of_ne] at h
          · rcases ih h with ⟨before, a, after, rfl, ha, hafter⟩
            refine ⟨before, a, after ++ [c], by rw [List.append_assoc, List.cons_append], ha, ?_⟩
            refine List.forall_mem_append.mpr ⟨hafter, List.forall_mem_singleton.mpr ?_⟩
            exact fun v' hv' => hc ⟨v', hv'⟩
          · intro e he hek
            rcases List.mem_filterMap.mp he with ⟨c', hc', he'⟩
            rw [List.mem_singleton.mp hc'] at he'
            exact hc ⟨e.2, by rw [he', ← hek]⟩
  · rintro ⟨before, a, after, rfl, ha, hafter⟩
    rw [List.filterMap_append, List.filterMap_cons_some ha, List.append_cons,
      overwrite_append_of_ne, overwrite_last]
    intro e he hek
    rcases List.mem_filterMap.mp he with ⟨b, hb, heb⟩
    exact hafter b hb e.2 (by rw [heb, ← hek])

/-- A loop that enters what some of its elements give. -/
theorem foldl_eq_overwrite (entry : A → Option (K × V))
    (f : (K → Option V) → A → (K → Option V)) (l : List A)
    (hf : ∀ m a, f m a = match entry a with
      | some e => Function.update m e.1 (some e.2)
      | none => m) :
    l.foldl f (fun _ => none) = overwrite (l.filterMap entry) := by
  rw [overwrite, List.foldl_filterMap]
  congr 1
  funext m a
  rw [hf]
  cases entry a <;> rfl

/-- A finite map that is filled by insertions is the table of what is inserted. -/
theorem lookup_foldl_insert (l : List (K × V)) (k : K) :
    (l.foldl (fun m e => m.insert e.1 e.2) (∅ : Finmap fun _ : K => V)).lookup k =
      overwrite l k := by
  induction l using List.reverseRecOn with
  | nil => exact Finmap.lookup_empty k
  | append_singleton l e ih =>
      rw [List.foldl_concat, overwrite_concat]
      by_cases hk : k = e.1
      · rw [hk, Finmap.lookup_insert, Function.update_self]
      · rw [Finmap.lookup_insert_of_ne _ hk, Function.update_of_ne hk, ih]

/-- Go through elements and revise the value under the key of each. -/
def revise (key : A → K) (new : A → Option V → Option V) (l : List A) (m : K → Option V) :
    K → Option V :=
  l.foldl (fun m a => Function.update m (key a) (new a (m (key a)))) m

theorem revise_of_not_mem (key : A → K) (new : A → Option V → Option V) (l : List A)
    (m : K → Option V) (k : K) (hk : k ∉ l.map key) : revise key new l m k = m k := by
  induction l generalizing m with
  | nil => rfl
  | cons a l ih =>
      rw [List.map_cons, List.mem_cons, not_or] at hk
      rw [revise, List.foldl_cons, ← revise, ih _ hk.2, Function.update_of_ne hk.1]

/-- Elements with keys of their own are revised once. -/
theorem revise_of_mem (key : A → K) (new : A → Option V → Option V) (l : List A)
    (m : K → Option V) (hnodup : (l.map key).Nodup) (a : A) (ha : a ∈ l) :
    revise key new l m (key a) = new a (m (key a)) := by
  induction l generalizing m with
  | nil => exact absurd ha List.not_mem_nil
  | cons b l ih =>
      rw [List.map_cons, List.nodup_cons] at hnodup
      rw [revise, List.foldl_cons, ← revise]
      rcases List.mem_cons.mp ha with rfl | ha
      · rw [revise_of_not_mem key new l _ _ hnodup.1, Function.update_self]
      · have hne : key a ≠ key b := fun hc => hnodup.1 (hc ▸ List.mem_map_of_mem ha)
        rw [ih _ hnodup.2 ha, Function.update_of_ne hne]

end Overwrite
