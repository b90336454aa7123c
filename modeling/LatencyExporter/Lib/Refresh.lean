import Mathlib.Data.List.Basic

/-!
# Caches Refreshed on a Miss

A map that is read during a pass over some keys, where the first key without a
value makes the whole map be fetched anew, at most once in a pass. What is
fetched replaces the map, for the key that missed, for the keys read after it
and for the passes to come.

The case of interest is a fetch that comes back empty. It is harmless when no
key misses, and when there was nothing to lose; in every other case it takes
away what the map had.

## Main definitions

* `Cache`: A map, and whether the pass has fetched it.
* `read`, `readAll`: One read, and those of a pass.
* `Keeps`: A pass shows and keeps every value the map had.
* `Covered`: A fetch cannot take anything away.

## Theorems

* `readAll_append`: A pass in two parts.
* `readAll_hit`: A pass without a miss.
* `readAll_miss`: A pass with a miss.
* `keeps_of_hit`: A pass without a miss keeps every value.
* `covered_of_keeps`: A pass with an empty fetch that keeps every value.
* `keeps_iff`: When a pass keeps every value although its fetch fails.
-/

namespace Refresh

variable {M K V : Type} [DecidableEq V]

/-- A map, and whether the pass has fetched it already. -/
structure Cache (M : Type) where
  map : M
  refreshed : Bool

/-- Read a key. A missing value makes the map be replaced by the fetched one,
    unless that has happened already. -/
def read (get : M → K → V) (zero : V) (fetched : M) (c : Cache M) (k : K) : V × Cache M :=
  let v := get c.map k
  if v = zero ∧ c.refreshed = false then (get fetched k, { map := fetched, refreshed := true })
  else (v, c)

/-- Read keys one after another. -/
def readAll (get : M → K → V) (zero : V) (fetched : M) : Cache M → List K → List V × Cache M
  | c, [] => ([], c)
  | c, k :: ks =>
      let (v, c) := read get zero fetched c k
      let (vs, c) := readAll get zero fetched c ks
      (v :: vs, c)

variable (get : M → K → V) (zero : V) (fetched : M)

theorem readAll_cons (c : Cache M) (k : K) (ks : List K) :
    readAll get zero fetched c (k :: ks)
      = ((read get zero fetched c k).1 ::
          (readAll get zero fetched (read get zero fetched c k).2 ks).1,
        (readAll get zero fetched (read get zero fetched c k).2 ks).2) := rfl

theorem readAll_append (c : Cache M) (ks ls : List K) :
    readAll get zero fetched c (ks ++ ls)
      = ((readAll get zero fetched c ks).1 ++
          (readAll get zero fetched (readAll get zero fetched c ks).2 ls).1,
        (readAll get zero fetched (readAll get zero fetched c ks).2 ls).2) := by
  induction ks generalizing c with
  | nil => rfl
  | cons k ks ih =>
      rw [List.cons_append, readAll_cons, readAll_cons, ih]
      rfl

theorem read_hit (c : Cache M) (k : K) (hit : get c.map k ≠ zero ∨ c.refreshed = true) :
    read get zero fetched c k = (get c.map k, c) := by
  unfold read
  refine if_neg ?_
  intro hmiss
  rcases hit with hv | hr
  · exact hv hmiss.1
  · rw [hr] at hmiss
    exact absurd hmiss.2 (by simp only [Bool.true_eq_false, not_false_eq_true])

theorem readAll_hit (c : Cache M) (ks : List K)
    (hit : (∀ k ∈ ks, get c.map k ≠ zero) ∨ c.refreshed = true) :
    readAll get zero fetched c ks = (ks.map (get c.map), c) := by
  induction ks with
  | nil => rfl
  | cons k ks ih =>
      -- The first read leaves the cache alone, so the rest is the same pass.
      have hread : read get zero fetched c k = (get c.map k, c) :=
        read_hit get zero fetched c k (hit.imp_left fun h => h k List.mem_cons_self)
      rw [readAll_cons, hread, ih (hit.imp_left fun h k' hk' => h k' (List.mem_cons_of_mem k hk')),
        List.map_cons]

theorem readAll_miss (m : M) (ks : List K) (hmiss : ∃ k ∈ ks, get m k = zero) :
    (readAll get zero fetched ⟨m, false⟩ ks).2 = ⟨fetched, true⟩ := by
  induction ks with
  | nil =>
      rcases hmiss with ⟨k, hk, _⟩
      exact absurd hk List.not_mem_nil
  | cons k ks ih =>
      rw [readAll_cons]
      by_cases hv : get m k = zero
      · -- This read fetches, and no later one does.
        have hread : read get zero fetched ⟨m, false⟩ k = (get fetched k, ⟨fetched, true⟩) :=
          if_pos ⟨hv, rfl⟩
        rw [hread, readAll_hit get zero fetched ⟨fetched, true⟩ ks (.inr rfl)]
      · rw [read_hit get zero fetched ⟨m, false⟩ k (.inl hv)]
        refine ih ?_
        rcases hmiss with ⟨k', hk', hv'⟩
        rcases List.mem_cons.mp hk' with heq | hmem
        · rw [heq] at hv'
          exact absurd hv' hv
        · exact ⟨k', hmem, hv'⟩

/-- A pass shows, and leaves in the map, every value the map had before. -/
def Keeps (m m' : M) (shown : List (K × V)) : Prop :=
  ∀ k, get m k ≠ zero → get m' k = get m k ∧ ∀ r ∈ shown, r.1 = k → r.2 = get m k

/-- A fetch cannot take anything away: there is nothing, or nothing misses. -/
def Covered (m : M) (ks : List K) : Prop := (∀ k, get m k = zero) ∨ ∀ k ∈ ks, get m k ≠ zero

section Pass

variable (m m' : M) (refreshed : Bool) (reads shown : List (K × V))
  (hpass : readAll get zero fetched ⟨m, false⟩ (reads.map Prod.fst)
    = (reads.map Prod.snd, ⟨m', refreshed⟩))
  (hshown : ∀ r ∈ shown, r ∈ reads ∨ get m r.1 = zero)

include hpass hshown in
theorem keeps_of_hit (hit : ∀ k ∈ reads.map Prod.fst, get m k ≠ zero) :
    Keeps get zero m m' shown := by
  rw [readAll_hit get zero fetched ⟨m, false⟩ _ (.inl hit), Prod.mk.injEq, Cache.mk.injEq] at hpass
  rcases hpass with ⟨hvalues, hm, _⟩
  intro k hk
  refine ⟨by rw [← hm], ?_⟩
  intro r hr hrk
  rcases hshown r hr with hread | hzero
  · -- Every read yields what the map has.
    rw [List.map_map] at hvalues
    have hr2 := List.map_inj_left.mp hvalues r hread
    rw [← hrk, ← hr2]
    rfl
  · rw [hrk] at hzero
    exact absurd hzero hk

include hpass in
theorem covered_of_keeps (hempty : ∀ k, get fetched k = zero) (hkeeps : Keeps get zero m m' shown) :
    Covered get zero m (reads.map Prod.fst) := by
  by_contra hno
  unfold Covered at hno
  push Not at hno
  rcases hno with ⟨⟨k, hk⟩, hmiss⟩
  -- A value that was there is gone once the map has been fetched.
  have hfetched := readAll_miss get zero fetched m _ hmiss
  rw [hpass, Cache.mk.injEq] at hfetched
  have hgone := (hkeeps k hk).1
  rw [hfetched.1, hempty] at hgone
  exact hk hgone.symm

include hpass in
theorem hit_of_not_refreshed (hno : ¬ refreshed = true) :
    ∀ k ∈ reads.map Prod.fst, get m k ≠ zero := by
  intro k hk hzero
  have hfetched := readAll_miss get zero fetched m _ ⟨k, hk, hzero⟩
  rw [hpass, Cache.mk.injEq] at hfetched
  exact hno hfetched.2

include hpass hshown in
/-- A pass during which every fetch fails keeps what was known exactly when the
    failed fetch cannot take anything away. -/
theorem keeps_iff (fails : Prop) (hempty : fails → ∀ k, get fetched k = zero) :
    ((refreshed = true → fails) → Keeps get zero m m' shown)
      ↔ (fails → Covered get zero m (reads.map Prod.fst)) := by
  constructor
  · intro h hfails
    exact covered_of_keeps get zero fetched m m' refreshed reads shown hpass (hempty hfails)
      (h fun _ => hfails)
  · intro h hfetch
    by_cases hr : refreshed = true
    · rcases h (hfetch hr) with hnone | hit
      · -- Nothing was known, so there is nothing to keep.
        intro k hk
        exact absurd (hnone k) hk
      · exact keeps_of_hit get zero fetched m m' refreshed reads shown hpass hshown hit
    · -- A pass without a fetch has hit at every read.
      exact keeps_of_hit get zero fetched m m' refreshed reads shown hpass hshown
        (hit_of_not_refreshed get zero fetched m m' refreshed reads hpass hr)

end Pass

end Refresh
