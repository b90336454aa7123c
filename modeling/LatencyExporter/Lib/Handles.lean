import Mathlib.Algebra.Ring.Nat
import Mathlib.Data.List.Count
import Mathlib.Data.List.Perm.Basic

/-!
# Handles and How Often They Are Closed

A supply of numbered handles with a count of how often each was closed. Closing
a handle twice is possible, as it is for a file descriptor wrapped in an object
whose `Close` nobody guards.

`Balanced` relates the counts to who is still responsible for a handle. Of each
handle that was acquired, the times it was closed and the times it is held add
up to one: it is to be closed once, now or later. A handle that was closed and
is still held is over by one, and those are listed separately. The operations
keep the balance, whatever is held besides, so it can be carried through a
program piece by piece; at the end nothing is held, and every handle was closed
once and once more for each time it is listed.

## Main definitions

* `Handles`: The handles acquired so far.
* `acquire`, `close`, `closeAll`: Operations on them.
* `acquiredSince`: The handles acquired between two states.
* `Undone`: What was acquired was closed again.
* `Balanced`: Handles are to be closed once.

## Theorems

* `closeAll_closes`, `closeAll_perm`: How often a handle is closed.
* `acquiredSince_append`, `count_acquiredSince`: Acquired handles.
* `undone_of_closeAll`, `Undone.eq_closeAll`: Closing all that was acquired.
* `balanced_acquiredSince`, `balanced_acquire`: New handles are held.
* `Balanced.of_undone`: What was undone does not matter.
* `balanced_closeAll`: Closing handles and letting go of them.
* `balanced_closeAll_kept`: Closing handles and holding on to them.
* `Balanced.open_of_mem`: A held handle is open.
* `Balanced.closes_eq`: When nothing is held any more.
-/

/-- Handles are numbered in the order in which they are acquired. -/
structure Handles where
  next : Nat
  closes : Nat → Nat

namespace Handles

/-- No handle yet. -/
def empty : Handles := { next := 0, closes := fun _ => 0 }

/-- A new handle. -/
def acquire (k : Handles) : Nat × Handles := (k.next, { k with next := k.next + 1 })

/-- Close a handle. -/
def close (k : Handles) (h : Nat) : Handles :=
  { k with closes := fun h' => if h' = h then k.closes h' + 1 else k.closes h' }

/-- Close handles one after the other. -/
def closeAll (k : Handles) (hs : List Nat) : Handles := hs.foldl close k

/-- The handles that were acquired from `k` to `k'`. -/
def acquiredSince (k k' : Handles) : List Nat := List.range' k.next (k'.next - k.next)

/-- From `k` to `k'`, what was acquired was closed once, and nothing else was. -/
def Undone (k k' : Handles) : Prop :=
  k.next ≤ k'.next ∧ ∀ h, k'.closes h = k.closes h + if k.next ≤ h ∧ h < k'.next then 1 else 0

/-- Every handle was closed exactly once. -/
def ClosedOnce (k : Handles) : Prop := ∀ h, h < k.next → k.closes h = 1

/-- Every handle is closed or held, once in all, and those in `stale` once more.
    A stale handle is one that was closed already. -/
structure Balanced (k : Handles) (held stale : List Nat) : Prop where
  once : ∀ h, k.closes h + held.count h = (if h < k.next then 1 else 0) + stale.count h
  stale_closed : ∀ h ∈ stale, 0 < k.closes h
  stale_lt : ∀ h ∈ stale, h < k.next

/-- Closing a handle counts for this handle only. -/
theorem close_closes (k : Handles) (h h' : Nat) :
    (k.close h).closes h' = k.closes h' + [h].count h' := by
  rw [List.count_singleton]
  simp only [close, beq_iff_eq, eq_comm (a := h)]
  split <;> rfl

@[simp]
theorem closeAll_next (k : Handles) (hs : List Nat) : (k.closeAll hs).next = k.next := by
  induction hs generalizing k with
  | nil => rfl
  | cons h hs ih => exact ih (k.close h)

/-- A handle is closed as often as it is in the list. -/
theorem closeAll_closes (k : Handles) (hs : List Nat) (h : Nat) :
    (k.closeAll hs).closes h = k.closes h + hs.count h := by
  induction hs generalizing k with
  | nil => rfl
  | cons a hs ih =>
      rw [closeAll, List.foldl_cons, ← closeAll, ih, close_closes, Nat.add_assoc,
        ← List.count_append, List.singleton_append]

theorem acquiredSince_self (k : Handles) : acquiredSince k k = [] := by
  rw [acquiredSince, Nat.sub_self, List.range'_zero]

/-- The first handle that was acquired, and the others. -/
theorem acquiredSince_acquire {k k' : Handles} (hle : k.next < k'.next) :
    acquiredSince k k' = k.next :: acquiredSince k.acquire.2 k' := by
  have hsub : k'.next - k.next = (k'.next - (k.next + 1)) + 1 := by omega
  rw [acquiredSince, hsub, List.range'_succ]
  rfl

/-- What was acquired in two parts. -/
theorem acquiredSince_append {k k' k'' : Handles} (hle : k.next ≤ k'.next)
    (hle' : k'.next ≤ k''.next) :
    acquiredSince k k' ++ acquiredSince k' k'' = acquiredSince k k'' := by
  have hstart : k'.next = k.next + (k'.next - k.next) := by omega
  have hsub : k''.next - k.next = (k'.next - k.next) + (k''.next - k'.next) := by omega
  rw [acquiredSince, acquiredSince, acquiredSince, hsub, ← List.range'_append_1, ← hstart]

/-- An acquired handle is acquired once. -/
theorem count_acquiredSince {k k' : Handles} (hle : k.next ≤ k'.next) (h : Nat) :
    (acquiredSince k k').count h = if k.next ≤ h ∧ h < k'.next then 1 else 0 := by
  have hend : k.next + (k'.next - k.next) = k'.next := by omega
  rw [acquiredSince, List.count_range_1', hend]

theorem mem_acquiredSince {k k' : Handles} {h : Nat} (hmem : h ∈ acquiredSince k k') :
    k.next ≤ h ∧ h < k'.next := by
  have hrange := List.mem_range'_1.mp hmem
  omega

/-- Nothing was acquired, so there is nothing to close. -/
theorem undone_refl (k : Handles) : Undone k k := by
  refine ⟨le_refl _, fun h => ?_⟩
  rw [if_neg (by omega)]
  rfl

/-- All that was acquired from `k` on is closed, in any order. -/
theorem undone_of_closeAll {k opened : Handles} {hs : List Nat} (hnext : k.next ≤ opened.next)
    (hcloses : opened.closes = k.closes) (hperm : hs.Perm (acquiredSince k opened)) :
    Undone k (opened.closeAll hs) := by
  refine ⟨?_, fun h => ?_⟩
  · rw [closeAll_next]
    exact hnext
  · rw [closeAll_closes, hperm.count_eq, count_acquiredSince hnext, hcloses, closeAll_next]

/-- Conversely, what was undone was acquired first and closed then. -/
theorem Undone.eq_closeAll {k k' : Handles} (hundone : Undone k k') :
    k' = closeAll ⟨k'.next, k.closes⟩ (acquiredSince k k') := by
  have hnext := closeAll_next ⟨k'.next, k.closes⟩ (acquiredSince k k')
  have hcloses : (closeAll ⟨k'.next, k.closes⟩ (acquiredSince k k')).closes = k'.closes := by
    funext h
    rw [closeAll_closes, count_acquiredSince hundone.1]
    exact (hundone.2 h).symm
  exact congrArg₂ Handles.mk hnext.symm hcloses.symm

/-- The order in which handles are closed does not matter. -/
theorem closeAll_perm (k : Handles) {hs hs' : List Nat} (hperm : hs.Perm hs') :
    k.closeAll hs = k.closeAll hs' := by
  have hnext := (closeAll_next k hs).trans (closeAll_next k hs').symm
  have hcloses : (k.closeAll hs).closes = (k.closeAll hs').closes := by
    funext h
    rw [closeAll_closes, closeAll_closes, hperm.count_eq]
  exact congrArg₂ Handles.mk hnext hcloses

theorem close_eq_closeAll (k : Handles) (h : Nat) : k.close h = k.closeAll [h] := rfl

theorem closeAll_append (k : Handles) (hs hs' : List Nat) :
    k.closeAll (hs ++ hs') = (k.closeAll hs).closeAll hs' := List.foldl_append ..

/-- At first no handle exists. -/
theorem balanced_empty : Balanced empty [] [] := by
  refine ⟨fun h => ?_, fun h hh => absurd hh List.not_mem_nil,
    fun h hh => absurd hh List.not_mem_nil⟩
  simp only [empty, Nat.not_lt_zero, if_false, List.count_nil]

variable {k : Handles} {held stale : List Nat}

/-- The order in which handles are held does not matter. -/
theorem Balanced.perm (hbal : Balanced k held stale) {held' : List Nat}
    (hperm : held'.Perm held) : Balanced k held' stale := by
  refine ⟨fun h => ?_, hbal.stale_closed, hbal.stale_lt⟩
  rw [hperm.count_eq]
  exact hbal.once h

/-- New handles are held. -/
theorem balanced_acquiredSince {k' : Handles} (hbal : Balanced k held stale)
    (hnext : k.next ≤ k'.next) (hcloses : k'.closes = k.closes) :
    Balanced k' (acquiredSince k k' ++ held) stale := by
  refine ⟨fun h => ?_, fun h hh => ?_, fun h hh => ?_⟩
  · have hold := hbal.once h
    rw [List.count_append, count_acquiredSince hnext, hcloses]
    -- Older handles, new ones, and numbers not handed out yet.
    by_cases hlt : h < k.next
    · rw [if_pos hlt] at hold
      rw [if_neg (by omega), if_pos (by omega)]
      omega
    · -- A new handle was neither held nor closed before.
      rw [if_neg hlt] at hold
      by_cases hlt' : h < k'.next
      · rw [if_pos (by omega), if_pos hlt']
        omega
      · rw [if_neg (by omega), if_neg hlt']
        omega
  · rw [hcloses]
    exact hbal.stale_closed h hh
  · exact lt_of_lt_of_le (hbal.stale_lt h hh) hnext

/-- A new handle is held. -/
theorem balanced_acquire (hbal : Balanced k held stale) :
    Balanced k.acquire.2 (k.next :: held) stale := by
  have hnew : acquiredSince k k.acquire.2 = [k.next] := by
    rw [acquiredSince_acquire (Nat.lt_succ_self _), acquiredSince_self]
  have hnext : k.next ≤ k.acquire.2.next := Nat.le_succ k.next
  have hheld := balanced_acquiredSince hbal hnext rfl
  rw [hnew] at hheld
  exact hheld

/-- Handles that are closed need not be held any longer. -/
theorem balanced_closeAll (hs : List Nat) (hbal : Balanced k (hs ++ held) stale) :
    Balanced (k.closeAll hs) held stale := by
  refine ⟨fun h => ?_, fun h hh => ?_, fun h hh => ?_⟩
  · have hold := hbal.once h
    rw [List.count_append] at hold
    rw [closeAll_closes, closeAll_next]
    omega
  · have hold := hbal.stale_closed h hh
    rw [closeAll_closes]
    omega
  · rw [closeAll_next]
    exact hbal.stale_lt h hh

/-- What was acquired and closed again in between is neither held nor stale. -/
theorem Balanced.of_undone {k' : Handles} (hbal : Balanced k held stale) (hundone : Undone k k') :
    Balanced k' held stale := by
  -- Hold the handles first, then close them.
  have hheld : Balanced ⟨k'.next, k.closes⟩ (acquiredSince k k' ++ held) stale :=
    balanced_acquiredSince hbal hundone.1 rfl
  rw [hundone.eq_closeAll]
  exact balanced_closeAll _ hheld

/-- Handles that are closed and still held are stale. -/
theorem balanced_closeAll_kept (hs : List Nat) (hbal : Balanced k held stale)
    (hlt : ∀ h ∈ hs, h < k.next) : Balanced (k.closeAll hs) held (hs ++ stale) := by
  refine ⟨fun h => ?_, fun h hh => ?_, fun h hh => ?_⟩
  · have hold := hbal.once h
    rw [closeAll_closes, closeAll_next, List.count_append]
    omega
  · rw [closeAll_closes]
    -- Just closed, or stale before.
    rcases List.mem_append.mp hh with hh | hh
    · have hpos := List.count_pos_iff.mpr hh
      omega
    · have hold := hbal.stale_closed h hh
      omega
  · rw [closeAll_next]
    rcases List.mem_append.mp hh with hh | hh
    · exact hlt h hh
    · exact hbal.stale_lt h hh

/-- A held handle that is not stale is open. -/
theorem Balanced.open_of_mem (hbal : Balanced k held stale) (h : Nat) (hmem : h ∈ held)
    (hstale : h ∉ stale) : k.closes h = 0 ∧ h < k.next := by
  have hold := hbal.once h
  have hpos := List.count_pos_iff.mpr hmem
  rw [List.count_eq_zero.mpr hstale] at hold
  -- A number that was not handed out is not held.
  split at hold
  · next hlt => exact ⟨by omega, hlt⟩
  · omega

/-- When nothing is held, a handle was closed once, and once more for each time
    it is stale. -/
theorem Balanced.closes_eq (hbal : Balanced k [] stale) (h : Nat) (hlt : h < k.next) :
    k.closes h = 1 + stale.count h := by
  have hold := hbal.once h
  rw [if_pos hlt, List.count_nil] at hold
  exact hold

/-- Then all handles were closed once exactly if none is stale. -/
theorem Balanced.closedOnce_iff (hbal : Balanced k [] stale) : k.ClosedOnce ↔ stale = [] := by
  constructor
  · intro honce
    refine List.eq_nil_iff_forall_not_mem.mpr fun h hh => ?_
    have hcloses := hbal.closes_eq h (hbal.stale_lt h hh)
    rw [honce h (hbal.stale_lt h hh)] at hcloses
    have hpos := List.count_pos_iff.mpr hh
    omega
  · intro hnil h hlt
    rw [hbal.closes_eq h hlt, hnil, List.count_nil]

end Handles
