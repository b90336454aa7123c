import Mathlib.Algebra.BigOperators.Group.List.Basic

/-!
# Running Totals

Counts and their running totals say the same. `runningTotals` goes from the
counts to the totals and `differences` goes back, whatever the counts are, as
long as adding can be undone by subtracting. This is so for natural numbers and
for numbers that wrap around, where the totals need not even be in order.

The total of all counts is often given apart from the others.
`differences_concat` is for this: the last count is its difference to the last
of the others.

## Main definitions

* `runningTotals`: The totals of the counts so far.
* `differences`: The steps between successive totals.

## Theorems

* `length_runningTotals`: A total for each count.
* `runningTotals_concat`: The last of the totals.
* `getElem_runningTotals`: A total as a sum.
* `differences_runningTotals`: The counts are recovered.
* `differences_concat`: The last difference.
-/

namespace RunningTotals

variable {α : Type}

/-- The totals of the counts so far, on top of `a`. -/
def runningTotals [Add α] : α → List α → List α
  | _, [] => []
  | a, x :: xs => (a + x) :: runningTotals (a + x) xs

/-- The steps between successive totals, the first one from `a`. -/
def differences [Sub α] : α → List α → List α
  | _, [] => []
  | a, x :: xs => (x - a) :: differences x xs

theorem length_runningTotals [Add α] (a : α) (xs : List α) :
    (runningTotals a xs).length = xs.length := by
  induction xs generalizing a with
  | nil => rfl
  | cons x xs ih => rw [runningTotals, List.length_cons, List.length_cons, ih]

theorem runningTotals_concat [Add α] (a x : α) (xs : List α) :
    runningTotals a (xs ++ [x]) = runningTotals a xs ++ [xs.foldl (· + ·) a + x] := by
  induction xs generalizing a with
  | nil => rfl
  | cons y ys ih => rw [List.cons_append, runningTotals, ih, runningTotals, List.cons_append,
      List.foldl_cons]

theorem getElem_runningTotals [AddMonoid α] (a : α) (xs : List α) (i : Nat)
    (hi : i < (runningTotals a xs).length) :
    (runningTotals a xs)[i] = a + (xs.take (i + 1)).sum := by
  induction xs generalizing a i with
  | nil => exact absurd hi (Nat.not_lt_zero i)
  | cons x xs ih =>
      cases i with
      | zero => simp only [runningTotals, List.getElem_cons_zero, List.take_succ_cons,
          List.take_zero, List.sum_cons, List.sum_nil, add_zero]
      | succ i =>
          simp only [runningTotals, List.getElem_cons_succ]
          rw [ih, List.take_succ_cons, List.sum_cons, add_assoc]

theorem differences_runningTotals [Add α] [Sub α] (hcancel : ∀ a x : α, a + x - a = x) (a : α)
    (xs : List α) : differences a (runningTotals a xs) = xs := by
  induction xs generalizing a with
  | nil => rfl
  | cons x xs ih => rw [runningTotals, differences, hcancel, ih]

theorem differences_concat [Sub α] (a x : α) (xs : List α) :
    differences a (xs ++ [x]) = differences a xs ++ [x - xs.getLastD a] := by
  induction xs generalizing a with
  | nil => rfl
  | cons y ys ih => rw [List.cons_append, differences, ih, differences, List.cons_append,
      List.getLastD_cons]

end RunningTotals
