import LatencyExporter.Theory.Histogram
import Mathlib.Algebra.BigOperators.Field
import Mathlib.Algebra.QuadraticAlgebra.Basic
import Mathlib.Analysis.Real.Sqrt

/-!
# The Estimated Sum of Latencies

The slots do not say how long a request took, only between which edges. The sum
of a histogram is estimated with one representative for each slot, and to be
possible at all it has to lie between the sums of the edges.

The representative of slot `i` is the geometric mean of `2 ^ (i - 1)` and
`2 ^ i`. The slot holds the microseconds from `2 ^ i` up to `2 ^ (i + 1)`, so
its representative lies below its lower edge, by the same factor in every slot.
Only in slot zero is it an inner point. A sum is therefore never too large, and
it is large enough only if there are so many requests in slot zero that they
make up for all the others (`sumPossible_iff`).

## Main definitions

* `toReal`: The real number a sum stands for.
* `slotCount`, `shownCount`: The requests of a slot, and what its counter shows.
* `lowerEdge`, `upperEdge`: The edges of a slot.
* `SumPossible`: The sum lies between the sums of the edges.
* `shortfall`: By how much the slots above the first fall short.

## Theorems

* `foldl_totalsStep_sum`: The sum by slots.
* `sum_by_slot`: Adding up over requests and over slots.
* `toReal_sum`: The estimated sum as a real number.
* `excess_eq`: How far the sum is from that of the lower edges.
* `sumPossible_iff`: When the sum is possible.
-/

namespace LatencyExporter

namespace Ebpf

open Bpf

/-- The real number a sum stands for. -/
noncomputable def toReal : Sqrt2Rat →ₐ[ℚ] ℝ :=
  QuadraticAlgebra.lift ⟨√2, by rw [Real.mul_self_sqrt zero_le_two]; norm_num⟩

theorem toReal_mk (p q : ℚ) : toReal ⟨p, q⟩ = p + q * √2 := by
  simp [toReal, Rat.smul_def]

/-- The number of requests in a slot. -/
def slotCount (ds : List Latency) (i : Fin maxSlots) : Nat :=
  ds.countP fun d => latencySlot d.val = i

/-- What the 64-bit counter of a slot shows. -/
def shownCount (ds : List Latency) (i : Fin maxSlots) : Nat := slotCount ds i % 2 ^ 64

/-- The least duration a slot counts, in seconds. -/
noncomputable def lowerEdge (i : Fin maxSlots) : ℝ :=
  if i.val = 0 then 0 else 2 ^ i.val / 1000000

/-- The end of the durations a slot counts, in seconds. The last slot counts
    longer ones too. -/
noncomputable def upperEdge (i : Fin maxSlots) : ℝ := 2 ^ (i.val + 1) / 1000000

/-- The estimated sum lies between the sums of the edges of the requests. -/
def SumPossible (ds : List Latency) (promBuckets : List ℚ) : Prop :=
  (ds.map fun d => lowerEdge (latencySlot d.val)).sum
    ≤ toReal (slotsToConstHistogram (slotsOf ds) promBuckets).sum ∧
  toReal (slotsToConstHistogram (slotsOf ds) promBuckets).sum
    ≤ (ds.map fun d => upperEdge (latencySlot d.val)).sum

/-- Slot zero. -/
def firstSlot : Fin maxSlots := ⟨0, by decide⟩

/-- By how much the slots above the first fall short of their lower edges, in
    units of half a microsecond. -/
noncomputable def shortfall (ds : List Latency) : ℝ :=
  ∑ i ∈ Finset.univ.erase firstSlot,
    (2 * (slotCount ds i : ℝ) - √2 * (shownCount ds i : ℝ)) * 2 ^ i.val

/-- The sum of the first loop over any list of slots. -/
theorem foldl_totalsStep_sum (slots : Fin maxSlots → UInt64) (l : List (Fin maxSlots))
    (t : Totals) :
    (l.foldl (totalsStep slots) t).sum
      = t.sum + (l.map fun i =>
          ((slots i).toNat : ℚ) • ((1 / 1000000 : ℚ) • midpointUS i)).sum := by
  induction l generalizing t with
  | nil => rw [List.foldl_nil, List.map_nil, List.sum_nil, add_zero]
  | cons i l ih => rw [List.foldl_cons, ih, List.map_cons, List.sum_cons, totalsStep, add_assoc]

/-- Adding up over the requests is adding up over the slots. -/
theorem sum_by_slot (ds : List Latency) (f : Fin maxSlots → ℝ) :
    (ds.map fun d => f (latencySlot d.val)).sum = ∑ i, (slotCount ds i : ℝ) * f i := by
  induction ds with
  | nil => simp [slotCount]
  | cons d ds ih =>
      -- The new request counts in its own slot only.
      have hcount : ∀ i, (slotCount (d :: ds) i : ℝ) * f i
          = slotCount ds i * f i + if latencySlot d.val = i then f i else 0 := by
        intro i
        rw [slotCount, List.countP_cons, ← slotCount]
        by_cases hi : latencySlot d.val = i
        · simp only [hi, decide_true, if_true]
          push_cast
          ring
        · simp only [hi, decide_false, if_false, Bool.false_eq_true, add_zero]
      simp only [hcount, Finset.sum_add_distrib, Finset.sum_ite_eq, Finset.mem_univ, if_true]
      rw [List.map_cons, List.sum_cons, ih, add_comm]

/-- The representative of a slot as a real number. -/
theorem toReal_midpointUS (i : Fin maxSlots) :
    toReal (midpointUS i) = if i.val = 0 then 1 / 2 else 2 ^ i.val * √2 / 2 := by
  unfold midpointUS
  by_cases hi : i.val = 0
  · rw [if_pos hi, if_pos hi, toReal_mk]
    norm_num
  · -- The source has the exponent one lower, and no factor of one half.
    have hpow : (2 : ℝ) ^ i.val = 2 ^ (i.val - 1) * 2 := by
      rw [← pow_succ, Nat.sub_add_cancel (Nat.one_le_iff_ne_zero.mpr hi)]
    rw [if_neg hi, if_neg hi, toReal_mk, hpow]
    push_cast
    ring

theorem toReal_sum (ds : List Latency) (promBuckets : List ℚ) :
    toReal (slotsToConstHistogram (slotsOf ds) promBuckets).sum
      = ∑ i, (shownCount ds i : ℝ) * (toReal (midpointUS i) / 1000000) := by
  -- A counter shows the requests of its slot modulo its width.
  have hslot : ∀ i, (slotsOf ds i).toNat = shownCount ds i := by
    intro i
    rw [slotsOf_eq, UInt64.toNat_ofNat']
    rfl
  have hsum : (slotsToConstHistogram (slotsOf ds) promBuckets).sum
      = ∑ i, (shownCount ds i : ℚ) • ((1 / 1000000 : ℚ) • midpointUS i) := by
    rw [Fin.sum_univ_def]
    simp only [← hslot]
    exact (foldl_totalsStep_sum (slotsOf ds) (List.finRange maxSlots) Totals.zero).trans
      (zero_add _)
  rw [hsum, map_sum]
  refine Finset.sum_congr rfl fun i _ => ?_
  rw [map_smul, map_smul, Rat.smul_def, Rat.smul_def]
  push_cast
  ring

theorem sqrt_two_bounds : 0 < √(2 : ℝ) ∧ √(2 : ℝ) < 2 := by
  refine ⟨Real.sqrt_pos.mpr two_pos, ?_⟩
  rw [Real.sqrt_lt' two_pos]
  norm_num

/-- No representative lies above its slot. -/
theorem toReal_midpointUS_le (i : Fin maxSlots) :
    toReal (midpointUS i) / 1000000 ≤ upperEdge i := by
  have hsqrt := sqrt_two_bounds
  rw [toReal_midpointUS, upperEdge, pow_succ]
  have hpow : (1 : ℝ) ≤ 2 ^ i.val := one_le_pow₀ one_le_two
  refine div_le_div_of_nonneg_right ?_ (by norm_num)
  split
  · linarith
  · nlinarith

/-- How far the sum is above the sum of the lower edges. -/
theorem excess_eq (ds : List Latency) (promBuckets : List ℚ) :
    toReal (slotsToConstHistogram (slotsOf ds) promBuckets).sum
        - (ds.map fun d => lowerEdge (latencySlot d.val)).sum
      = ((shownCount ds firstSlot : ℝ) - shortfall ds) / 2000000 := by
  -- Slot zero starts at zero, so that its representative is a gain.
  have hfirst : (shownCount ds firstSlot : ℝ) * (toReal (midpointUS firstSlot) / 1000000)
        - slotCount ds firstSlot * lowerEdge firstSlot
      = (shownCount ds firstSlot : ℝ) / 2000000 := by
    have hzero : firstSlot.val = 0 := rfl
    rw [toReal_midpointUS, lowerEdge, if_pos hzero, if_pos hzero]
    ring
  -- In all other slots the representative is the lower edge times √2 / 2.
  have hrest : ∀ i ∈ Finset.univ.erase firstSlot,
      (shownCount ds i : ℝ) * (toReal (midpointUS i) / 1000000) - slotCount ds i * lowerEdge i
        = -((2 * (slotCount ds i : ℝ) - √2 * (shownCount ds i : ℝ)) * 2 ^ i.val) / 2000000 := by
    intro i hi
    have hne : i.val ≠ 0 := fun hc => (Finset.mem_erase.mp hi).1 (Fin.ext hc)
    rw [toReal_midpointUS, lowerEdge, if_neg hne, if_neg hne]
    ring
  rw [toReal_sum, sum_by_slot, ← Finset.sum_sub_distrib,
    ← Finset.add_sum_erase _ _ (Finset.mem_univ firstSlot), hfirst, Finset.sum_congr rfl hrest,
    ← Finset.sum_div, Finset.sum_neg_distrib, ← shortfall]
  ring

/-- The estimated sum is possible exactly if the requests in slot zero make up
    for what those in the other slots are short of. -/
theorem sumPossible_iff (ds : List Latency) (promBuckets : List ℚ) :
    SumPossible ds promBuckets ↔ shortfall ds ≤ (shownCount ds firstSlot : ℝ) := by
  have hexcess := excess_eq ds promBuckets
  -- The upper bound always holds, since counters only lose and no representative is too large.
  have hupper : toReal (slotsToConstHistogram (slotsOf ds) promBuckets).sum
      ≤ (ds.map fun d => upperEdge (latencySlot d.val)).sum := by
    rw [toReal_sum, sum_by_slot]
    refine Finset.sum_le_sum fun i _ => mul_le_mul ?_ (toReal_midpointUS_le i) ?_ ?_
    · exact_mod_cast Nat.mod_le (slotCount ds i) (2 ^ 64)
    · rw [toReal_midpointUS]
      positivity
    · exact Nat.cast_nonneg _
  unfold SumPossible
  rw [and_iff_left hupper]
  constructor
  · intro hlower
    linarith
  · intro hshort
    linarith

/-- A request of 16 ms is in a slot that starts at 8.192 ms, and is taken for
    less than 5.8 ms. -/
theorem sum_impossible_16ms : ¬ SumPossible [16000000] [] := by
  have hsqrt := sqrt_two_bounds
  have hsum : (slotsToConstHistogram (slotsOf [16000000]) []).sum = ⟨0, 4096 / 1000000⟩ := by
    decide +kernel
  have hslot : latencySlot ((16000000 : Latency).val : Int) = ⟨13, by decide⟩ := by
    decide +kernel
  rintro ⟨hlower, _⟩
  rw [hsum, toReal_mk, List.map_singleton, List.sum_singleton, hslot, lowerEdge,
    if_neg (by decide)] at hlower
  norm_num at hlower
  linarith

end Ebpf

end LatencyExporter
