import LatencyExporter.Core.Qmp.Collector
import LatencyExporter.Lib.Overwrite
import LatencyExporter.Lib.RunningTotals
import Mathlib.Algebra.Order.BigOperators.Group.List
import Mathlib.Algebra.Order.Field.Basic
import Mathlib.Algebra.Order.Field.Rat
import Mathlib.Data.Finset.Sort

/-!
# Cumulative Buckets

QEMU counts the requests of each interval of latencies, and Prometheus wants
the requests below each boundary. `ConvertBuckets` adds up. It goes through the
bins and enters the total so far under the boundary that closes the bin; the
last bin is closed by nothing, and only adds to the count.

What is written is determined by the boundaries and the running totals of the
bins, `convertBuckets_eq`, as they come: if a boundary came twice, the later
total would replace the earlier one. Ascending boundaries exclude this. Then
the buckets have as much information as the bins, and `recoverBins` gets them
back. For this it does not even matter whether the total wraps around; that the
exported values are the sums they stand for, and that they are in order, takes
a total below `2 ^ 64`.

## Main definitions

* `LatencyHist.seconds`: The boundaries in seconds.
* `binTotal`: The number of requests in some bins.
* `valuesInOrder`, `recoverBins`: From buckets back to bins.
* `bucketStep`: A round of the loop.

## Theorems

* `foldl_bucketStep`, `convertBuckets_eq`: What the loop computes.
* `toNat_runningTotals`: Totals that do not wrap.
* `lookup_seconds`, `exists_of_lookup`, `mem_convertBuckets_iff`: The contents of
  the map.
* `toNat_total`, `toNat_count`: The values and the count as sums.
* `valuesInOrder_convertBuckets`: The values by ascending boundary.
* `recoverBins_convertBuckets`: The bins come back.
* `convertBuckets_lossless`: All of this for one histogram.
-/

namespace LatencyExporter

namespace Qmp

open Overwrite RunningTotals

/-- The boundaries in seconds. -/
def LatencyHist.seconds (hist : LatencyHist) : List ℚ := hist.boundaries.map (· / 10 ^ 9)

/-- The count of all bins. -/
def binTotal (bins : List UInt64) : Nat := (bins.map UInt64.toNat).sum

/-- More bins are no fewer requests. -/
theorem binTotal_take_mono (bins : List UInt64) {i j : Nat} (hij : i ≤ j) :
    binTotal (bins.take i) ≤ binTotal (bins.take j) := by
  rw [binTotal, binTotal, List.map_take, List.map_take]
  exact List.monotone_sum_take _ hij

/-- The values of a map of buckets, in the order of the keys. -/
def valuesInOrder (buckets : Finmap fun _ : ℚ => UInt64) : List UInt64 :=
  buckets.keys.sort.map fun k => (buckets.lookup k).getD 0

/-- The bins of exported buckets. -/
def recoverBins (exported : (Finmap fun _ : ℚ => UInt64) × UInt64) : List UInt64 :=
  differences 0 (valuesInOrder exported.1) ++
    [exported.2 - (valuesInOrder exported.1).getLastD 0]

/-- One round of the loop of `ConvertBuckets`. -/
def bucketStep (boundaries : List ℚ) (st : (Finmap fun _ : ℚ => UInt64) × UInt64)
    (bin : UInt64 × Nat) : (Finmap fun _ : ℚ => UInt64) × UInt64 :=
  match boundaries[bin.2]? with
  | none => (st.1, st.2 + bin.1)
  | some boundary => (st.1.insert (boundary / 10 ^ 9) (st.2 + bin.1), st.2 + bin.1)

/-- The loop from bin `k` on enters the running totals under the boundaries that
    are left, as far as there are any. -/
theorem foldl_bucketStep (boundaries : List ℚ) (bins : List UInt64) (k : Nat)
    (m : Finmap fun _ : ℚ => UInt64) (c : UInt64) :
    (bins.zipIdx k).foldl (bucketStep boundaries) (m, c) =
      ((((boundaries.drop k).map (· / 10 ^ 9)).zip (runningTotals c bins)).foldl
        (fun m e => m.insert e.1 e.2) m, bins.foldl (· + ·) c) := by
  induction bins generalizing k m c with
  | nil => rw [runningTotals, List.zip_nil_right]; rfl
  | cons bin bins ih =>
      rw [List.zipIdx_cons, List.foldl_cons, List.foldl_cons, runningTotals]
      cases hb : boundaries[k]? with
      | none =>
          -- Above the last boundary, bins only add to the total.
          have hle : boundaries.length ≤ k := List.getElem?_eq_none_iff.mp hb
          have hstep : bucketStep boundaries (m, c) (bin, k) = (m, c + bin) := by
            simp only [bucketStep, hb]
          rw [hstep, ih, List.drop_eq_nil_of_le hle, List.drop_eq_nil_of_le (by omega)]
          rfl
      | some b =>
          rcases List.getElem?_eq_some_iff.mp hb with ⟨hk, rfl⟩
          have hstep : bucketStep boundaries (m, c) (bin, k) =
              (m.insert (boundaries[k] / 10 ^ 9) (c + bin), c + bin) := by
            simp only [bucketStep, hb]
          rw [hstep, ih, List.drop_eq_getElem_cons hk]
          rfl

/-- The function is the loop from the first bin on. -/
theorem convertBuckets_eq (hist : LatencyHist) :
    convertBuckets hist =
      ((hist.seconds.zip (runningTotals 0 hist.bins)).foldl (fun m e => m.insert e.1 e.2) ∅,
        hist.bins.foldl (· + ·) 0) := by
  have hstep : convertBuckets hist =
      hist.bins.zipIdx.foldl (bucketStep hist.boundaries) (∅, 0) := rfl
  rw [hstep, foldl_bucketStep, List.drop_zero]
  rfl

/-- As long as the total of the bins does not wrap, no running total does. -/
theorem toNat_runningTotals (c : UInt64) (bins : List UInt64)
    (htotal : c.toNat + binTotal bins < 2 ^ 64) :
    (runningTotals c bins).map UInt64.toNat = runningTotals c.toNat (bins.map UInt64.toNat) ∧
      (bins.foldl (· + ·) c).toNat = c.toNat + binTotal bins := by
  induction bins generalizing c with
  | nil => exact ⟨rfl, rfl⟩
  | cons bin bins ih =>
      have hcons : binTotal (bin :: bins) = bin.toNat + binTotal bins := List.sum_cons
      have hadd : (c + bin).toNat = c.toNat + bin.toNat := by
        rw [UInt64.toNat_add, Nat.mod_eq_of_lt (by omega)]
      rcases ih (c + bin) (by omega) with ⟨hmap, hfold⟩
      refine ⟨?_, ?_⟩
      · rw [runningTotals, List.map_cons, List.map_cons, runningTotals, hmap, hadd]
      · rw [List.foldl_cons, hfold, hadd, hcons, Nat.add_assoc]

section

variable (hist : LatencyHist) (hasc : hist.boundaries.Pairwise (· < ·))
  (hlen : hist.bins.length = hist.boundaries.length + 1) (htotal : binTotal hist.bins < 2 ^ 64)

include hasc in
/-- In seconds the boundaries still ascend. -/
theorem seconds_ascending : hist.seconds.Pairwise (· < ·) := by
  refine List.pairwise_map.mpr (hasc.imp ?_)
  intro a b hab
  exact div_lt_div_of_pos_right hab (by norm_num)

include hasc in
/-- No boundary is written twice, so the map has what was written. -/
theorem lookup_convertBuckets_iff (k : ℚ) (v : UInt64) :
    (convertBuckets hist).1.lookup k = some v ↔
      (k, v) ∈ hist.seconds.zip (runningTotals 0 hist.bins) := by
  rw [convertBuckets_eq, lookup_foldl_insert]
  refine overwrite_eq_some_iff _ k v ?_
  -- Two values under one boundary are at one place.
  intro v v' hv hv'
  rcases List.mem_iff_getElem.mp hv with ⟨i, hi, hiv⟩
  rcases List.mem_iff_getElem.mp hv' with ⟨j, hj, hjv⟩
  rw [List.getElem_zip, Prod.mk.injEq] at hiv hjv
  have hnodup : hist.seconds.Nodup := (seconds_ascending hist hasc).imp ne_of_lt
  have hij : i = j := (hnodup.getElem_inj_iff).mp (hiv.1.trans hjv.1.symm)
  subst hij
  rw [← hiv.2, ← hjv.2]

include hlen in
/-- There is one total more than boundaries. -/
theorem length_seconds_lt : hist.seconds.length < (runningTotals 0 hist.bins).length := by
  rw [length_runningTotals, hlen, LatencyHist.seconds, List.length_map]
  exact Nat.lt_succ_self _

include hasc in
/-- The `i`-th boundary has the `i`-th running total. -/
theorem lookup_seconds (i : Nat) (hi : i < hist.seconds.length)
    (hi' : i < (runningTotals 0 hist.bins).length) :
    (convertBuckets hist).1.lookup hist.seconds[i] = some (runningTotals 0 hist.bins)[i] := by
  rw [lookup_convertBuckets_iff hist hasc]
  refine List.mem_iff_getElem.mpr ⟨i, ?_, List.getElem_zip⟩
  rw [List.length_zip]
  exact Nat.lt_min.mpr ⟨hi, hi'⟩

include hasc in
/-- There is nothing else in the map. -/
theorem exists_of_lookup (k : ℚ) (v : UInt64) (h : (convertBuckets hist).1.lookup k = some v) :
    ∃ (i : Nat) (hi : i < hist.seconds.length) (hi' : i < (runningTotals 0 hist.bins).length),
      hist.seconds[i] = k ∧ (runningTotals 0 hist.bins)[i] = v := by
  rw [lookup_convertBuckets_iff hist hasc] at h
  rcases List.mem_iff_getElem.mp h with ⟨i, hi, hiv⟩
  rw [List.length_zip, Nat.lt_min] at hi
  rw [List.getElem_zip, Prod.mk.injEq] at hiv
  exact ⟨i, hi.1, hi.2, hiv⟩

include hasc hlen in
/-- The keys are the boundaries. -/
theorem mem_convertBuckets_iff (k : ℚ) : k ∈ (convertBuckets hist).1 ↔ k ∈ hist.seconds := by
  rw [← Finmap.lookup_isSome]
  constructor
  · intro h
    rcases Option.isSome_iff_exists.mp h with ⟨v, hv⟩
    rcases exists_of_lookup hist hasc k v hv with ⟨i, hi, _, hik, _⟩
    rw [← hik]
    exact List.getElem_mem hi
  · intro h
    rcases List.mem_iff_getElem.mp h with ⟨i, hi, rfl⟩
    rw [lookup_seconds hist hasc i hi (lt_trans hi (length_seconds_lt hist hlen))]
    rfl

include htotal in
/-- A running total is the sum of the bins up to it. -/
theorem toNat_total (i : Nat) (hi : i < (runningTotals 0 hist.bins).length) :
    (runningTotals 0 hist.bins)[i].toNat = binTotal (hist.bins.take (i + 1)) := by
  have hmap := (toNat_runningTotals 0 hist.bins (by simpa using htotal)).1
  have hi₁ : i < ((runningTotals 0 hist.bins).map UInt64.toNat).length := by
    rw [List.length_map]
    exact hi
  have hi₂ : i < (runningTotals 0 (hist.bins.map UInt64.toNat)).length := by
    rw [length_runningTotals, List.length_map, ← length_runningTotals 0]
    exact hi
  calc (runningTotals 0 hist.bins)[i].toNat
      = ((runningTotals 0 hist.bins).map UInt64.toNat)[i] := (List.getElem_map _).symm
    _ = (runningTotals 0 (hist.bins.map UInt64.toNat))[i] := List.getElem_of_eq hmap hi₁
    _ = 0 + ((hist.bins.map UInt64.toNat).take (i + 1)).sum := getElem_runningTotals _ _ i hi₂
    _ = binTotal (hist.bins.take (i + 1)) := by rw [Nat.zero_add, ← List.map_take, binTotal]

include htotal in
/-- The count is the sum of all bins. -/
theorem toNat_count : (convertBuckets hist).2.toNat = binTotal hist.bins := by
  rw [convertBuckets_eq, (toNat_runningTotals 0 hist.bins (by simpa using htotal)).2]
  exact Nat.zero_add _

include hasc hlen in
/-- Sorted by their keys, the values are the totals as the loop went through them. -/
theorem valuesInOrder_convertBuckets :
    valuesInOrder (convertBuckets hist).1 =
      (runningTotals 0 hist.bins).take hist.boundaries.length := by
  have hasc' := seconds_ascending hist hasc
  have hkeys : (convertBuckets hist).1.keys = hist.seconds.toFinset := by
    ext k
    rw [Finmap.mem_keys, mem_convertBuckets_iff hist hasc hlen, List.mem_toFinset]
  -- The boundaries are sorted already.
  have hsort : (convertBuckets hist).1.keys.sort = hist.seconds := by
    rw [hkeys]
    exact (List.toFinset_sort _ (hasc'.imp ne_of_lt)).mpr (hasc'.imp le_of_lt)
  have hlt := length_seconds_lt hist hlen
  have hcount : hist.seconds.length = hist.boundaries.length := List.length_map _
  rw [valuesInOrder, hsort]
  refine List.ext_getElem ?_ ?_
  · rw [List.length_map, List.length_take]
    omega
  · intro i hi hi'
    rw [List.length_map] at hi
    rw [List.getElem_map, lookup_seconds hist hasc i hi (lt_trans hi hlt), Option.getD_some,
      List.getElem_take]

include hasc hlen in
/-- The differences of the totals are the bins. -/
theorem recoverBins_convertBuckets : recoverBins (convertBuckets hist) = hist.bins := by
  have hcancel : ∀ a x : UInt64, a + x - a = x := fun a x => by
    rw [UInt64.add_comm, UInt64.add_sub_cancel]
  have hne : hist.bins ≠ [] := fun hc => by
    rw [hc] at hlen
    exact absurd hlen (by simp)
  -- Split off the bin above the last boundary.
  have hsplit := List.dropLast_concat_getLast hne
  have htotals := runningTotals_concat 0 (hist.bins.getLast hne) hist.bins.dropLast
  have hshort : (runningTotals 0 hist.bins.dropLast).length = hist.boundaries.length := by
    rw [length_runningTotals, List.length_dropLast, hlen, Nat.add_sub_cancel]
  have hvalues : valuesInOrder (convertBuckets hist).1 = runningTotals 0 hist.bins.dropLast := by
    rw [valuesInOrder_convertBuckets hist hasc hlen, ← hsplit, htotals, List.dropLast_concat,
      ← hshort, List.take_left]
  have hcount : (convertBuckets hist).2 =
      hist.bins.dropLast.foldl (· + ·) 0 + hist.bins.getLast hne := by
    rw [convertBuckets_eq]
    conv_lhs => rw [← hsplit]
    rw [List.foldl_concat]
  rw [recoverBins, hvalues, hcount, ← differences_concat, ← htotals,
    differences_runningTotals hcancel, hsplit]

end

/-- A histogram with one bin more than boundaries, the boundaries ascending, is
    exported under its boundaries in seconds with the total up to each of them,
    and the bins can be computed from what is exported. -/
theorem convertBuckets_lossless (hist : LatencyHist) (hasc : hist.boundaries.Pairwise (· < ·))
    (hlen : hist.bins.length = hist.boundaries.length + 1) (htotal : binTotal hist.bins < 2 ^ 64) :
    (∀ k, k ∈ (convertBuckets hist).1 ↔ ∃ b ∈ hist.boundaries, b / 10 ^ 9 = k) ∧
      (∀ (i : Nat) (hi : i < hist.boundaries.length), ∃ v,
        (convertBuckets hist).1.lookup (hist.boundaries[i] / 10 ^ 9) = some v ∧
          v.toNat = binTotal (hist.bins.take (i + 1))) ∧
      (∀ k k' v v', (convertBuckets hist).1.lookup k = some v →
        (convertBuckets hist).1.lookup k' = some v' → k ≤ k' → v ≤ v') ∧
      (∀ k v, (convertBuckets hist).1.lookup k = some v → v ≤ (convertBuckets hist).2) ∧
      (convertBuckets hist).2.toNat = binTotal hist.bins ∧
      recoverBins (convertBuckets hist) = hist.bins := by
  refine ⟨?_, ?_, ?_, ?_, toNat_count hist htotal, recoverBins_convertBuckets hist hasc hlen⟩
  · intro k
    rw [mem_convertBuckets_iff hist hasc hlen, LatencyHist.seconds, List.mem_map]
  · intro i hi
    have hs : i < hist.seconds.length := by
      rw [LatencyHist.seconds, List.length_map]
      exact hi
    have hr := lt_trans hs (length_seconds_lt hist hlen)
    refine ⟨(runningTotals 0 hist.bins)[i], ?_, toNat_total hist htotal i hr⟩
    have hkey : hist.seconds[i] = hist.boundaries[i] / 10 ^ 9 := List.getElem_map _
    rw [← hkey]
    exact lookup_seconds hist hasc i hs hr
  · intro k k' v v' hv hv' hle
    rcases exists_of_lookup hist hasc k v hv with ⟨i, hi, hti, hik, hiv⟩
    rcases exists_of_lookup hist hasc k' v' hv' with ⟨j, hj, htj, hjk, hjv⟩
    -- Keys in order have their places in order.
    have hij : i ≤ j := by
      by_contra hc
      have hlt := List.pairwise_iff_getElem.mp (seconds_ascending hist hasc) j i hj hi (by omega)
      rw [hik, hjk] at hlt
      exact absurd hle (not_le.mpr hlt)
    rw [UInt64.le_iff_toNat_le, ← hiv, ← hjv, toNat_total hist htotal i hti,
      toNat_total hist htotal j htj]
    exact binTotal_take_mono hist.bins (Nat.succ_le_succ hij)
  · intro k v hv
    rcases exists_of_lookup hist hasc k v hv with ⟨i, hi, hti, hik, hiv⟩
    rw [length_runningTotals] at hti
    -- All bins are at least those up to the boundary.
    have hall := binTotal_take_mono hist.bins (Nat.succ_le_of_lt hti)
    rw [List.take_length] at hall
    rw [UInt64.le_iff_toNat_le, toNat_count hist htotal, ← hiv, toNat_total hist htotal]
    exact hall

/-- Three boundaries, and a bin that is empty. -/
theorem convertBuckets_lossless_three :
    recoverBins (convertBuckets { boundaries := [10000, 50000, 100000], bins := [1, 2, 0, 4] }) =
      [1, 2, 0, 4] :=
  (convertBuckets_lossless { boundaries := [10000, 50000, 100000], bins := [1, 2, 0, 4] }
    (by decide) rfl (by decide)).2.2.2.2.2

end Qmp

end LatencyExporter
