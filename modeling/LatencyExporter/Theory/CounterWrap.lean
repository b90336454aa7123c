import LatencyExporter.Theory.Conservation

/-!
# Operation Counters That Wrap

The operation counters of a Windows guest are 32 bits wide. The exporter keeps
them in 64 bits and subtracts them there. As long as a counter grows, the two
subtractions agree. When it wraps between two scrapes, or is reset, the 64-bit
difference is far too large: it is off by `2 ^ 64 - 2 ^ 32`, and the rate and
the latency with it. `wrapHandled_iff` says that the interval is measured
correctly in the first case and in no other.

## Main definitions

* `grown`: The growth of a counter of 32 bits.
* `KindWraps`: One kind of operation is measured by the growth of its counter.
* `WrapHandled`: Reads and writes are.

## Theorems

* `opMetrics_grown_iff`: One kind of operation.
* `wrapHandled_iff`: When an interval is measured correctly.
-/

namespace LatencyExporter

namespace Qga

/-- How far a counter of 32 bits has moved. -/
def grown (prev curr : UInt64) : Int := ((curr.toNat : Int) - prev.toNat) % 2 ^ 32

/-- The rate and the latency are those of as many operations as the counter has
    grown by. Without operations the quotient is zero, as the latency is. -/
def KindWraps (lat iops elapsedSec : ℚ) (prevOps currOps prevQueue currQueue : UInt64) : Prop :=
  iops * elapsedSec = (grown prevOps currOps : ℚ) ∧
  iops * elapsedSec < 2 ^ 32 ∧
  lat = ((currQueue - prevQueue).toNat : ℚ) / (grown prevOps currOps : ℚ) / 10 ^ 7

/-- Both kinds of operation of an interval are measured so. -/
def WrapHandled (prev curr : DiskCounters) : Prop :=
  let m := computeMetrics prev curr
  KindWraps m.rdLatSec m.rdIOPS m.elapsedSec prev.rdOps curr.rdOps prev.rdQueueLen
    curr.rdQueueLen ∧
  KindWraps m.wrLatSec m.wrIOPS m.elapsedSec prev.wrOps curr.wrOps prev.wrQueueLen
    curr.wrQueueLen

theorem grown_of_le (prev curr : UInt64) (hle : prev ≤ curr) (hcurr : curr.toNat < 2 ^ 32) :
    grown prev curr = ((curr - prev).toNat : Int) := by
  have hnat := UInt64.le_iff_toNat_le.mp hle
  rw [UInt64.toNat_sub_of_le _ _ hle, grown]
  omega

/-- A difference that is taken the wrong way round does not fit into 32 bits. -/
theorem le_toNat_sub_of_lt (prev curr : UInt64) (hlt : curr < prev) (hprev : prev.toNat < 2 ^ 32) :
    2 ^ 32 ≤ (curr - prev).toNat := by
  have hnat := UInt64.lt_iff_toNat_lt.mp hlt
  rw [UInt64.toNat_sub]
  omega

theorem opMetrics_fst (ops queueLen : UInt64) (elapsedSec : ℚ) :
    (opMetrics ops queueLen elapsedSec).1 = (queueLen.toNat : ℚ) / ops.toNat / 10 ^ 7 := by
  unfold opMetrics
  split
  · rfl
  · next hops =>
      -- Without operations the source returns zero, as the quotient by zero is here.
      have hzero : ops = 0 := UInt64.le_zero_iff.mp (UInt64.not_lt.mp hops)
      rw [hzero, UInt64.toNat_zero, Nat.cast_zero, div_zero, zero_div]

theorem opMetrics_grown_iff (prevOps currOps prevQueue currQueue : UInt64) (elapsedSec : ℚ)
    (hpos : 0 < elapsedSec) (hprev : prevOps.toNat < 2 ^ 32) (hcurr : currOps.toNat < 2 ^ 32) :
    KindWraps (opMetrics (currOps - prevOps) (currQueue - prevQueue) elapsedSec).1
      (opMetrics (currOps - prevOps) (currQueue - prevQueue) elapsedSec).2 elapsedSec
      prevOps currOps prevQueue currQueue ↔ prevOps ≤ currOps := by
  unfold KindWraps
  rw [opMetrics_ops _ _ elapsedSec hpos, opMetrics_fst]
  constructor
  · rintro ⟨_, hlt, _⟩
    have hfits : (currOps - prevOps).toNat < 2 ^ 32 := by exact_mod_cast hlt
    -- After a wrap the difference in 64 bits exceeds any counter of 32.
    refine UInt64.not_lt.mp fun hwrapped => ?_
    exact absurd hfits (Nat.not_lt.mpr (le_toNat_sub_of_lt prevOps currOps hwrapped hprev))
  · intro hle
    have hfits : (currOps - prevOps).toNat < 2 ^ 32 := by
      rw [UInt64.toNat_sub_of_le _ _ hle]
      omega
    rw [grown_of_le prevOps currOps hle hcurr, Int.cast_natCast]
    exact ⟨rfl, by exact_mod_cast hfits, rfl⟩

/-- Of counters of 32 bits, an interval is measured by the growth of the
    counters exactly if none of them wrapped or was reset. -/
theorem wrapHandled_iff (prev curr : DiskCounters)
    (htime : prev.timestamp100ns < curr.timestamp100ns)
    (hrd : prev.rdOps.toNat < 2 ^ 32 ∧ curr.rdOps.toNat < 2 ^ 32)
    (hwr : prev.wrOps.toNat < 2 ^ 32 ∧ curr.wrOps.toNat < 2 ^ 32) :
    WrapHandled prev curr ↔ prev.rdOps ≤ curr.rdOps ∧ prev.wrOps ≤ curr.wrOps := by
  -- Time has passed, so that the source does measure.
  have hpos : (0 : ℚ) < ((curr.timestamp100ns - prev.timestamp100ns).toNat : ℚ) / 10 ^ 7 := by
    have hnat := UInt64.lt_iff_toNat_lt.mp htime
    have hdiff := UInt64.toNat_sub_of_le _ _ (UInt64.le_of_lt htime)
    have hcast : (0 : ℚ) < ((curr.timestamp100ns - prev.timestamp100ns).toNat : ℚ) := by
      rw [Nat.cast_pos]
      omega
    exact div_pos hcast (by norm_num)
  rw [WrapHandled, computeMetrics, if_neg (UInt64.not_le.mpr htime)]
  exact and_congr (opMetrics_grown_iff _ _ _ _ _ hpos hrd.1 hrd.2)
    (opMetrics_grown_iff _ _ _ _ _ hpos hwr.1 hwr.2)

/-- Counters after as many reads and writes. -/
def countersAt (rdOps wrOps timestamp100ns : UInt64) : DiskCounters where
  name := "0 C:"
  rdQueueLen := 0
  wrQueueLen := 0
  rdOps := rdOps
  wrOps := wrOps
  timestamp100ns := timestamp100ns

/-- The counters with queue times. -/
def queuedAt (rdOps wrOps rdQueueLen wrQueueLen timestamp100ns : UInt64) : DiskCounters :=
  { countersAt rdOps wrOps timestamp100ns with rdQueueLen := rdQueueLen, wrQueueLen := wrQueueLen }

/-- Two reads that waited for 60 ticks together and two writes that waited for
    50. -/
theorem growing_counters_handled :
    WrapHandled (queuedAt 5 0 100 40 1) (queuedAt 7 2 160 90 2) ∧
    (computeMetrics (queuedAt 5 0 100 40 1) (queuedAt 7 2 160 90 2)).rdLatSec = 60 / 2 / 10 ^ 7 ∧
    (computeMetrics (queuedAt 5 0 100 40 1) (queuedAt 7 2 160 90 2)).wrLatSec
      = 50 / 2 / 10 ^ 7 := by
  have hhandled := (wrapHandled_iff (queuedAt 5 0 100 40 1) (queuedAt 7 2 160 90 2) (by decide)
    (by decide) (by decide)).mpr (by decide)
  exact ⟨hhandled, hhandled.1.2.2.trans (by decide +kernel),
    hhandled.2.2.2.trans (by decide +kernel)⟩

/-- A read counter two operations before it is at one. -/
def beforeWrap : DiskCounters := countersAt 4294967295 0 1

/-- The same counter after it wrapped. -/
def afterWrap : DiskCounters := countersAt 1 0 2

/-- Two reads across the wrap are taken for almost `2 ^ 64`. -/
theorem wrapping_counter_misread : ¬ WrapHandled beforeWrap afterWrap := by
  intro h
  have hfits : (computeMetrics beforeWrap afterWrap).rdIOPS
      * (computeMetrics beforeWrap afterWrap).elapsedSec < 2 ^ 32 := h.1.2.1
  exact absurd hfits (by decide +kernel)

end Qga

end LatencyExporter
