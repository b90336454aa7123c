import LatencyExporter.Core.Bpf.Common
import Mathlib.Algebra.Order.Field.Rat
import Mathlib.Algebra.QuadraticAlgebra.Defs

/-!
# From Slots to a Prometheus Histogram

`pkg/ebpf/histogram.go`, the user-space half of a latency histogram. It reads
the slot array of one key and produces what `NewConstHistogram` takes: the
number of samples, an estimate of their sum, and a cumulative count for each
configured boundary.

Boundaries, ceilings and sums are exact. The only irrational constant is
`math.Sqrt2`, so a sum is a rational plus a rational multiple of the square
root of two. Counters are the `uint64` values of the source and wrap as they
do.

## Main definitions

* `Sqrt2Rat`: Rationals with the square root of two adjoined.
* `slotCeiling`: The value the source takes for the top of a slot.
* `midpointUS`: The representative value of a slot in microseconds.
* `Totals`: The variables of the first loop.
* `lastSlot`: The slot the second loop settles on for a boundary.
* `ConstHistogram`: The three results.
* `slotsToConstHistogram`: The conversion.
* `bucketAt`: Reading the resulting map.
-/

namespace LatencyExporter

namespace Ebpf

open Bpf

/-- Numbers of the form `p + q * sqrt 2` with rational `p` and `q`. -/
abbrev Sqrt2Rat := QuadraticAlgebra ℚ 2 0

/-- `slotCeiling`, in seconds. -/
def slotCeiling (i : Fin maxSlots) : ℚ := (2 ^ i.val : ℚ) / 1000000

/-- `midpointUS`: half a microsecond for slot zero, and otherwise a power of
    two times `math.Sqrt2`. -/
def midpointUS (i : Fin maxSlots) : Sqrt2Rat :=
  if i.val = 0 then ⟨1 / 2, 0⟩ else ⟨0, 2 ^ (i.val - 1)⟩

/-- The variables the first loop updates. -/
structure Totals where
  cumulative : UInt64
  count : UInt64
  runningTotal : Fin maxSlots → UInt64
  sum : Sqrt2Rat

/-- All four variables start at zero. -/
def Totals.zero : Totals :=
  { cumulative := 0, count := 0, runningTotal := fun _ => 0, sum := 0 }

/-- One iteration of the first loop. -/
def totalsStep (slots : Fin maxSlots → UInt64) (t : Totals) (i : Fin maxSlots) : Totals :=
  let cumulative := t.cumulative + slots i
  -- The slot itself is included in its running total.
  { cumulative := cumulative,
    count := t.count + slots i,
    runningTotal := Function.update t.runningTotal i cumulative,
    sum := t.sum + ((slots i).toNat : ℚ) • ((1 / 1000000 : ℚ) • midpointUS i) }

/-- The first loop. -/
def totals (slots : Fin maxSlots → UInt64) : Totals :=
  (List.finRange maxSlots).foldl (totalsStep slots) Totals.zero

/-- The inner loop of the second loop: the last slot whose ceiling does not
    exceed the boundary. `none` is the source's `-1`. -/
def lastSlot (b : ℚ) : Option (Fin maxSlots) :=
  (List.finRange maxSlots).foldl (fun slot i => if slotCeiling i ≤ b then some i else slot) none

/-- What `SlotsToConstHistogram` returns. -/
structure ConstHistogram where
  count : UInt64
  sum : Sqrt2Rat
  buckets : Finmap (fun _ : ℚ => UInt64)

/-- The value the second loop stores for a boundary. -/
def bucketValue (t : Totals) (b : ℚ) : UInt64 :=
  match lastSlot b with
  | some slot => t.runningTotal slot
  | none => 0

/-- `SlotsToConstHistogram`. -/
def slotsToConstHistogram (slots : Fin maxSlots → UInt64) (promBuckets : List ℚ) :
    ConstHistogram :=
  let t := totals slots
  { count := t.count,
    sum := t.sum,
    buckets := promBuckets.foldl (fun m b => m.insert b (bucketValue t b)) ∅ }

/-- `buckets[b]`; reading an absent key of a Go map gives zero. -/
def bucketAt (h : ConstHistogram) (b : ℚ) : UInt64 := (h.buckets.lookup b).getD 0

end Ebpf

end LatencyExporter
