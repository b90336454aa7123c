import LatencyExporter.Core.Strings
import Mathlib.Data.Rat.Defs

/-!
# Guest Disk Metrics

The raw counters a Windows guest reports for a disk, and the averages derived
from two readings of them. The counters are `uint64` values and their
differences wrap; what is derived from the differences is a `float64` in the
source and an exact rational here.

## Main definitions

* `DiskCounters`, `DiskMetrics`: The counters of a disk, and what is derived
  from them.
* `opMetrics`, `computeMetrics`: Deriving the metrics.
* `parseDiskIndex`: The drive number in the name of a disk.
-/

namespace LatencyExporter

namespace Qga

/-- `DiskCounters`. -/
structure DiskCounters where
  name : String
  rdQueueLen : UInt64
  wrQueueLen : UInt64
  rdOps : UInt64
  wrOps : UInt64
  timestamp100ns : UInt64
deriving DecidableEq

/-- `DiskMetrics`. -/
structure DiskMetrics where
  name : String
  rdLatSec : ℚ
  wrLatSec : ℚ
  rdIOPS : ℚ
  wrIOPS : ℚ
  elapsedSec : ℚ
deriving DecidableEq

/-- The latency and the rate of one kind of operation, from the differences of
    its operation and queue-length counters. Both are zero without operations. -/
def opMetrics (ops queueLen : UInt64) (elapsedSec : ℚ) : ℚ × ℚ :=
  if ops > 0 then (queueLen.toNat / ops.toNat / 10 ^ 7, ops.toNat / elapsedSec) else (0, 0)

/-- `ComputeMetrics`. -/
def computeMetrics (prev curr : DiskCounters) : DiskMetrics :=
  -- A clock that stands still or goes back.
  if curr.timestamp100ns ≤ prev.timestamp100ns then
    { name := curr.name, rdLatSec := 0, wrLatSec := 0, rdIOPS := 0, wrIOPS := 0, elapsedSec := 0 }
  else
    let elapsedSec : ℚ := (curr.timestamp100ns - prev.timestamp100ns).toNat / 10 ^ 7
    -- The differences wrap at 64 bits, whatever width the guest counts in.
    let rd := opMetrics (curr.rdOps - prev.rdOps) (curr.rdQueueLen - prev.rdQueueLen) elapsedSec
    let wr := opMetrics (curr.wrOps - prev.wrOps) (curr.wrQueueLen - prev.wrQueueLen) elapsedSec
    { name := curr.name, rdLatSec := rd.1, wrLatSec := wr.1, rdIOPS := rd.2, wrIOPS := wr.2,
      elapsedSec := elapsedSec }

/-- `ParseDiskIndex`: the number before the first space of `1 E:`. -/
def parseDiskIndex (name : String) : Option Int :=
  match splitN2 ' ' (trimSpace name.toList) with
  | [] => none
  | part :: _ => atoi part

example : parseDiskIndex "1 E:" = some 1 := by decide

end Qga

end LatencyExporter
