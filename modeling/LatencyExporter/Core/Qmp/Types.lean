import LatencyExporter.Core.Strings
import Mathlib.Data.Rat.Defs

/-!
# QMP Replies

What QEMU answers to the monitor commands of the exporter, and how a disk is
recognised in the answers. A disk of a virtual machine has a user alias, which
appears as `ua-<alias>` in the device identifiers: directly, or as a part of
the path of a virtio device.

The patterns are those of Go's `regexp`: a dot does not match a line feed, a
dollar matches at the end of the text only, and a lazy repetition takes as
little as the rest of the pattern allows.

## Main definitions

* `LatencyHist`, `BlockStats`, `BlockDevice`: An element of the reply to
  `query-blockstats`.
* `BlockDevice.effectiveQDev`: The device identifier, looked for along the
  backing chain.
* `virtioRegex`, `flatRegex`, `peripheralNameRegex`: The three patterns.
* `extractDiskInfo`, `extractControllerName`: Recognising a disk and a
  controller.
* `hasHistograms`: Whether latency histograms are enabled for a device.
* `VirtioDevice`, `VirtioStatus`, `VirtQueueStatus`: The replies to the virtio
  commands.
-/

namespace LatencyExporter

namespace Qmp

/-- `LatencyHist`. -/
structure LatencyHist where
  boundaries : List ℚ
  bins : List UInt64
deriving DecidableEq

/-- `BlockStats`. The operation counters are read by nothing and left out. -/
structure BlockStats where
  rdTotalTimeNs : UInt64
  wrTotalTimeNs : UInt64
  flushTotalTimeNs : UInt64
  rdLatencyHistogram : Option LatencyHist
  wrLatencyHistogram : Option LatencyHist
  flushLatencyHistogram : Option LatencyHist
deriving DecidableEq

/-- `BlockDevice`. -/
inductive BlockDevice where
  | mk (qdev : String) (stats : BlockStats) (backing : Option BlockDevice)

/-- The field `Stats`. -/
def BlockDevice.stats : BlockDevice → BlockStats
  | .mk _ stats _ => stats

/-- `EffectiveQDev`. -/
def BlockDevice.effectiveQDev : BlockDevice → String
  | .mk qdev _ (some backing) => if qdev ≠ "" then qdev else backing.effectiveQDev
  | .mk qdev _ none => if qdev ≠ "" then qdev else ""

/-- `^/machine/peripheral/(ua-(.+?)/.+)$`, with the second and the first
    group. The alias is at least one character long and ends before the first
    slash after that one character, since a later slash is tried only when
    nothing follows this one, and then there is none. -/
def virtioRegex (qdev : String) : Option (String × String) :=
  match qdev.toList.dropPrefix? "/machine/peripheral/ua-".toList with
  | some (c :: rest) =>
      if '\n' ∈ c :: rest then none
      else match rest.span (· ≠ '/') with
        | (disk, '/' :: tail@(_ :: _)) =>
            some (String.ofList (c :: disk),
              String.ofList ("ua-".toList ++ c :: disk ++ '/' :: tail))
        | _ => none
  | _ => none

/-- `^ua-(.+)$`, with its group. -/
def flatRegex (qdev : String) : Option String :=
  match qdev.toList.dropPrefix? "ua-".toList with
  | some (c :: rest) => if '\n' ∈ c :: rest then none else some (String.ofList (c :: rest))
  | _ => none

/-- `^/machine/peripheral/([^/]+)/`, with its group. -/
def peripheralNameRegex (path : String) : Option String :=
  match path.toList.dropPrefix? "/machine/peripheral/".toList with
  | none => none
  | some rest => match rest.span (· ≠ '/') with
      | (name@(_ :: _), '/' :: _) => some (String.ofList name)
      | _ => none

/-- `ExtractDiskInfo`: the alias and the identifier to address the device by. -/
def extractDiskInfo (qdev : String) : Option (String × String) :=
  match virtioRegex qdev with
  | some m => some m
  | none => match flatRegex qdev with
      | some disk => some (disk, qdev)
      | none => none

/-- `HasHistograms`. -/
def hasHistograms (dev : BlockDevice) : Bool := dev.stats.rdLatencyHistogram.isSome

/-- `VirtioDevice`. -/
structure VirtioDevice where
  path : String
  name : String
deriving DecidableEq

/-- `VirtioStatus`. -/
structure VirtioStatus where
  numVqs : Int

/-- `VirtQueueStatus`. -/
structure VirtQueueStatus where
  inuse : UInt32
  vringNum : UInt32

/-- `IsVirtioBlk`. -/
def isVirtioBlk (dev : VirtioDevice) : Bool := hasPrefix dev.name "virtio-blk"

/-- `IsVirtioScsi`. -/
def isVirtioScsi (dev : VirtioDevice) : Bool := hasPrefix dev.name "virtio-scsi"

/-- `ExtractControllerName`. -/
def extractControllerName (path : String) : Option String :=
  (peripheralNameRegex path).map (trimPrefix · "ua-")

example : extractDiskInfo "/machine/peripheral/ua-rootdisk/virtio-backend"
    = some ("rootdisk", "ua-rootdisk/virtio-backend") := by decide

example : extractDiskInfo "/machine/peripheral/ua-rootdisk/" = none := by decide

end Qmp

end LatencyExporter
