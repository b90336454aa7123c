import LatencyExporter.Core.Device.Resolver
import LatencyExporter.Lib.Regex

/-!
# The Kubelet Patterns

The two regular expressions of `resolver.go`, and the mount points they match.
`Resolver` has the same functions by components of the path; here they are as
the source writes them, by the leftmost-first match of a pattern and its
submatches.

A dot does not match a line feed, a class that excludes the slash does, and a
dollar matches at the end of the text only.

## Main definitions

* `dot`, `notSlash`: The classes `.` and `[^/]`.
* `podUIDRe`: The part of both patterns for the UID of a pod.
* `kubeletVolumeRe`, `kubeletBlockDeviceRe`: The patterns.
* `kubeletVolumeSubmatch`, `kubeletBlockDeviceSubmatch`: The UID and the volume
  of a mount point.
-/

namespace LatencyExporter

namespace Device

open Regex Pattern

/-- `.`. -/
def dot (c : Char) : Bool := c ≠ '\n'

/-- `[^/]`. -/
def notSlash (c : Char) : Bool := c ≠ '/'

/-- `[0-9a-f]{8}-[0-9a-f]{4}-[0-9a-f]{4}-[0-9a-f]{4}-[0-9a-f]{12}`. -/
def podUIDRe : Pattern Char :=
  concat
    [rep 8 isHexDigit, lit ['-'], rep 4 isHexDigit, lit ['-'], rep 4 isHexDigit, lit ['-'],
      rep 4 isHexDigit, lit ['-'], rep 12 isHexDigit]

/-- `kubeletVolumeRe`: `.*/pods/(UID)/volumes/[^/]+/([^/]+)(?:/mount)?$`. -/
def kubeletVolumeRe : Pattern Char :=
  concat
    [many dot, lit "/pods/".toList, group 1 podUIDRe, lit "/volumes/".toList, plus notSlash,
      lit ['/'], group 2 (plus notSlash), opt (lit "/mount".toList), endText]

/-- `kubeletBlockDeviceRe`: `.*/volumeDevices/publish/([^/]+)/(UID)$`. -/
def kubeletBlockDeviceRe : Pattern Char :=
  concat
    [many dot, lit "/volumeDevices/publish/".toList, group 1 (plus notSlash), lit ['/'],
      group 2 podUIDRe, endText]

/-- `parseKubeletVolumePath`, by its pattern. -/
def kubeletVolumeSubmatch (mountPoint : String) : Option (String × String) :=
  (find kubeletVolumeRe mountPoint.toList).map fun found =>
    (String.ofList (found.submatch 1), String.ofList (found.submatch 2))

/-- `parseKubeletBlockDevicePath`, by its pattern. Here the UID comes last. -/
def kubeletBlockDeviceSubmatch (mountPoint : String) : Option (String × String) :=
  (find kubeletBlockDeviceRe mountPoint.toList).map fun found =>
    (String.ofList (found.submatch 2), String.ofList (found.submatch 1))

example : kubeletVolumeSubmatch
      "/k/pods/12345678-1234-1234-1234-123456789abc/volumes/kubernetes.io~csi/pvc-1/mount"
    = some ("12345678-1234-1234-1234-123456789abc", "pvc-1") := by
  decide +kernel

end Device

end LatencyExporter
