import LatencyExporter.Core.Qmp.Domain

/-!
# Drives and Volumes

Which volume a drive of the guest is, `pkg/qga/diskmap.go`. The guest numbers
its drives and says where each one is; the domain says which volume is there.
Drives that are found in no place of the domain are looked up by their serial
number.

## Main definitions

* `GuestDisk`: A drive as the guest reports it.
* `locationLoop`, `serialLoop`: The two loops over the drives.
* `buildDiskMapping`: The volumes of the drives.
-/

namespace LatencyExporter

namespace Qga

/-- `GuestDisk`. The name is used by nothing and left out. -/
structure GuestDisk where
  driveIndex : Int
  serial : String
  location : Qmp.DiskLocation
deriving DecidableEq

/-- The loop that goes by location. -/
def locationLoop (hostMap : Qmp.DiskLocation → Option String) (guestDisks : List GuestDisk)
    (result : Int → Option String) : Int → Option String :=
  guestDisks.foldl
    (fun result gd => match hostMap gd.location with
      | some volName => Function.update result gd.driveIndex (some volName)
      | none => result)
    result

/-- The loop that goes by serial number, for drives that have no volume yet. -/
def serialLoop (serialMap : String → Option String) (guestDisks : List GuestDisk)
    (result : Int → Option String) : Int → Option String :=
  guestDisks.foldl
    (fun result gd =>
      if (result gd.driveIndex).isSome then result
      else if gd.serial = "" then result
      else match serialMap gd.serial with
        | some volName => Function.update result gd.driveIndex (some volName)
        | none => result)
    result

/-- `BuildDiskMapping`. -/
def buildDiskMapping (domainXML : Except String Qmp.XmlDomain) (guestDisks : List GuestDisk) :
    Except String (Int → Option String) :=
  match Qmp.parseDiskLocations domainXML with
  | .error err => .error err
  | .ok hostMap =>
      let result := locationLoop hostMap guestDisks fun _ => none
      match Qmp.parseDiskSerials domainXML with
      | .error _ => .ok result
      -- A map without serial numbers is not gone through; it would change nothing.
      | .ok serialMap => .ok (serialLoop serialMap guestDisks result)

end Qga

end LatencyExporter
