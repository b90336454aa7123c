import LatencyExporter.Core.Strings
import Mathlib.Logic.Function.Basic

/-!
# Disks in the Domain XML

Where the disks of a virtual machine are, according to libvirt. A disk with an
address of type `pci` is a device of its own; one with an address of type
`drive` is a unit of a controller, whose address has to be looked up. Only disks
whose alias begins with `ua-` belong to a volume, and the rest of the alias is
the name of the volume.

The attributes are texts. The components of a PCI address are hexadecimal, and
an address with one that is not is left out. The numbers of a drive are decimal,
and one that is not counts as zero.

Reading the XML is the business of `encoding/xml`, so the functions take what it
returns: a domain, or the text of an error. A Go map is a function that is
updated here, and nothing depends on anything else about it.

## Main definitions

* `PCIAddr`, `DiskLocation`: Where a disk is.
* `XmlAddr`, `XmlController`, `XmlDisk`, `XmlDomain`: What is used of the XML.
* `parseHexAddr`: A PCI address.
* `volumeName`: The volume of a disk.
* `controllerKey`, `controllerPCI`: The controllers.
* `diskLocation`, `parseDiskLocations`: The disks by location.
* `parseDiskSerials`: The disks by serial number.
-/

namespace LatencyExporter

namespace Qmp

/-- `PCIAddr`. -/
structure PCIAddr where
  domain : Int
  bus : Int
  slot : Int
  function : Int
deriving DecidableEq

/-- `DiskLocation`. -/
structure DiskLocation where
  controller : PCIAddr
  bus : Int
  target : Int
  unit : Int
deriving DecidableEq

/-- `xmlAddr`. An absent attribute is the empty text. -/
structure XmlAddr where
  type : String := ""
  domain : String := ""
  bus : String := ""
  slot : String := ""
  function : String := ""
  controller : String := ""
  target : String := ""
  unit : String := ""
deriving DecidableEq

/-- `xmlController`. -/
structure XmlController where
  type : String
  index : String
  address : XmlAddr
deriving DecidableEq

/-- `xmlDisk`, with the attributes of `xmlTarget` and `xmlAlias`. -/
structure XmlDisk where
  device : String
  serial : String
  targetBus : String
  aliasName : String
  address : XmlAddr
deriving DecidableEq

/-- `xmlDomain`. -/
structure XmlDomain where
  disks : List XmlDisk
  controllers : List XmlController

/-- One component of a PCI address. -/
def hexComponent (s : String) : Option Int := parseInt hexadecimal 32 (trimPrefix s "0x").toList

/-- `parseHexAddr`. -/
def parseHexAddr (a : XmlAddr) : Option PCIAddr := do
  let domain ← hexComponent a.domain
  let bus ← hexComponent a.bus
  let slot ← hexComponent a.slot
  let function ← hexComponent a.function
  some { domain := domain, bus := bus, slot := slot, function := function }

/-- The tests on the device and the alias of a disk that both loops over the
    disks make. -/
def volumeName (d : XmlDisk) : Option String :=
  if d.device ≠ "disk" then none
  else
    -- An alias without the prefix, or with nothing after it, names no volume.
    let volName := trimPrefix d.aliasName "ua-"
    if volName = d.aliasName ∨ volName = "" then none else some volName

/-- The key of a controller: `sata:0`, `scsi:0` and so on. -/
def controllerKey (type index : String) : String := type ++ ":" ++ index

/-- `controllerPCI`. -/
def controllerPCI (controllers : List XmlController) : String → Option PCIAddr :=
  controllers.foldl
    (fun m ctrl =>
      if ctrl.address.type ≠ "pci" then m
      else match parseHexAddr ctrl.address with
        | none => m
        | some addr => Function.update m (controllerKey ctrl.type ctrl.index) (some addr))
    fun _ => none

/-- The `switch` of `ParseDiskLocations`. -/
def diskLocation (controllerPCI : String → Option PCIAddr) (d : XmlDisk) : Option DiskLocation :=
  if d.address.type = "pci" then
    (parseHexAddr d.address).map fun addr =>
      { controller := addr, bus := 0, target := 0, unit := 0 }
  else if d.address.type = "drive" then
    -- A missing index is that of the first controller.
    let ctrlIdx := if d.address.controller = "" then "0" else d.address.controller
    if d.targetBus = "" then none
    else (controllerPCI (controllerKey d.targetBus ctrlIdx)).map fun ctrlPCI =>
      -- A number that does not parse is taken for zero.
      { controller := ctrlPCI, bus := atoiValue d.address.bus.toList,
        target := atoiValue d.address.target.toList, unit := atoiValue d.address.unit.toList }
  else none

/-- `ParseDiskLocations`. -/
def parseDiskLocations (domainXML : Except String XmlDomain) :
    Except String (DiskLocation → Option String) :=
  match domainXML with
  | .error err => .error ("parsing domain XML: " ++ err)
  | .ok dom =>
      let ctrls := controllerPCI dom.controllers
      .ok <| dom.disks.foldl
        (fun m d => match volumeName d with
          | none => m
          | some volName => match diskLocation ctrls d with
              | none => m
              | some location => Function.update m location (some volName))
        fun _ => none

/-- `ParseDiskSerials`. -/
def parseDiskSerials (domainXML : Except String XmlDomain) :
    Except String (String → Option String) :=
  match domainXML with
  | .error err => .error ("parsing domain XML: " ++ err)
  | .ok dom =>
      .ok <| dom.disks.foldl
        (fun m d =>
          if d.serial = "" then m
          else match volumeName d with
            | none => m
            | some volName => Function.update m d.serial (some volName))
        fun _ => none

end Qmp

end LatencyExporter
