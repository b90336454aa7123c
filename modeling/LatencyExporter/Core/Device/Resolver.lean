import LatencyExporter.Core.Device.Mounts

/-!
# The Device Resolver

Which pod and which claim a device number belongs to. A scan goes through the
mounts of the host, recognises those the kubelet makes for volumes of pods, and
rebuilds the table of device numbers. The mount point of a volume names the pod
by its UID and the volume; a volume in block mode is a bind mount of a device
node, and its number is that of the node.

The kubelet patterns are matched from the end of the path, component by
component. What precedes the components they name is arbitrary, and no path
matches in two ways: the component `volumes` is not a UID.

## Main definitions

* `DeviceInfo`, `Resolver`: The table and what it says about a device.
* `Pod`, `Pvc`, `StatT`, `Host`: What a scan reads.
* `mkDev`, `devToString`, `statBlockDevice`: Device numbers.
* `isPodUID`, `parseKubeletVolumePath`, `parseKubeletBlockDevicePath`: The
  kubelet's mount points.
* `podMetaMap`, `pvcByPVIndexFunc`, `resolvePVCName`: Looking up pods and claims.
* `resolveMount`, `scan`: A scan.
-/

namespace LatencyExporter

namespace Device

/-- `DeviceInfo`. -/
structure DeviceInfo where
  pvcName : String
  podName : String
  ns : String
  nodeName : String
  mountPath : String
  devPath : String
  isNFS : Bool
deriving DecidableEq

/-- What is used of a `corev1.Pod`. -/
structure Pod where
  uid : String
  name : String
  ns : String

/-- What is used of a `corev1.PersistentVolumeClaim`. -/
structure Pvc where
  name : String
  ns : String
  volumeName : String

/-- What is used of a `syscall.Stat_t`. -/
structure StatT where
  mode : UInt32
  rdev : UInt64

/-- The host and the caches at the time of a scan. The stores may be absent,
    a file may be missing, and a lookup in the index of claims may fail. -/
structure Host where
  readFile : String → Option (List Char)
  stat : String → Option StatT
  podStore : Option (List Pod)
  pvcByPV : Option (String → Option (List Pvc))

/-- The fields of `Resolver` that a scan and a lookup use. -/
structure Resolver where
  devices : UInt32 → Option DeviceInfo
  nodeName : String
  procPath : String

/-- `Lookup`. -/
def Resolver.lookup (r : Resolver) (dev : UInt32) : Option DeviceInfo := r.devices dev

/-- `MkDev`. -/
def mkDev (major minor : UInt32) : UInt32 := (major <<< 20) ||| minor

/-- `DevToString`. -/
def devToString (dev : UInt32) : String :=
  let major := dev >>> 20
  let minor := dev &&& (((1 : UInt32) <<< (20 : UInt32)) - 1)
  major.toNat.repr ++ ":" ++ minor.toNat.repr

/-- `syscall.S_IFBLK`. -/
def sIFBLK : UInt32 := 0x6000

/-- `statBlockDevice`. -/
def statBlockDevice (host : Host) (path : String) : Option UInt32 :=
  match host.stat path with
  | none => none
  | some stat =>
      -- One common bit is enough, as character devices and directories have it.
      if stat.mode &&& sIFBLK = 0 then none
      else
        let major := (stat.rdev >>> (8 : UInt64)) &&& (0xfff : UInt64)
        let minor :=
          (stat.rdev &&& (0xff : UInt64)) ||| ((stat.rdev >>> (12 : UInt64)) &&& (0xfff00 : UInt64))
        some (mkDev major.toUInt32 minor.toUInt32)

/-- A lower-case hexadecimal digit. -/
def isHexDigit (c : Char) : Bool := c.isDigit || ('a' ≤ c && c ≤ 'f')

/-- `[0-9a-f]{8}-[0-9a-f]{4}-[0-9a-f]{4}-[0-9a-f]{4}-[0-9a-f]{12}`. -/
def isPodUID (s : List Char) : Bool :=
  let groups := s.splitOn '-'
  groups.map List.length = [8, 4, 4, 4, 12] && groups.all (·.all isHexDigit)

/-- `parseKubeletVolumePath`, for
    `.*/pods/(UID)/volumes/[^/]+/([^/]+)(?:/mount)?$`: the UID and the volume. -/
def parseKubeletVolumePath (mountPoint : String) : Option (String × String) :=
  let volume : List (List Char) → Option (String × String)
    | name :: plugin :: volumes :: uid :: pods :: _ :: _ =>
        if name ≠ [] ∧ plugin ≠ [] ∧ volumes = "volumes".toList ∧ isPodUID uid ∧
            pods = "pods".toList then
          some (String.ofList uid, String.ofList name)
        else none
    | _ => none
  let components := (mountPoint.toList.splitOn '/').reverse
  -- The volume itself may be named `mount`.
  match volume components with
  | some found => some found
  | none =>
      if components.head? = some "mount".toList then volume components.tail else none

/-- `parseKubeletBlockDevicePath`, for
    `.*/volumeDevices/publish/([^/]+)/(UID)$`: the UID and the volume. -/
def parseKubeletBlockDevicePath (mountPoint : String) : Option (String × String) :=
  match (mountPoint.toList.splitOn '/').reverse with
  | uid :: name :: publish :: volumeDevices :: _ :: _ =>
      if name ≠ [] ∧ isPodUID uid ∧ publish = "publish".toList ∧
          volumeDevices = "volumeDevices".toList then
        some (String.ofList uid, String.ofList name)
      else none
  | _ => none

/-- `podMetaMap`: pods by UID, later ones overwriting earlier ones. -/
def podMetaMap (host : Host) : String → Option Pod :=
  (host.podStore.getD []).foldl (fun m pod => Function.update m pod.uid (some pod)) fun _ => none

/-- `PVCByPVIndexFunc`: the keys of a claim in the index. -/
def pvcByPVIndexFunc (pvc : Pvc) : List String :=
  if pvc.volumeName = "" then [] else [pvc.volumeName]

/-- `resolvePVCName`. -/
def resolvePVCName (host : Host) (pvName : String) : String :=
  match host.pvcByPV with
  | none => pvName
  | some byIndex => match byIndex pvName with
      -- Of several claims of one volume the first is taken.
      | some (pvc :: _) => pvc.name
      | _ => pvName

/-- One round of the loop of `scan`: the device number of a mount and its entry
    in the table. -/
def resolveMount (r : Resolver) (host : Host) (podMetas : String → Option Pod) (m : MountEntry) :
    Option (UInt32 × DeviceInfo) :=
  let info (podUID pvName : String) (dev : UInt32) : Option (UInt32 × DeviceInfo) :=
    (podMetas podUID).map fun pod =>
      (dev,
        { pvcName := resolvePVCName host pvName, podName := pod.name, ns := pod.ns,
          nodeName := r.nodeName, mountPath := m.mountPoint, devPath := m.source,
          isNFS := m.fsType = "nfs" || m.fsType = "nfs4" })
  -- A raw block volume has the number of its device node, any other that of its file system.
  match parseKubeletBlockDevicePath m.mountPoint with
  | some (podUID, pvName) =>
      match statBlockDevice host (r.procPath ++ "/1/root" ++ m.mountPoint) with
      | none => none
      | some dev => info podUID pvName dev
  | none => match parseKubeletVolumePath m.mountPoint with
      | some (podUID, pvName) => info podUID pvName (mkDev m.major m.minor)
      | none => none

/-- `scan`. -/
def scan (r : Resolver) (host : Host) : Resolver :=
  match parseMountInfo (host.readFile (r.procPath ++ "/1/mountinfo")) with
  -- The table of the last good scan stays in use.
  | .error _ => r
  | .ok mounts =>
      let podMetas := podMetaMap host
      { r with
        devices := (mounts.filterMap (resolveMount r host podMetas)).foldl
          (fun devices (dev, info) => Function.update devices dev (some info)) fun _ => none }

end Device

end LatencyExporter
