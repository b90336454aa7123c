import LatencyExporter.Theory.MountOrder
import LatencyExporter.Theory.DeviceNumbers
import LatencyExporter.Theory.KubeletPaths

/-!
# What the Device Table Says

Two questions about the table a scan builds: whether its device numbers are
those of devices, and whether the claim it names is one of the namespace it
names.

A file system has its device number in `mountinfo`. A volume in block mode is a
file, and its number is read from the file, provided the file is a block
device. The test for that, `mode & S_IFBLK`, holds for every file type that has
one of the two bits of `S_IFBLK`: for directories and character devices just as
for block devices. Such a file enters the table under whatever number its
`rdev` decodes to. `realDevices_iff` says that this is the only way in which a
number that is not that of a volume gets into the table.

The claim is looked up by the name of the volume, in all namespaces, and the
first one found is taken. The namespace is that of the pod. Of several mounts of
a device the last is kept. So the namespace and the claim of an entry fit
together if that last mount is for a pod of the namespace and the first claim of
its volume has the name of a claim there, and `claimsInNamespace_iff` says that
they do in no other case.

## Main definitions

* `sIFMT`, `StatT.IsBlockDevice`: The file type.
* `mountVolume`, `blockFile`, `mountDev`: The volume and the device number of a
  mount.
* `KnownPod`, `Justifies`, `RealDevices`, `NoPretender`: Device numbers of
  volumes.
* `PvcIndex`, `withIndex`: An index of claims.
* `PvcIndex.ClaimIn`, `ClaimsInNamespace`: Claims of a namespace.
* `Resolves`, `PvcIndex.firstName`, `LastMountFits`: The mount and the claim
  that decide.

## Theorems

* `resolveMount_eq`, `resolveMount_iff`: What a mount enters into the table.
* `podMetaMap_isSome_iff`: The pods of the store.
* `lookup_scan_isSome_iff`: The table after a scan.
* `realDevices_iff`: When all numbers are those of volumes.
* `lookup_scan_withIndex_iff`: The mount behind an entry.
* `claimsInNamespace_iff`: When all claims are of the namespace.
* `mountVolume_ne`: Volumes have names.
* `PvcIndex.mem_byIndex_iff`: The claims of a volume in the index.
* `claimsInNamespace_of_bound`: Volumes with one claim are safe.
-/

namespace LatencyExporter

namespace Device

open Overwrite

/-- `syscall.S_IFMT`, the bits of a mode that hold the file type. -/
def sIFMT : UInt32 := 0xf000

/-- The file is a block special file. -/
def StatT.IsBlockDevice (stat : StatT) : Prop := stat.mode &&& sIFMT = sIFBLK

/-- The pod and the volume a mount is for, by its mount point. -/
def mountVolume (m : MountEntry) : Option (String × String) :=
  match parseKubeletBlockDevicePath m.mountPoint with
  | some volume => some volume
  | none => parseKubeletVolumePath m.mountPoint

/-- Where a scan looks for the file of a volume in block mode. -/
def blockFile (r : Resolver) (m : MountEntry) : String := r.procPath ++ "/1/root" ++ m.mountPoint

/-- The device number a scan finds for the mount of a volume. -/
def mountDev (r : Resolver) (host : Host) (m : MountEntry) : Option UInt32 :=
  match parseKubeletBlockDevicePath m.mountPoint with
  | some _ => statBlockDevice host (blockFile r m)
  | none => some (mkDev m.major m.minor)

/-- A mount resolves if its volume, its device and its pod are found. -/
theorem resolveMount_eq (r : Resolver) (host : Host) (podMetas : String → Option Pod)
    (m : MountEntry) :
    resolveMount r host podMetas m = (mountVolume m).bind fun volume =>
      (mountDev r host m).bind fun dev => (podMetas volume.1).map fun pod =>
        (dev,
          { pvcName := resolvePVCName host volume.2, podName := pod.name, ns := pod.ns,
            nodeName := r.nodeName, mountPath := m.mountPoint, devPath := m.source,
            isNFS := m.fsType = "nfs" || m.fsType = "nfs4" }) := by
  simp only [resolveMount, mountVolume, mountDev, blockFile]
  -- A path of the one kind is not tried as the other.
  cases parseKubeletBlockDevicePath m.mountPoint with
  | some volume => cases statBlockDevice host (r.procPath ++ "/1/root" ++ m.mountPoint) <;> rfl
  | none => cases parseKubeletVolumePath m.mountPoint <;> rfl

/-- What a mount enters into the table. -/
theorem resolveMount_iff (r : Resolver) (host : Host) (podMetas : String → Option Pod)
    (m : MountEntry) (dev : UInt32) (info : DeviceInfo) :
    resolveMount r host podMetas m = some (dev, info) ↔ ∃ podUID pvName pod,
      mountVolume m = some (podUID, pvName) ∧ mountDev r host m = some dev ∧
      podMetas podUID = some pod ∧
      info =
        { pvcName := resolvePVCName host pvName, podName := pod.name, ns := pod.ns,
          nodeName := r.nodeName, mountPath := m.mountPoint, devPath := m.source,
          isNFS := m.fsType = "nfs" || m.fsType = "nfs4" } := by
  rw [resolveMount_eq]
  simp only [Option.bind_eq_some_iff, Option.map_eq_some_iff, Prod.mk.injEq, Prod.exists]
  constructor
  · rintro ⟨podUID, pvName, hvol, dev', hdev, pod, hpod, rfl, hinfo⟩
    exact ⟨podUID, pvName, pod, hvol, hdev, hpod, hinfo.symm⟩
  · rintro ⟨podUID, pvName, pod, hvol, hdev, hpod, hinfo⟩
    exact ⟨podUID, pvName, hvol, dev, hdev, pod, hpod, rfl, hinfo.symm⟩

/-- The pod store has a pod with the UID. -/
def KnownPod (host : Host) (podUID : String) : Prop :=
  ∃ pod ∈ host.podStore.getD [], pod.uid = podUID

theorem podMetaMap_eq (host : Host) :
    podMetaMap host = overwrite ((host.podStore.getD []).map fun pod => (pod.uid, pod)) := by
  rw [podMetaMap, overwrite, List.foldl_map]

theorem podMetaMap_isSome_iff (host : Host) (podUID : String) :
    (podMetaMap host podUID).isSome ↔ KnownPod host podUID := by
  rw [podMetaMap_eq, isSome_overwrite_iff]
  simp only [List.mem_map, Prod.mk.injEq, KnownPod]
  constructor
  · rintro ⟨pod, pod', hmem, huid, rfl⟩
    exact ⟨pod', hmem, huid⟩
  · rintro ⟨pod, hmem, huid⟩
    exact ⟨pod, pod, hmem, huid, rfl⟩

/-- A device is in the table if some mount of it resolves, whether or not it is
    the last one. -/
theorem lookup_scan_isSome_iff (r : Resolver) (host : Host) (mounts : List MountEntry)
    (hparse : parseMountInfo (host.readFile (r.procPath ++ "/1/mountinfo")) = .ok mounts)
    (dev : UInt32) :
    ((scan r host).lookup dev).isSome ↔ ∃ m ∈ mounts, ∃ podUID pvName,
      mountVolume m = some (podUID, pvName) ∧ KnownPod host podUID ∧
      mountDev r host m = some dev := by
  rw [lookup_scan r host mounts hparse, isSome_overwrite_iff]
  simp only [List.mem_filterMap, resolveMount_iff]
  constructor
  · rintro ⟨info, m, hm, podUID, pvName, pod, hvol, hdev, hpod, _⟩
    refine ⟨m, hm, podUID, pvName, hvol, ?_, hdev⟩
    rw [← podMetaMap_isSome_iff, hpod, Option.isSome_some]
  · rintro ⟨m, hm, podUID, pvName, hvol, hknown, hdev⟩
    rw [← podMetaMap_isSome_iff] at hknown
    rcases Option.isSome_iff_exists.mp hknown with ⟨pod, hpod⟩
    exact ⟨_, m, hm, podUID, pvName, pod, hvol, hdev, hpod, rfl⟩

/-- The device number is that of a volume of a known pod mounted there: of a
    file system, or of a block special file. -/
inductive Justifies (r : Resolver) (host : Host) (m : MountEntry) (dev : UInt32) : Prop where
  | filesystem (podUID pvName : String)
      (hpath : parseKubeletVolumePath m.mountPoint = some (podUID, pvName))
      (hknown : KnownPod host podUID) (hdev : dev = mkDev m.major m.minor)
  | block (podUID pvName : String) (stat : StatT)
      (hpath : parseKubeletBlockDevicePath m.mountPoint = some (podUID, pvName))
      (hknown : KnownPod host podUID) (hstat : host.stat (blockFile r m) = some stat)
      (htype : stat.IsBlockDevice) (hmajor : devMajor dev = stat.major)
      (hminor : devMinor dev = stat.minor)

/-- Only devices of volumes are in the table after a scan, and a scan that
    fails keeps the table. -/
def RealDevices (r : Resolver) (host : Host) : Prop :=
  match parseMountInfo (host.readFile (r.procPath ++ "/1/mountinfo")) with
  | .error _ => scan r host = r
  | .ok mounts => ∀ dev, ((scan r host).lookup dev).isSome → ∃ m ∈ mounts, Justifies r host m dev

/-- A file in the place of a volume in block mode that has a bit of `S_IFBLK`
    and is no block special file has the number of a volume nevertheless. -/
def NoPretender (r : Resolver) (host : Host) : Prop :=
  ∀ mounts, parseMountInfo (host.readFile (r.procPath ++ "/1/mountinfo")) = .ok mounts →
    ∀ m ∈ mounts, ∀ podUID pvName stat,
      parseKubeletBlockDevicePath m.mountPoint = some (podUID, pvName) → KnownPod host podUID →
      host.stat (blockFile r m) = some stat → stat.mode &&& sIFBLK ≠ 0 → ¬ stat.IsBlockDevice →
      ∃ m' ∈ mounts, Justifies r host m' (mkDev stat.major stat.minor)

/-- Only devices of volumes get into the table unless a file of another type is
    found in the place of a block device. -/
theorem realDevices_iff (r : Resolver) (host : Host) :
    RealDevices r host ↔ NoPretender r host := by
  unfold RealDevices NoPretender
  cases hparse : parseMountInfo (host.readFile (r.procPath ++ "/1/mountinfo")) with
  -- A scan that cannot read the mounts leaves the table alone, so both sides hold.
  | error err =>
      exact iff_of_true (scan_of_error r host err hparse) fun mounts hmounts =>
        absurd hmounts (by simp only [reduceCtorEq, not_false_eq_true])
  | ok mounts =>
      dsimp only
      constructor
      · -- The number of a pretender gets into the table, so there has to be a volume that has it.
        intro hreal mounts' hmounts m hm podUID pvName stat hpath hknown hstat hmode _
        rw [Except.ok.injEq] at hmounts
        rw [← hmounts] at hm ⊢
        refine hreal _ ((lookup_scan_isSome_iff r host mounts hparse _).mpr
          ⟨m, hm, podUID, pvName, ?_, hknown, ?_⟩)
        · simp only [mountVolume, hpath]
        · simp only [mountDev, hpath]
          exact (statBlockDevice_iff host _ _).mpr ⟨stat, hstat, hmode, rfl⟩
      · intro hno dev hfound
        rcases (lookup_scan_isSome_iff r host mounts hparse dev).mp hfound
          with ⟨m, hm, podUID, pvName, hvol, hknown, hdev⟩
        simp only [mountVolume, mountDev] at hvol hdev
        cases hpath : parseKubeletBlockDevicePath m.mountPoint with
        | none =>
            rw [hpath] at hvol hdev
            exact ⟨m, hm, .filesystem podUID pvName hvol hknown (Option.some.inj hdev).symm⟩
        | some volume =>
            rw [hpath] at hvol hdev
            dsimp only at hvol hdev
            rcases (statBlockDevice_iff host _ dev).mp hdev with ⟨stat, hstat, hmode, hdev'⟩
            -- The mask lets through other types of files too.
            by_cases htype : stat.IsBlockDevice
            · refine ⟨m, hm, .block podUID pvName stat (hpath.trans hvol) hknown hstat htype ?_ ?_⟩
              · rw [hdev', devMajor_mkDev _ _ stat.major_lt stat.minor_lt]
              · rw [hdev', devMinor_mkDev _ _ stat.major_lt stat.minor_lt]
            · rw [hdev']
              exact hno mounts rfl m hm podUID pvName stat (hpath.trans hvol) hknown hstat hmode
                htype

theorem eq_ok_of_toOption {ε α : Type} (result : Except ε α) (a : α)
    (h : result.toOption = some a) : result = .ok a := by
  cases result with
  | error err => exact absurd h (by simp only [Except.toOption, reduceCtorEq, not_false_eq_true])
  | ok a' => rw [Option.some.inj h]

/-- The mount of a volume of a pod in block mode. -/
def blockMount : MountEntry where
  mountID := 40
  parentID := 1
  major := 0
  minor := 5
  root := "/"
  mountPoint := "/volumeDevices/publish/pv/0a1b2c3d-0000-1111-2222-0123456789ab"
  fsType := "devtmpfs"
  source := "devtmpfs"

/-- A directory in the place of the device. -/
def directoryHost : Host where
  readFile path :=
    if path = "/proc/1/mountinfo" then
      some ("40 1 0:5 / /volumeDevices/publish/pv/0a1b2c3d-0000-1111-2222-0123456789ab rw"
        ++ " - devtmpfs devtmpfs rw").toList
    else none
  stat _ := some { mode := 0x41ed, rdev := 0 }
  podStore := some [⟨"0a1b2c3d-0000-1111-2222-0123456789ab", "virt-launcher-vm", "default"⟩]
  pvcByPV := none

theorem blockMount_parsed :
    parseMountInfo (directoryHost.readFile ("/proc" ++ "/1/mountinfo")) = .ok [blockMount] :=
  eq_ok_of_toOption _ _ (by decide +kernel)

theorem blockMount_volume :
    parseKubeletBlockDevicePath blockMount.mountPoint
      = some ("0a1b2c3d-0000-1111-2222-0123456789ab", "pv") := by
  decide +kernel

/-- The directory is entered as device `0:0`. -/
theorem directory_in_table : ¬ RealDevices ⟨fun _ => none, "node", "/proc"⟩ directoryHost := by
  have hvol : mountVolume blockMount = some ("0a1b2c3d-0000-1111-2222-0123456789ab", "pv") := by
    rw [mountVolume, blockMount_volume]
  have hdev : mountDev ⟨fun _ => none, "node", "/proc"⟩ directoryHost blockMount
      = some (mkDev 0 0) := by
    rw [mountDev, blockMount_volume]
    rfl
  have hfound := (lookup_scan_isSome_iff _ _ _ blockMount_parsed (mkDev 0 0)).mpr
    ⟨blockMount, List.mem_cons_self, _, _, hvol, ⟨_, List.mem_cons_self, rfl⟩, hdev⟩
  intro hreal
  simp only [RealDevices, blockMount_parsed] at hreal
  rcases hreal (mkDev 0 0) hfound with ⟨m, hm, hjust⟩
  rw [List.mem_singleton] at hm
  rw [hm] at hjust
  -- The mount point is not that of a file system, and the file is a directory.
  cases hjust with
  | filesystem podUID pvName hpath _ _ =>
      have hnone : parseKubeletVolumePath blockMount.mountPoint = none := by decide +kernel
      exact absurd (hnone.symm.trans hpath) (by simp only [reduceCtorEq, not_false_eq_true])
  | block podUID pvName stat _ _ hstat htype _ _ =>
      rw [← Option.some.inj hstat] at htype
      exact absurd htype (by unfold StatT.IsBlockDevice; decide)

/-- An index of claims: for each name of a volume the claims that have it as
    their key, in some order. -/
structure PvcIndex where
  claims : List Pvc
  byIndex : String → List Pvc
  byIndex_perm : ∀ pvName, (byIndex pvName).Perm
    (claims.filter fun pvc => pvName ∈ pvcByPVIndexFunc pvc)

/-- The host with the index in its caches. -/
def withIndex (host : Host) (index : PvcIndex) : Host :=
  { host with pvcByPV := some fun pvName => some (index.byIndex pvName) }

/-- A claim of the volume in the namespace. -/
def PvcIndex.ClaimIn (index : PvcIndex) (ns pvName : String) (pvc : Pvc) : Prop :=
  pvc ∈ index.claims ∧ pvc.ns = ns ∧ pvc.volumeName = pvName

/-- A mount that enters the table: of a volume of a known pod, with a device
    number. -/
def Resolves (r : Resolver) (host : Host) (m : MountEntry) (dev : UInt32) (pvName : String)
    (pod : Pod) : Prop :=
  ∃ podUID, mountVolume m = some (podUID, pvName) ∧ podMetaMap host podUID = some pod ∧
    mountDev r host m = some dev

/-- For every mount that resolves, what the table has for its device after the
    scan has the namespace of the pod and the name of a claim of the volume in
    that namespace, if there is one. -/
def ClaimsInNamespace (r : Resolver) (host : Host) (index : PvcIndex) : Prop :=
  ∀ mounts, parseMountInfo (host.readFile (r.procPath ++ "/1/mountinfo")) = .ok mounts →
    ∀ m ∈ mounts, ∀ dev pvName pod, Resolves r host m dev pvName pod →
      (∃ pvc, index.ClaimIn pod.ns pvName pvc) →
      ∃ info, (scan r (withIndex host index)).lookup dev = some info ∧ info.ns = pod.ns ∧
        ∃ pvc, index.ClaimIn pod.ns pvName pvc ∧ info.pvcName = pvc.name

/-- The name the index gives a volume: that of the first claim, or the name of
    the volume where there is none. -/
def PvcIndex.firstName (index : PvcIndex) (pvName : String) : String :=
  match index.byIndex pvName with
  | first :: _ => first.name
  | [] => pvName

/-- For every mount that resolves and whose volume has a claim in the namespace
    of the pod, the last mount of its device is of a pod in the same namespace,
    and the first claim of the volume of that last mount has the name of such a
    claim. -/
def LastMountFits (r : Resolver) (host : Host) (index : PvcIndex) : Prop :=
  ∀ mounts, parseMountInfo (host.readFile (r.procPath ++ "/1/mountinfo")) = .ok mounts →
    ∀ m ∈ mounts, ∀ dev pvName pod, Resolves r host m dev pvName pod →
      (∃ pvc, index.ClaimIn pod.ns pvName pvc) →
      ∃ before last after, mounts = before ++ last :: after ∧
        (∀ m' ∈ after, ∀ pvName' pod', ¬ Resolves r host m' dev pvName' pod') ∧
        ∃ pvName' pod', Resolves r host last dev pvName' pod' ∧ pod'.ns = pod.ns ∧
          ∃ pvc, index.ClaimIn pod.ns pvName pvc ∧ pvc.name = index.firstName pvName'

theorem resolvePVCName_withIndex (host : Host) (index : PvcIndex) (pvName : String) :
    resolvePVCName (withIndex host index) pvName = index.firstName pvName := by
  simp only [resolvePVCName, withIndex, PvcIndex.firstName]
  cases index.byIndex pvName <;> rfl

/-- The entry of a device is that of the last mount of the device. -/
theorem lookup_scan_withIndex_iff (r : Resolver) (host : Host) (index : PvcIndex)
    (mounts : List MountEntry)
    (hparse : parseMountInfo (host.readFile (r.procPath ++ "/1/mountinfo")) = .ok mounts)
    (dev : UInt32) (ns pvcName : String) :
    (∃ info, (scan r (withIndex host index)).lookup dev = some info ∧ info.ns = ns ∧
      info.pvcName = pvcName) ↔
    ∃ before last after, mounts = before ++ last :: after ∧
      (∀ m' ∈ after, ∀ pvName' pod', ¬ Resolves r host m' dev pvName' pod') ∧
      ∃ pvName' pod', Resolves r host last dev pvName' pod' ∧ pod'.ns = ns ∧
        index.firstName pvName' = pvcName := by
  have hscan := lookup_scan r (withIndex host index) mounts hparse
  -- An entry of the table tells the pod and the first claim of the mount it comes from.
  have hres : ∀ m info,
      resolveMount r (withIndex host index) (podMetaMap (withIndex host index)) m
        = some (dev, info) → ∃ pvName pod, Resolves r host m dev pvName pod ∧ pod.ns = info.ns ∧
          index.firstName pvName = info.pvcName := by
    intro m info h
    rcases (resolveMount_iff ..).mp h with ⟨podUID, pvName, pod, hvol, hdev, hpod, rfl⟩
    exact ⟨pvName, pod, ⟨podUID, hvol, hpod, hdev⟩, rfl,
      (resolvePVCName_withIndex host index pvName).symm⟩
  -- Conversely a mount with a pod and a device number has an entry.
  have hentry : ∀ m pvName pod, Resolves r host m dev pvName pod → ∃ info,
      resolveMount r (withIndex host index) (podMetaMap (withIndex host index)) m
        = some (dev, info) ∧ info.ns = pod.ns ∧ info.pvcName = index.firstName pvName := by
    rintro m pvName pod ⟨podUID, hvol, hpod, hdev⟩
    exact ⟨_, (resolveMount_iff ..).mpr ⟨podUID, pvName, pod, hvol, hdev, hpod, rfl⟩, rfl,
      resolvePVCName_withIndex host index pvName⟩
  rw [hscan]
  constructor
  · rintro ⟨info, hinfo, hns, hname⟩
    rcases (overwrite_filterMap_iff _ mounts dev info).mp hinfo
      with ⟨before, last, after, hmounts, hlast, hafter⟩
    rcases hres last info hlast with ⟨pvName', pod', hresolves, hns', hname'⟩
    refine ⟨before, last, after, hmounts, fun m' hm' pvName'' pod'' hm'' => ?_,
      pvName', pod', hresolves, hns'.trans hns, hname'.trans hname⟩
    rcases hentry m' pvName'' pod'' hm'' with ⟨info', hinfo', _⟩
    exact hafter m' hm' info' hinfo'
  · rintro ⟨before, last, after, hmounts, hafter, pvName', pod', hlast, hns, hname⟩
    rcases hentry last pvName' pod' hlast with ⟨info, hinfo, hns', hname'⟩
    refine ⟨info, (overwrite_filterMap_iff _ mounts dev info).mpr
      ⟨before, last, after, hmounts, hinfo, fun m' hm' info' hinfo' => ?_⟩,
      hns'.trans hns, hname'.trans hname⟩
    rcases hres m' info' hinfo' with ⟨pvName'', pod'', hm'', _⟩
    exact hafter m' hm' pvName'' pod'' hm''

/-- The table names a claim of the namespace it names, for every mount whose
    volume has one, if and only if the last mount of each such device is for a
    pod of that namespace and the first claim of its volume is such a claim. -/
theorem claimsInNamespace_iff (r : Resolver) (host : Host) (index : PvcIndex) :
    ClaimsInNamespace r host index ↔ LastMountFits r host index := by
  constructor
  · intro hclaims mounts hparse m hm dev pvName pod hres hclaim
    rcases hclaims mounts hparse m hm dev pvName pod hres hclaim
      with ⟨info, hinfo, hns, pvc, hpvc, hname⟩
    rcases (lookup_scan_withIndex_iff r host index mounts hparse dev pod.ns pvc.name).mp
      ⟨info, hinfo, hns, hname⟩
      with ⟨before, last, after, hmounts, hafter, pvName', pod', hlast, hns', hname'⟩
    exact ⟨before, last, after, hmounts, hafter, pvName', pod', hlast, hns', pvc, hpvc,
      hname'.symm⟩
  · intro hfits mounts hparse m hm dev pvName pod hres hclaim
    rcases hfits mounts hparse m hm dev pvName pod hres hclaim
      with ⟨before, last, after, hmounts, hafter, pvName', pod', hlast, hns, pvc, hpvc, hname⟩
    rcases (lookup_scan_withIndex_iff r host index mounts hparse dev pod.ns pvc.name).mpr
      ⟨before, last, after, hmounts, hafter, pvName', pod', hlast, hns, hname.symm⟩
      with ⟨info, hinfo, hns', hname'⟩
    exact ⟨info, hinfo, hns', pvc, hpvc, hname'⟩

/-- The kubelet's patterns require a name of the volume. -/
theorem mountVolume_ne (m : MountEntry) (podUID pvName : String)
    (h : mountVolume m = some (podUID, pvName)) : pvName ≠ "" := by
  have hname : Component pvName.toList := by
    -- Both patterns ask for at least one character.
    unfold mountVolume at h
    split at h
    · next volume hpath =>
        rcases (parseKubeletBlockDevicePath_iff _ _ _).mp (hpath.trans h) with ⟨_, _, hn, _⟩
        exact hn
    · rcases (parseKubeletVolumePath_iff _ _ _).mp h with ⟨_, _, _, _, _, hn, _⟩
      exact hn
  rintro rfl
  exact hname.1 rfl

/-- The claims the index has for a volume are those that name it. -/
theorem PvcIndex.mem_byIndex_iff (index : PvcIndex) (pvName : String) (pvc : Pvc)
    (hname : pvName ≠ "") :
    pvc ∈ index.byIndex pvName ↔ pvc ∈ index.claims ∧ pvc.volumeName = pvName := by
  rw [(index.byIndex_perm pvName).mem_iff, List.mem_filter, decide_eq_true_eq, pvcByPVIndexFunc]
  by_cases hempty : pvc.volumeName = ""
  · rw [if_pos hempty, hempty]
    simp only [List.not_mem_nil, and_false, Ne.symm hname]
  · rw [if_neg hempty, List.mem_singleton, eq_comm]

/-- Where every volume has one claim and every device is mounted for one volume
    and one namespace, nothing can go wrong. -/
theorem claimsInNamespace_of_bound (r : Resolver) (host : Host) (index : PvcIndex)
    (hone : ∀ pvc ∈ index.claims, ∀ pvc' ∈ index.claims, pvc.volumeName ≠ "" →
      pvc.volumeName = pvc'.volumeName → pvc.name = pvc'.name)
    (hsame : ∀ mounts, parseMountInfo (host.readFile (r.procPath ++ "/1/mountinfo")) = .ok mounts →
      ∀ m ∈ mounts, ∀ m' ∈ mounts, ∀ dev pvName pvName' pod pod',
        Resolves r host m dev pvName pod → Resolves r host m' dev pvName' pod' →
        pvName = pvName' ∧ pod.ns = pod'.ns) :
    ClaimsInNamespace r host index := by
  intro mounts hparse m hm dev pvName pod hres hclaim
  rcases hclaim with ⟨pvc, hpvc⟩
  have hfound : ((scan r (withIndex host index)).lookup dev).isSome := by
    rcases hres with ⟨podUID, hvol, hpod, hdev⟩
    refine (lookup_scan_isSome_iff r (withIndex host index) mounts hparse dev).mpr
      ⟨m, hm, podUID, pvName, hvol, ?_, hdev⟩
    rw [← podMetaMap_isSome_iff]
    exact Option.isSome_of_eq_some hpod
  rcases Option.isSome_iff_exists.mp hfound with ⟨info, hinfo⟩
  rcases (lookup_scan_withIndex_iff r host index mounts hparse dev info.ns info.pvcName).mp
    ⟨info, hinfo, rfl, rfl⟩
    with ⟨before, last, after, hmounts, _, pvName', pod', hlast, hns, hname⟩
  -- The mount that decides is of the same volume.
  have hmem : last ∈ mounts := by
    rw [hmounts]
    exact List.mem_append_right before List.mem_cons_self
  rcases hsame mounts hparse m hm last hmem dev pvName pvName' pod pod' hres hlast
    with ⟨rfl, hns'⟩
  refine ⟨info, hinfo, hns.symm.trans hns'.symm, pvc, hpvc, ?_⟩
  have hvolume : pvName ≠ "" := by
    rcases hres with ⟨podUID, hvol, _⟩
    exact mountVolume_ne m podUID pvName hvol
  have hindexed := (index.mem_byIndex_iff pvName pvc hvolume).mpr ⟨hpvc.1, hpvc.2.2⟩
  rw [← hname, PvcIndex.firstName]
  -- The claim of the volume is indexed, so there is a first one, and it has the same name.
  cases hfirst : index.byIndex pvName with
  | nil =>
      rw [hfirst] at hindexed
      exact absurd hindexed List.not_mem_nil
  | cons first rest =>
      have hmem' := (index.mem_byIndex_iff pvName first hvolume).mp
        (hfirst ▸ List.mem_cons_self)
      exact hone first hmem'.1 pvc hpvc.1 (hmem'.2 ▸ hvolume) (hmem'.2.trans hpvc.2.2.symm)

/-- Two claims for one volume, that of another namespace first. -/
def prebound : PvcIndex where
  claims := [⟨"scratch", "other", "pv"⟩, ⟨"data", "default", "pv"⟩]
  byIndex pvName := [⟨"scratch", "other", "pv"⟩, ⟨"data", "default", "pv"⟩].filter
    fun pvc => pvName ∈ pvcByPVIndexFunc pvc
  byIndex_perm _ := List.Perm.refl _

/-- The same mount of a block device. -/
def blockHost : Host :=
  { directoryHost with stat := fun _ => some { mode := 0x61b0, rdev := 0x800 } }

/-- The claim of the other namespace is reported for a pod of this one. -/
theorem prebound_reported :
    ((scan ⟨fun _ => none, "node", "/proc"⟩ (withIndex blockHost prebound)).lookup
      (mkDev 8 0)).map attribution = some ("default", "virt-launcher-vm", "scratch") ∧
    ¬ ClaimsInNamespace ⟨fun _ => none, "node", "/proc"⟩ blockHost prebound := by
  have hparse : parseMountInfo (blockHost.readFile ("/proc" ++ "/1/mountinfo"))
      = .ok [blockMount] := blockMount_parsed
  have hvol : mountVolume blockMount = some ("0a1b2c3d-0000-1111-2222-0123456789ab", "pv") := by
    rw [mountVolume, blockMount_volume]
  have hpod : podMetaMap blockHost "0a1b2c3d-0000-1111-2222-0123456789ab"
      = some ⟨"0a1b2c3d-0000-1111-2222-0123456789ab", "virt-launcher-vm", "default"⟩ := by
    rw [podMetaMap_eq]
    exact overwrite_last [] _ _
  have hdev : mountDev ⟨fun _ => none, "node", "/proc"⟩ blockHost blockMount
      = some (mkDev 8 0) := by
    rw [mountDev, blockMount_volume]
    rfl
  have hstored : ((scan ⟨fun _ => none, "node", "/proc"⟩ (withIndex blockHost prebound)).lookup
      (mkDev 8 0)).map attribution = some ("default", "virt-launcher-vm", "scratch") := by
    decide +kernel
  refine ⟨hstored, fun hclaims => ?_⟩
  rcases hclaims _ hparse blockMount List.mem_cons_self (mkDev 8 0) _ _ ⟨_, hvol, hpod, hdev⟩
    ⟨⟨"data", "default", "pv"⟩, List.mem_cons_of_mem _ List.mem_cons_self, rfl, rfl⟩
    with ⟨info, hinfo, _, pvc, hpvc, hname⟩
  rw [hinfo, Option.map_some, Option.some.injEq, attribution, Prod.mk.injEq, Prod.mk.injEq]
    at hstored
  have hmem := hpvc.1
  simp only [prebound, List.mem_cons, List.not_mem_nil, or_false] at hmem
  -- The one claim is of another namespace, the other has another name.
  rcases hmem with rfl | rfl
  · exact absurd hpvc.2.1 (by decide)
  · exact absurd (hstored.2.2.symm.trans hname) (by decide)

end Device

end LatencyExporter
