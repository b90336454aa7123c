import LatencyExporter.Core.Qga.DiskMap
import LatencyExporter.Lib.Overwrite
import Mathlib.Data.List.Nodup

/-!
# The Volume of a Drive

The volumes of the drives are found by a join in two stages. The disks of the
domain are entered into one table by location and into another by serial
number, where later disks overwrite earlier ones. Each drive of the guest is
looked up in the first table, and in the second one if that finds nothing.

What the join is for is said without tables: a drive belongs to the disk it is
at the place of, or shares a serial number with. `Truthful` is the assumption
under which that makes sense: whatever disk a drive seems to be, it is. Then the
two stages cannot disagree, overwriting loses nothing, and the order of drives,
disks and controllers does not matter (`disk_labels_correct`).

The order of controllers needs one assumption more. Controllers are looked up
by a key that joins the type and the index with a colon. Types and indices that
contain colons themselves can have one key and still be different
(`colliding_controllers`).

## Main definitions

* `Eligible`: A disk that is a volume.
* `controllerEntry`, `locationEntry`, `serialEntry`: What is entered into the
  tables.
* `label`, `mapping`: The lookup in two tables, and the result of both loops.
* `Located`, `SameSerial`, `Matches`: When a drive seems to be a disk.
* `Consistent`, `Truthful`: Drives do not seem to be two volumes, and are what
  they seem to be.
* `DistinctAliases`: Volumes are different disks.

## Theorems

* `volumeName_iff`: The volume of a disk.
* `controllerPCI_eq`, `parseDiskLocations_eq`, `parseDiskSerials_eq`: The tables.
* `controllerPCI_perm`: The order of controllers.
* `locationLoop_eq`, `serialLoop_eq`: The two loops.
* `label_eq_some_iff`, `mapping_eq_some_iff`: The join against what it is for.
* `mapping_perm`: The order of everything.
* `disk_labels_correct`: The mapping, for a truthful guest.
-/

namespace LatencyExporter

open Overwrite

namespace Qmp

/-- The disk is a volume: a disk whose alias is `ua-` and the name of the
    volume. -/
def Eligible (d : XmlDisk) (volName : String) : Prop :=
  d.device = "disk" ∧ d.aliasName = "ua-" ++ volName ∧ volName ≠ ""

theorem trimPrefix_append (pre s : String) : trimPrefix (pre ++ s) pre = s := by
  rw [trimPrefix, String.toList_append, List.dropPrefix?_append_of_beq _ (BEq.rfl)]
  exact String.ofList_toList

/-- Trimming a prefix leaves a text as it is, or the text has the prefix. -/
theorem eq_or_trimPrefix (pre s : String) : trimPrefix s pre = s ∨ s = pre ++ trimPrefix s pre := by
  unfold trimPrefix
  split
  · exact .inl rfl
  · next rest hrest =>
      rcases List.dropPrefix?_eq_some_iff.mp hrest with ⟨pre', hlist, hpre⟩
      refine .inr (String.toList_inj.mp ?_)
      rw [String.toList_append, String.toList_ofList, hlist, beq_iff_eq.mp hpre]

theorem append_ne_self (pre s : String) (hpre : pre ≠ "") : pre ++ s ≠ s := by
  intro hc
  have hlist := congrArg String.toList hc
  rw [String.toList_append, List.append_left_eq_self] at hlist
  exact hpre (String.toList_inj.mp hlist)

/-- The source looks whether trimming changes the alias and leaves something,
    which is to be eligible. -/
theorem volumeName_iff (d : XmlDisk) (volName : String) :
    volumeName d = some volName ↔ Eligible d volName := by
  unfold volumeName Eligible
  by_cases hdevice : d.device = "disk"
  · rw [if_neg (not_not_intro hdevice)]
    dsimp only
    constructor
    · intro h
      split at h
      · exact absurd h (by simp only [reduceCtorEq, not_false_eq_true])
      · next hname =>
          rw [not_or] at hname
          rw [← Option.some.inj h]
          exact ⟨hdevice, (eq_or_trimPrefix "ua-" d.aliasName).resolve_left hname.1, hname.2⟩
    · rintro ⟨_, halias, hname⟩
      rw [halias, trimPrefix_append, if_neg]
      -- Neither test applies: the alias is longer than the name, and the name is not empty.
      rintro (hc | hc)
      · exact append_ne_self "ua-" volName (by decide) hc.symm
      · exact hname hc
  · rw [if_pos hdevice]
    exact iff_of_false (by simp only [reduceCtorEq, not_false_eq_true]) fun h => hdevice h.1

/-- A disk is one volume. -/
theorem Eligible.unique {d : XmlDisk} {volName volName' : String} (h : Eligible d volName)
    (h' : Eligible d volName') : volName = volName' := by
  rw [← volumeName_iff] at h h'
  exact Option.some.inj (h.symm.trans h')

/-- What a controller is entered as. -/
def controllerEntry (ctrl : XmlController) : Option (String × PCIAddr) :=
  if ctrl.address.type ≠ "pci" then none
  else (parseHexAddr ctrl.address).map fun addr => (controllerKey ctrl.type ctrl.index, addr)

/-- What a disk is entered as by location. -/
def locationEntry (ctrls : String → Option PCIAddr) (d : XmlDisk) :
    Option (DiskLocation × String) :=
  (volumeName d).bind fun volName =>
    (diskLocation ctrls d).map fun location => (location, volName)

/-- What a disk is entered as by serial number. -/
def serialEntry (d : XmlDisk) : Option (String × String) :=
  if d.serial = "" then none else (volumeName d).map fun volName => (d.serial, volName)

/-- The loop over the controllers overwrites, so of two with one key the later one
    counts. -/
theorem controllerPCI_eq (controllers : List XmlController) :
    controllerPCI controllers = overwrite (controllers.filterMap controllerEntry) := by
  refine foldl_eq_overwrite controllerEntry _ controllers fun m ctrl => ?_
  unfold controllerEntry
  by_cases htype : ctrl.address.type = "pci"
  · rw [if_neg (not_not_intro htype), if_neg (not_not_intro htype)]
    cases parseHexAddr ctrl.address <;> rfl
  · rw [if_pos htype, if_pos htype]

/-- The loop over the disks overwrites by location. -/
theorem parseDiskLocations_eq (dom : XmlDomain) :
    parseDiskLocations (.ok dom)
      = .ok (overwrite (dom.disks.filterMap (locationEntry (controllerPCI dom.controllers)))) := by
  refine congrArg Except.ok (foldl_eq_overwrite _ _ dom.disks fun m d => ?_)
  unfold locationEntry
  cases volumeName d with
  | none => rfl
  | some volName => cases diskLocation (controllerPCI dom.controllers) d <;> rfl

/-- The loop over the disks overwrites by serial number. -/
theorem parseDiskSerials_eq (dom : XmlDomain) :
    parseDiskSerials (.ok dom) = .ok (overwrite (dom.disks.filterMap serialEntry)) := by
  refine congrArg Except.ok (foldl_eq_overwrite _ _ dom.disks fun m d => ?_)
  unfold serialEntry
  by_cases hserial : d.serial = ""
  · rw [if_pos hserial, if_pos hserial]
  · rw [if_neg hserial, if_neg hserial]
    cases volumeName d <;> rfl

/-- The entries by location are those of the volumes that have one. -/
theorem mem_locationEntries (ctrls : String → Option PCIAddr) (disks : List XmlDisk)
    (location : DiskLocation) (volName : String) :
    (location, volName) ∈ disks.filterMap (locationEntry ctrls) ↔
      ∃ d ∈ disks, Eligible d volName ∧ diskLocation ctrls d = some location := by
  simp only [List.mem_filterMap, locationEntry, Option.bind_eq_some_iff, Option.map_eq_some_iff,
    Prod.mk.injEq, volumeName_iff]
  constructor
  · rintro ⟨d, hd, v, helig, location', hloc, rfl, rfl⟩
    exact ⟨d, hd, helig, hloc⟩
  · rintro ⟨d, hd, helig, hloc⟩
    exact ⟨d, hd, volName, helig, location, hloc, rfl, rfl⟩

/-- The entries by serial number are those of the volumes that have one. -/
theorem mem_serialEntries (disks : List XmlDisk) (serial volName : String) :
    (serial, volName) ∈ disks.filterMap serialEntry ↔
      ∃ d ∈ disks, Eligible d volName ∧ serial ≠ "" ∧ d.serial = serial := by
  simp only [List.mem_filterMap, serialEntry]
  constructor
  · rintro ⟨d, hd, hentry⟩
    split at hentry
    · exact absurd hentry (by simp only [reduceCtorEq, not_false_eq_true])
    · next hserial =>
        rw [Option.map_eq_some_iff] at hentry
        rcases hentry with ⟨v, hv, heq⟩
        rw [Prod.mk.injEq] at heq
        rw [← heq.1, ← heq.2]
        exact ⟨d, hd, (volumeName_iff d v).mp hv, hserial, rfl⟩
  · rintro ⟨d, hd, helig, hne, hserial⟩
    refine ⟨d, hd, ?_⟩
    rw [if_neg (hserial ▸ hne), (volumeName_iff d volName).mpr helig, Option.map_some, hserial]

/-- Controllers with keys of their own may come in any order. -/
theorem controllerPCI_perm (controllers controllers' : List XmlController)
    (hperm : controllers'.Perm controllers)
    (hkeys : (controllers.map fun ctrl => controllerKey ctrl.type ctrl.index).Nodup) :
    controllerPCI controllers' = controllerPCI controllers := by
  funext key
  rw [controllerPCI_eq, controllerPCI_eq]
  have hview := map_overwrite_perm (fun addr : PCIAddr => addr)
    (controllers.filterMap controllerEntry) (controllers'.filterMap controllerEntry)
    (hperm.filterMap _) key ?_
  · simpa only [Option.map_id'] using hview
  · intro addr addr' hmem hmem'
    rcases List.mem_filterMap.mp hmem with ⟨ctrl, hctrl, hentry⟩
    rcases List.mem_filterMap.mp hmem' with ⟨ctrl', hctrl', hentry'⟩
    have hkey : ∀ c a, controllerEntry c = some (key, a) → controllerKey c.type c.index = key := by
      intro c a h
      unfold controllerEntry at h
      split at h
      · exact absurd h (by simp only [reduceCtorEq, not_false_eq_true])
      · rw [Option.map_eq_some_iff] at h
        rcases h with ⟨_, _, heq⟩
        exact congrArg Prod.fst heq
    -- One key is the key of one controller.
    have heq : ctrl = ctrl' := List.inj_on_of_nodup_map hkeys hctrl hctrl'
      ((hkey ctrl addr hentry).trans (hkey ctrl' addr' hentry').symm)
    rw [heq, hentry', Option.some.injEq, Prod.mk.injEq] at hentry
    exact hentry.2.symm

end Qmp

namespace Qga

open Qmp

/-- The lookup of a drive in the two tables. -/
def label (hostMap : DiskLocation → Option String) (serialMap : String → Option String)
    (gd : GuestDisk) : Option String :=
  (hostMap gd.location).or (if gd.serial = "" then none else serialMap gd.serial)

/-- The first loop writes what the location finds over what is there. -/
theorem locationLoop_eq (hostMap : DiskLocation → Option String) (guestDisks : List GuestDisk)
    (result : Int → Option String) :
    locationLoop hostMap guestDisks result
      = revise GuestDisk.driveIndex (fun gd old => (hostMap gd.location).or old) guestDisks
          result := by
  unfold locationLoop revise
  congr 1
  funext m gd
  dsimp only
  cases hostMap gd.location with
  | none => exact (Function.update_eq_self _ _).symm
  | some volName => rfl

/-- The second loop writes only where nothing is there. -/
theorem serialLoop_eq (serialMap : String → Option String) (guestDisks : List GuestDisk)
    (result : Int → Option String) :
    serialLoop serialMap guestDisks result
      = revise GuestDisk.driveIndex
          (fun gd old => old.or (if gd.serial = "" then none else serialMap gd.serial)) guestDisks
          result := by
  unfold serialLoop revise
  congr 1
  funext m gd
  dsimp only
  -- Writing back what is there changes nothing.
  cases hold : m gd.driveIndex with
  | some volName =>
      rw [Option.isSome_some, if_pos rfl, Option.some_or]
      exact (Function.update_eq_self_iff.mpr hold.symm).symm
  | none =>
      rw [Option.isSome_none, if_neg Bool.false_ne_true, Option.none_or]
      by_cases hserial : gd.serial = ""
      · rw [if_pos hserial, if_pos hserial]
        exact (Function.update_eq_self_iff.mpr hold.symm).symm
      · rw [if_neg hserial, if_neg hserial]
        cases serialMap gd.serial with
        | some volName => rfl
        | none => exact (Function.update_eq_self_iff.mpr hold.symm).symm

/-- The mapping `BuildDiskMapping` returns for a domain. -/
def mapping (dom : XmlDomain) (guestDisks : List GuestDisk) : Int → Option String :=
  serialLoop (overwrite (dom.disks.filterMap serialEntry)) guestDisks
    (locationLoop (overwrite (dom.disks.filterMap (locationEntry (controllerPCI dom.controllers))))
      guestDisks fun _ => none)

/-- The mapping is the two loops over the two tables. -/
theorem buildDiskMapping_eq (dom : XmlDomain) (guestDisks : List GuestDisk) :
    buildDiskMapping (.ok dom) guestDisks = .ok (mapping dom guestDisks) := by
  simp only [buildDiskMapping, parseDiskLocations_eq, parseDiskSerials_eq, mapping]

/-- The drive is at the place of the disk. -/
def Located (dom : XmlDomain) (gd : GuestDisk) (d : XmlDisk) : Prop :=
  diskLocation (controllerPCI dom.controllers) d = some gd.location

/-- The drive has the serial number of the disk, and has one. -/
def SameSerial (gd : GuestDisk) (d : XmlDisk) : Prop := gd.serial ≠ "" ∧ d.serial = gd.serial

/-- The drive seems to be the disk. -/
def Matches (dom : XmlDomain) (gd : GuestDisk) (d : XmlDisk) : Prop :=
  Located dom gd d ∨ SameSerial gd d

/-- No drive seems to be two volumes. -/
def Consistent (dom : XmlDomain) (guestDisks : List GuestDisk) : Prop :=
  ∀ gd ∈ guestDisks, ∀ d ∈ dom.disks, ∀ d' ∈ dom.disks, ∀ volName volName',
    Eligible d volName → Eligible d' volName' → Matches dom gd d → Matches dom gd d' →
    volName = volName'

/-- The two tables find the volume a drive seems to be. -/
theorem label_eq_some_iff (dom : XmlDomain) (guestDisks : List GuestDisk)
    (hcons : Consistent dom guestDisks) (gd : GuestDisk) (hgd : gd ∈ guestDisks)
    (volName : String) :
    label (overwrite (dom.disks.filterMap (locationEntry (controllerPCI dom.controllers))))
        (overwrite (dom.disks.filterMap serialEntry)) gd = some volName ↔
      ∃ d ∈ dom.disks, Eligible d volName ∧ Matches dom gd d := by
  -- Entries with one key are of one volume, since the drive would be either; so it does not matter
  -- which one is last.
  have hlocation : ∀ v,
      overwrite (dom.disks.filterMap (locationEntry (controllerPCI dom.controllers))) gd.location
        = some v ↔ ∃ d ∈ dom.disks, Eligible d v ∧ Located dom gd d := by
    intro v
    rw [overwrite_eq_some_iff, mem_locationEntries]
    · rfl
    · intro v v' hmem hmem'
      rcases (mem_locationEntries ..).mp hmem with ⟨d, hd, helig, hloc⟩
      rcases (mem_locationEntries ..).mp hmem' with ⟨d', hd', helig', hloc'⟩
      exact hcons gd hgd d hd d' hd' v v' helig helig' (.inl hloc) (.inl hloc')
  have hserial : ∀ v, (if gd.serial = "" then none
        else overwrite (dom.disks.filterMap serialEntry) gd.serial) = some v ↔
      ∃ d ∈ dom.disks, Eligible d v ∧ SameSerial gd d := by
    intro v
    by_cases hempty : gd.serial = ""
    · rw [if_pos hempty]
      refine iff_of_false (by simp only [reduceCtorEq, not_false_eq_true]) ?_
      rintro ⟨_, _, _, hne, _⟩
      exact hne hempty
    · rw [if_neg hempty, overwrite_eq_some_iff, mem_serialEntries]
      · rfl
      · intro v v' hmem hmem'
        rcases (mem_serialEntries ..).mp hmem with ⟨d, hd, helig, hsame⟩
        rcases (mem_serialEntries ..).mp hmem' with ⟨d', hd', helig', hsame'⟩
        exact hcons gd hgd d hd d' hd' v v' helig helig' (.inr hsame) (.inr hsame')
  rw [label, Option.or_eq_some_iff, hlocation, hserial]
  constructor
  · rintro (⟨d, hd, helig, hloc⟩ | ⟨_, d, hd, helig, hsame⟩)
    · exact ⟨d, hd, helig, .inl hloc⟩
    · exact ⟨d, hd, helig, .inr hsame⟩
  · rintro ⟨d, hd, helig, hloc | hsame⟩
    · exact .inl ⟨d, hd, helig, hloc⟩
    · -- The serial number counts only where the location finds nothing; if it
      -- finds something, that is the same volume.
      cases hfound : overwrite (dom.disks.filterMap
          (locationEntry (controllerPCI dom.controllers))) gd.location with
      | none => exact .inr ⟨rfl, d, hd, helig, hsame⟩
      | some v =>
          rcases (hlocation v).mp hfound with ⟨d', hd', helig', hloc'⟩
          have heq := hcons gd hgd d hd d' hd' volName v helig helig' (.inr hsame) (.inl hloc')
          exact .inl ⟨d', hd', heq ▸ helig', hloc'⟩

/-- Drives have numbers of their own, so each one is labelled by its own lookup. -/
theorem mapping_eq_some_iff (dom : XmlDomain) (guestDisks : List GuestDisk)
    (hindex : (guestDisks.map GuestDisk.driveIndex).Nodup) (hcons : Consistent dom guestDisks)
    (i : Int) (volName : String) :
    mapping dom guestDisks i = some volName ↔ ∃ gd ∈ guestDisks, gd.driveIndex = i ∧
      ∃ d ∈ dom.disks, Eligible d volName ∧ Matches dom gd d := by
  rw [mapping, serialLoop_eq, locationLoop_eq]
  by_cases hi : i ∈ guestDisks.map GuestDisk.driveIndex
  · -- The number is that of a drive, and of no other.
    rcases List.mem_map.mp hi with ⟨gd, hgd, rfl⟩
    rw [revise_of_mem _ _ _ _ hindex gd hgd, revise_of_mem _ _ _ _ hindex gd hgd, Option.or_none]
    refine (label_eq_some_iff dom guestDisks hcons gd hgd volName).trans ?_
    constructor
    · exact fun h => ⟨gd, hgd, rfl, h⟩
    · rintro ⟨gd', hgd', hsame, h⟩
      rwa [List.inj_on_of_nodup_map hindex hgd' hgd hsame] at h
  · rw [revise_of_not_mem _ _ _ _ _ hi, revise_of_not_mem _ _ _ _ _ hi]
    refine iff_of_false (by simp only [reduceCtorEq, not_false_eq_true]) ?_
    rintro ⟨gd, hgd, rfl, _⟩
    exact hi (List.mem_map_of_mem hgd)

/-- Drives are what they seem to be: `s` says which disk a drive is, by its
    position, if it is one. -/
structure Truthful (dom : XmlDomain) (guestDisks : List GuestDisk) (s : GuestDisk → Option Nat) :
    Prop where
  injective : ∀ gd ∈ guestDisks, ∀ gd' ∈ guestDisks, ∀ n, s gd = some n → s gd' = some n → gd = gd'
  is_match : ∀ gd ∈ guestDisks, ∀ n d, dom.disks[n]? = some d → (∃ volName, Eligible d volName) →
    Matches dom gd d → s gd = some n

/-- A drive that is one disk at most does not seem to be two volumes. -/
theorem Truthful.consistent {dom : XmlDomain} {guestDisks : List GuestDisk}
    {s : GuestDisk → Option Nat} (hs : Truthful dom guestDisks s) : Consistent dom guestDisks := by
  intro gd hgd d hd d' hd' volName volName' helig helig' hmatch hmatch'
  rcases List.mem_iff_getElem?.mp hd with ⟨n, hn⟩
  rcases List.mem_iff_getElem?.mp hd' with ⟨n', hn'⟩
  have hsame := (hs.is_match gd hgd n d hn ⟨volName, helig⟩ hmatch).symm.trans
    (hs.is_match gd hgd n' d' hn' ⟨volName', helig'⟩ hmatch')
  rw [Option.some.inj hsame, hn', Option.some.injEq] at hn
  exact helig.unique (hn ▸ helig')

/-- Every volume is one disk. -/
def DistinctAliases (dom : XmlDomain) : Prop :=
  ∀ (n n' : Nat) (d d' : XmlDisk) (volName : String), dom.disks[n]? = some d →
    dom.disks[n']? = some d' → Eligible d volName → Eligible d' volName → n = n'

/-- The mapping is stated by membership, which orders do not change. Only the
    table of controllers needs an argument of its own. -/
theorem mapping_perm (dom dom' : XmlDomain) (guestDisks guestDisks' : List GuestDisk)
    (hindex : (guestDisks.map GuestDisk.driveIndex).Nodup)
    (hkeys : (dom.controllers.map fun ctrl => controllerKey ctrl.type ctrl.index).Nodup)
    (hcons : Consistent dom guestDisks) (hdisks : dom'.disks.Perm dom.disks)
    (hctrls : dom'.controllers.Perm dom.controllers) (hguest : guestDisks'.Perm guestDisks) :
    mapping dom' guestDisks' = mapping dom guestDisks := by
  -- Where disks are depends on the controllers, whose order does not matter.
  have hmatches : ∀ gd d, Matches dom' gd d ↔ Matches dom gd d := by
    intro gd d
    rw [Matches, Matches, Located, Located, controllerPCI_perm _ _ hctrls hkeys]
  have hcons' : Consistent dom' guestDisks' := by
    intro gd hgd d hd d' hd' volName volName' helig helig' hmatch hmatch'
    exact hcons gd (hguest.mem_iff.mp hgd) d (hdisks.mem_iff.mp hd) d' (hdisks.mem_iff.mp hd')
      volName volName' helig helig' ((hmatches gd d).mp hmatch) ((hmatches gd d').mp hmatch')
  have hindex' : (guestDisks'.map GuestDisk.driveIndex).Nodup :=
    (hguest.map _).nodup_iff.mpr hindex
  funext i
  refine Option.ext fun volName => ?_
  rw [mapping_eq_some_iff dom' guestDisks' hindex' hcons', mapping_eq_some_iff dom guestDisks
    hindex hcons]
  simp only [hguest.mem_iff, hdisks.mem_iff, hmatches]

/-- For a truthful guest, and controllers with keys of their own: a drive is
    mapped to a volume exactly if it is the disk of the volume and either its
    location or its serial number shows it; no two drives are mapped to one
    volume, if the volumes are different disks; and the order of drives, disks
    and controllers makes no difference. -/
theorem disk_labels_correct (dom : XmlDomain) (guestDisks : List GuestDisk)
    (s : GuestDisk → Option Nat) (hindex : (guestDisks.map GuestDisk.driveIndex).Nodup)
    (hkeys : (dom.controllers.map fun ctrl => controllerKey ctrl.type ctrl.index).Nodup)
    (hs : Truthful dom guestDisks s) :
    ∃ m, buildDiskMapping (.ok dom) guestDisks = .ok m ∧
      (∀ i volName, m i = some volName ↔ ∃ gd ∈ guestDisks, gd.driveIndex = i ∧
        ∃ n d, s gd = some n ∧ dom.disks[n]? = some d ∧ Eligible d volName ∧ Matches dom gd d) ∧
      (DistinctAliases dom → ∀ i i' volName, m i = some volName → m i' = some volName → i = i') ∧
      ∀ dom' guestDisks', dom'.disks.Perm dom.disks → dom'.controllers.Perm dom.controllers →
        guestDisks'.Perm guestDisks → buildDiskMapping (.ok dom') guestDisks' = .ok m := by
  have hmap : ∀ i volName, mapping dom guestDisks i = some volName ↔
      ∃ gd ∈ guestDisks, gd.driveIndex = i ∧
        ∃ n d, s gd = some n ∧ dom.disks[n]? = some d ∧ Eligible d volName ∧ Matches dom gd d := by
    intro i volName
    rw [mapping_eq_some_iff dom guestDisks hindex hs.consistent]
    constructor
    · rintro ⟨gd, hgd, hi, d, hd, helig, hmatch⟩
      rcases List.mem_iff_getElem?.mp hd with ⟨n, hn⟩
      exact ⟨gd, hgd, hi, n, d, hs.is_match gd hgd n d hn ⟨volName, helig⟩ hmatch, hn, helig,
        hmatch⟩
    · rintro ⟨gd, hgd, hi, n, d, _, hn, helig, hmatch⟩
      exact ⟨gd, hgd, hi, d, List.mem_of_getElem? hn, helig, hmatch⟩
  refine ⟨mapping dom guestDisks, buildDiskMapping_eq dom guestDisks, hmap, ?_, ?_⟩
  · intro halias i i' volName hi hi'
    rcases (hmap i volName).mp hi with ⟨gd, hgd, rfl, n, d, hsn, hn, helig, _⟩
    rcases (hmap i' volName).mp hi' with ⟨gd', hgd', rfl, n', d', hsn', hn', helig', _⟩
    -- The volume is one disk, and a disk is one drive.
    rw [halias n n' d d' volName hn hn' helig helig'] at hsn
    rw [hs.injective gd hgd gd' hgd' n' hsn hsn']
  · intro dom' guestDisks' hdisks hctrls hguest
    rw [buildDiskMapping_eq, mapping_perm dom dom' guestDisks guestDisks' hindex hkeys
      hs.consistent hdisks hctrls hguest]

/-- A controller in the given slot. -/
def controllerAt (type index slot : String) : XmlController where
  type := type
  index := index
  address := { type := "pci", domain := "0x0000", bus := "0x00", slot := slot, function := "0x0" }

/-- A volume on the controller with the given index. -/
def sataVolume (controller : String) : XmlDisk where
  device := "disk"
  serial := ""
  targetBus := "sata"
  aliasName := "ua-data"
  address := { type := "drive", controller := controller, bus := "0", target := "0", unit := "0" }

/-- A drive on the controller in slot two. -/
def driveZero : GuestDisk where
  driveIndex := 0
  serial := ""
  location := { controller := ⟨0, 0, 2, 0⟩, bus := 0, target := 0, unit := 0 }

theorem truthful_single (d : XmlDisk) (controllers : List XmlController) :
    Truthful { disks := [d], controllers := controllers } [driveZero] fun _ => some 0 := by
  refine ⟨?_, ?_⟩
  · intro gd hgd gd' hgd' n _ _
    rw [List.mem_singleton.mp hgd, List.mem_singleton.mp hgd']
  · intro gd hgd n d' hn _ _
    cases n with
    | zero => rfl
    | succ n => exact absurd hn (by simp)

/-- A volume with a serial number, at a place the guest does not report. -/
def serialVolume : XmlDisk where
  device := "disk"
  serial := "0123"
  targetBus := "virtio"
  aliasName := "ua-logs"
  address := { type := "ccw" }

/-- A drive with that serial number. -/
def driveOne : GuestDisk where
  driveIndex := 1
  serial := "0123"
  location := { controller := ⟨0, 0, 9, 0⟩, bus := 0, target := 0, unit := 0 }

/-- Both volumes, and the controller of the second. -/
def twoVolumes : Qmp.XmlDomain :=
  ⟨[serialVolume, sataVolume "0"], [controllerAt "sata" "0" "0x02"]⟩

theorem eligible_sataVolume : Eligible (sataVolume "0") "data" := ⟨rfl, by decide, by decide⟩

theorem eligible_serialVolume : Eligible serialVolume "logs" := ⟨rfl, by decide, by decide⟩

/-- The first drive is the second volume, and the other way round. -/
theorem truthful_twoVolumes :
    Truthful twoVolumes [driveZero, driveOne] fun gd =>
      if gd.driveIndex = 0 then some 1 else some 0 := by
  refine ⟨?_, ?_⟩
  · intro gd hgd gd' hgd' n hn hn'
    simp only [List.mem_cons, List.not_mem_nil, or_false] at hgd hgd'
    rcases hgd with rfl | rfl <;> rcases hgd' with rfl | rfl
    · rfl
    · exact absurd (hn.trans hn'.symm) (by decide)
    · exact absurd (hn.trans hn'.symm) (by decide)
    · rfl
  · -- Neither drive seems to be the disk of the other.
    intro gd hgd n d hn _ hmatch
    simp only [List.mem_cons, List.not_mem_nil, or_false] at hgd
    unfold Matches Located SameSerial at hmatch
    rcases n with _ | _ | n
    · rw [← Option.some.inj hn] at hmatch
      rcases hgd with rfl | rfl
      · exact absurd hmatch (by decide +kernel)
      · rfl
    · rw [← Option.some.inj hn] at hmatch
      rcases hgd with rfl | rfl
      · rfl
      · exact absurd hmatch (by decide +kernel)
    · exact absurd hn (by simp [twoVolumes])

theorem distinctAliases_twoVolumes : DistinctAliases twoVolumes := by
  intro n n' d d' volName hn hn' h h'
  rcases n with _ | _ | n <;> rcases n' with _ | _ | n'
  · rfl
  · rw [← Option.some.inj hn] at h
    rw [← Option.some.inj hn'] at h'
    exact absurd ((eligible_serialVolume.unique h).trans (h'.unique eligible_sataVolume))
      (by decide)
  · exact absurd hn' (by simp [twoVolumes])
  · rw [← Option.some.inj hn] at h
    rw [← Option.some.inj hn'] at h'
    exact absurd ((eligible_serialVolume.unique h').trans (h.unique eligible_sataVolume))
      (by decide)
  · rfl
  · exact absurd hn' (by simp [twoVolumes])
  · exact absurd hn (by simp [twoVolumes])
  · exact absurd hn (by simp [twoVolumes])
  · exact absurd hn (by simp [twoVolumes])

/-- Of two volumes one is found by its location and the other by its serial
    number. -/
theorem sata_volume_labelled :
    ∃ m, buildDiskMapping
        (.ok ⟨[serialVolume, sataVolume "0"], [controllerAt "sata" "0" "0x02"]⟩)
        [driveZero, driveOne] = .ok m ∧
      m 0 = some "data" ∧ m 1 = some "logs" ∧
      ∀ i i' volName, m i = some volName → m i' = some volName → i = i' := by
  have hlocated : Located twoVolumes driveZero (sataVolume "0") := by
    unfold Located
    decide +kernel
  rcases disk_labels_correct _ _ _ (by decide) (by decide) truthful_twoVolumes with
    ⟨m, hm, hlabel, hone, _⟩
  refine ⟨m, hm, (hlabel 0 "data").mpr ?_, (hlabel 1 "logs").mpr ?_,
    hone distinctAliases_twoVolumes⟩
  · exact ⟨driveZero, List.mem_cons_self, rfl, 1, sataVolume "0", rfl, rfl, eligible_sataVolume,
      .inl hlocated⟩
  · exact ⟨driveOne, List.mem_cons_of_mem _ List.mem_cons_self, rfl, 0, serialVolume, rfl, rfl,
      eligible_serialVolume, .inr ⟨by decide, rfl⟩⟩

/-- Controllers of different type and index can have one key. Then it depends on
    their order where a disk is thought to be. And a disk whose alias is `ua-`
    and nothing more is not mapped to the volume without a name, although a
    drive is at its place. -/
theorem colliding_controllers :
    (let first := controllerAt "sata" "0:1" "0x01"
    let second := controllerAt "sata:0" "1" "0x02"
    ([first, second].map fun ctrl => (ctrl.type, ctrl.index)).Nodup ∧
    Truthful ⟨[sataVolume "0:1"], [first, second]⟩ [driveZero] (fun _ => some 0) ∧
    buildDiskMapping (.ok ⟨[sataVolume "0:1"], [first, second]⟩) [driveZero]
      ≠ buildDiskMapping (.ok ⟨[sataVolume "0:1"], [second, first]⟩) [driveZero]) ∧
    let bare : XmlDisk := { sataVolume "0" with aliasName := "ua-" }
    let dom : XmlDomain := ⟨[bare], [controllerAt "sata" "0" "0x02"]⟩
    bare.device = "disk" ∧ bare.aliasName = "ua-" ++ "" ∧ Located dom driveZero bare ∧
    ∃ m, buildDiskMapping (.ok dom) [driveZero] = .ok m ∧ m 0 ≠ some "" := by
  refine ⟨⟨by decide, truthful_single _ _, ?_⟩, rfl, by decide, ?_, ?_⟩
  · intro hc
    rw [buildDiskMapping_eq, buildDiskMapping_eq, Except.ok.injEq] at hc
    exact absurd (congrFun hc 0) (by decide +kernel)
  · unfold Located
    decide +kernel
  · exact ⟨_, buildDiskMapping_eq _ _, by decide +kernel⟩

end Qga

end LatencyExporter
