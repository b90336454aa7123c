import LatencyExporter.Core.Device.Resolver
import LatencyExporter.Lib.Overwrite
import LatencyExporter.Lib.Paths

/-!
# Device Attribution and the Order of Mounts

A scan goes through the mounts in the order of `mountinfo` and enters each
under its device number. The table has one place for a device, so of several
mounts of one device the last decides to which pod and claim the device
belongs.

That matters only where the mounts of a device belong to different pods or
claims: a volume that two pods of the node use, or an NFS export that is one
superblock for many mounts. For any other device the order of the lines makes
no difference, and whether a device is found at all never depends on it. For a
device whose mounts disagree there is always an order that changes the
attribution (`attribution_order_independent_iff`), unless a line is too long
for the scanner, in which case the scan fails in every order.

## Main definitions

* `attribution`: What a series takes from the table.
* `withMountinfo`: A host with given mounts.
* `attributed`: The attribution of a device after a scan.
* `resolveLine`: What a line enters into the table.
* `TooLong`, `Unambiguous`: When a scan fails, and when the lines of a device
  agree.

## Theorems

* `scan_of_error`, `lookup_scan`: A scan by the mounts.
* `attributed_eq`: A scan by the lines.
* `exists_contents`: Every order of the lines is that of some contents.
* `attribution_order_independent_iff`: When the order makes no difference.
* `shared_export_order`: Two pods that mount one NFS export.
-/

namespace LatencyExporter

namespace Device

open Overwrite

/-- The namespace, the pod and the claim of an entry. -/
def attribution (info : DeviceInfo) : String × String × String :=
  (info.ns, info.podName, info.pvcName)

/-- The host with the given contents of `mountinfo`. -/
def withMountinfo (r : Resolver) (host : Host) (contents : List Char) : Host :=
  { host with
    readFile := Function.update host.readFile (r.procPath ++ "/1/mountinfo") (some contents) }

/-- What `Lookup` says about a device after a scan. -/
def attributed (r : Resolver) (host : Host) (contents : List Char) (dev : UInt32) :
    Option (String × String × String) :=
  ((scan r (withMountinfo r host contents)).lookup dev).map attribution

/-- What a line enters into the table. -/
def resolveLine (r : Resolver) (host : Host) (line : List Char) : Option (UInt32 × DeviceInfo) :=
  (parseMountInfoLine (dropCR line)).toOption.bind (resolveMount r host (podMetaMap host))

/-- Some line does not fit into the buffer of the scanner. -/
def TooLong (contents : List Char) : Prop :=
  ∃ line ∈ contents.splitOn '\n', maxScanTokenSize ≤ byteSize line

/-- The lines of a device agree on its namespace, pod and claim. -/
def Unambiguous (r : Resolver) (host : Host) (contents : List Char) (dev : UInt32) : Prop :=
  ∀ line ∈ contents.splitOn '\n', ∀ line' ∈ contents.splitOn '\n', ∀ info info',
    resolveLine r host line = some (dev, info) → resolveLine r host line' = some (dev, info') →
    attribution info = attribution info'

theorem scanLines_eq (contents : List Char) :
    (TooLong contents → scanLines contents = .error .tokenTooLong) ∧
    (¬ TooLong contents → scanLines contents = .ok ((contents.splitOn '\n').map dropCR)) := by
  have hall : ((contents.splitOn '\n').all fun line => byteSize line < maxScanTokenSize)
      ↔ ¬ TooLong contents := by
    simp only [TooLong, List.all_eq_true, decide_eq_true_eq, not_exists, not_and, not_le]
  refine ⟨fun hlong => ?_, fun hshort => ?_⟩
  · exact if_neg fun hc => hall.mp hc hlong
  · exact if_pos (hall.mpr hshort)

theorem parseMountInfo_some (contents : List Char) :
    parseMountInfo (some contents) = (scanLines contents).map fun lines =>
      lines.filterMap fun line => (parseMountInfoLine line).toOption := by
  change (scanLines contents).bind _ = _
  cases scanLines contents with
  | error err => rfl
  | ok lines => rfl

/-- A scan that cannot read the mounts changes nothing. -/
theorem scan_of_error (r : Resolver) (host : Host) (err : FileError)
    (hparse : parseMountInfo (host.readFile (r.procPath ++ "/1/mountinfo")) = .error err) :
    scan r host = r := by
  simp only [scan, hparse]

/-- Any other scan overwrites an empty table mount by mount. -/
theorem lookup_scan (r : Resolver) (host : Host) (mounts : List MountEntry)
    (hparse : parseMountInfo (host.readFile (r.procPath ++ "/1/mountinfo")) = .ok mounts) :
    (scan r host).lookup
      = overwrite (mounts.filterMap (resolveMount r host (podMetaMap host))) := by
  simp only [scan, hparse]
  rfl

/-- A scan that fails leaves the table as it was; any other overwrites an empty
    table line by line. -/
theorem attributed_eq (r : Resolver) (host : Host) (contents : List Char) (dev : UInt32) :
    (TooLong contents → attributed r host contents dev = (r.lookup dev).map attribution) ∧
    (¬ TooLong contents → attributed r host contents dev
      = (overwrite ((contents.splitOn '\n').filterMap (resolveLine r host)) dev).map
          attribution) := by
  have hfile : (withMountinfo r host contents).readFile (r.procPath ++ "/1/mountinfo")
      = some contents := Function.update_self ..
  refine ⟨fun hlong => ?_, fun hshort => ?_⟩
  · have hparse := parseMountInfo_some contents
    rw [(scanLines_eq contents).1 hlong, ← hfile] at hparse
    rw [attributed, scan_of_error r _ _ hparse]
  · have hparse := parseMountInfo_some contents
    rw [(scanLines_eq contents).2 hshort, ← hfile] at hparse
    -- Parsing and resolving in two passes is resolving line by line.
    have hentries : (((contents.splitOn '\n').map dropCR).filterMap
          fun line => (parseMountInfoLine line).toOption).filterMap
          (resolveMount r host (podMetaMap host))
        = (contents.splitOn '\n').filterMap (resolveLine r host) := by
      rw [List.filterMap_filterMap, List.filterMap_map]
      rfl
    rw [← hentries, attributed, lookup_scan r _ _ hparse]
    rfl

/-- Every order of the lines of some contents is that of other contents. -/
theorem exists_contents (contents : List Char) (lines : List (List Char))
    (hperm : lines.Perm (contents.splitOn '\n')) :
    ∃ contents' : List Char, contents'.splitOn '\n' = lines := by
  -- The lines have no newline in them, so they are split where they were joined.
  refine ⟨['\n'].intercalate lines, List.splitOn_intercalate '\n' ?_ ?_⟩
  · intro line hline
    exact Paths.not_mem_of_mem_splitOn '\n' contents line (hperm.mem_iff.mp hline)
  · intro hnil
    rw [hnil] at hperm
    exact List.splitOn_ne_nil '\n' contents hperm.symm.eq_nil

theorem tooLong_perm (contents contents' : List Char)
    (hperm : (contents'.splitOn '\n').Perm (contents.splitOn '\n')) :
    TooLong contents' ↔ TooLong contents := by
  unfold TooLong
  simp only [hperm.mem_iff]

/-- Any line of a device can be made to decide by putting it last. -/
theorem exists_order (r : Resolver) (host : Host) (contents : List Char) (dev : UInt32)
    (hshort : ¬ TooLong contents) (line : List Char) (hline : line ∈ contents.splitOn '\n')
    (info : DeviceInfo) (hresolve : resolveLine r host line = some (dev, info)) :
    ∃ contents' : List Char, (contents'.splitOn '\n').Perm (contents.splitOn '\n') ∧
      attributed r host contents' dev = some (attribution info) := by
  have hperm : ((contents.splitOn '\n').erase line ++ [line]).Perm (contents.splitOn '\n') :=
    (List.perm_append_singleton line _).trans (List.perm_cons_erase hline).symm
  rcases exists_contents contents _ hperm with ⟨contents', hcontents'⟩
  rw [← hcontents'] at hperm
  refine ⟨contents', hperm, ?_⟩
  rw [(attributed_eq r host contents' dev).2
    (fun hc => hshort ((tooLong_perm contents contents' hperm).mp hc)), hcontents',
    List.filterMap_append, List.filterMap_cons_some hresolve, List.filterMap_nil,
    overwrite_last, Option.map_some]

/-- Which devices a scan finds does not depend on the order of the mounts. The
    namespace, the pod and the claim of a device do not either exactly if the
    lines of the device agree on them, or a line makes every scan fail. -/
theorem attribution_order_independent_iff (r : Resolver) (host : Host) (contents : List Char)
    (dev : UInt32) :
    (∀ contents' : List Char, (contents'.splitOn '\n').Perm (contents.splitOn '\n') →
      ((attributed r host contents' dev).isSome ↔ (attributed r host contents dev).isSome)) ∧
    ((∀ contents' : List Char, (contents'.splitOn '\n').Perm (contents.splitOn '\n') →
      attributed r host contents' dev = attributed r host contents dev) ↔
      TooLong contents ∨ Unambiguous r host contents dev) := by
  by_cases hlong : TooLong contents
  · -- The scan fails in every order.
    have hsame : ∀ contents' : List Char,
        (contents'.splitOn '\n').Perm (contents.splitOn '\n') →
        attributed r host contents' dev = attributed r host contents dev := by
      intro contents' hperm
      rw [(attributed_eq r host contents dev).1 hlong, (attributed_eq r host contents' dev).1
        ((tooLong_perm contents contents' hperm).mpr hlong)]
    exact ⟨fun contents' hperm => by rw [hsame contents' hperm],
      iff_of_true hsame (Or.inl hlong)⟩
  · have hshort' : ∀ contents' : List Char,
        (contents'.splitOn '\n').Perm (contents.splitOn '\n') → ¬ TooLong contents' :=
      fun contents' hperm hc => hlong ((tooLong_perm contents contents' hperm).mp hc)
    refine ⟨?_, ?_, ?_⟩
    · intro contents' hperm
      -- Whether a device is found depends on the set of lines only.
      rw [(attributed_eq r host contents dev).2 hlong,
        (attributed_eq r host contents' dev).2 (hshort' contents' hperm), Option.isSome_map,
        Option.isSome_map, isSome_overwrite_iff, isSome_overwrite_iff]
      simp only [(hperm.filterMap (resolveLine r host)).mem_iff]
    · -- Two lines that disagree can each be put last.
      intro hsame
      refine Or.inr fun line hline line' hline' info info' hres hres' => ?_
      rcases exists_order r host contents dev hlong line hline info hres with ⟨c, hc, hattr⟩
      rcases exists_order r host contents dev hlong line' hline' info' hres'
        with ⟨c', hc', hattr'⟩
      rw [hsame c hc] at hattr
      rw [hsame c' hc', hattr, Option.some.injEq] at hattr'
      exact hattr'
    · intro hagree contents' hperm
      have hunamb := hagree.resolve_left hlong
      rw [(attributed_eq r host contents dev).2 hlong,
        (attributed_eq r host contents' dev).2 (hshort' contents' hperm)]
      -- Lines that agree can overwrite each other in any order.
      refine map_overwrite_perm attribution _ _ (hperm.filterMap _) dev ?_
      intro info info' hmem hmem'
      rcases List.mem_filterMap.mp hmem with ⟨line, hline, hres⟩
      rcases List.mem_filterMap.mp hmem' with ⟨line', hline', hres'⟩
      exact hunamb line hline line' hline' info info' hres hres'

/-- The mount of an NFS export for a volume of a pod. -/
def exportLine (podUID : String) : List Char :=
  "50 1 0:60 / /pods/".toList ++ podUID.toList
    ++ "/volumes/csi/pv/mount rw - nfs4 server:/export rw".toList

/-- A host with two pods that use the volume. -/
def sharedHost : Host where
  readFile _ := none
  stat _ := none
  podStore := some
    [⟨"0a1b2c3d-0000-1111-2222-0123456789ab", "virt-launcher-a", "default"⟩,
      ⟨"0a1b2c3d-0000-1111-2222-0123456789cd", "virt-launcher-b", "default"⟩]
  pvcByPV := none

/-- The two mounts in one order and in the other. -/
def sharedMounts (first second : String) : List Char :=
  exportLine first ++ '\n' :: exportLine second

/-- Swapping two lines moves a device from one pod to the other. -/
theorem shared_export_order :
    ((sharedMounts "0a1b2c3d-0000-1111-2222-0123456789cd"
        "0a1b2c3d-0000-1111-2222-0123456789ab").splitOn '\n').Perm
      ((sharedMounts "0a1b2c3d-0000-1111-2222-0123456789ab"
        "0a1b2c3d-0000-1111-2222-0123456789cd").splitOn '\n') ∧
    attributed ⟨fun _ => none, "node", "/proc"⟩ sharedHost
        (sharedMounts "0a1b2c3d-0000-1111-2222-0123456789cd"
          "0a1b2c3d-0000-1111-2222-0123456789ab") (mkDev 0 60)
      = some ("default", "virt-launcher-a", "pv") ∧
    attributed ⟨fun _ => none, "node", "/proc"⟩ sharedHost
        (sharedMounts "0a1b2c3d-0000-1111-2222-0123456789ab"
          "0a1b2c3d-0000-1111-2222-0123456789cd") (mkDev 0 60)
      = some ("default", "virt-launcher-b", "pv") := by
  decide +kernel

end Device

end LatencyExporter
