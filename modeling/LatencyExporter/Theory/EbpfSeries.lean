import LatencyExporter.Core.Ebpf.Collector
import LatencyExporter.Theory.DeviceNumbers
import LatencyExporter.Lib.Tagged
import Mathlib.Data.List.GetD
import Mathlib.Data.List.Nodup

/-!
# Series of the eBPF Collector

Whether `Collect` can emit one series twice. A histogram belongs to a device
number and an operation. The series of a device that does not resolve carries
its number, and so does nothing else; the series of a device that does resolve
carries the namespace, the claim and the pod instead. Two device numbers that
resolve to the same three get the same series, and this is the only way to a
duplicate (`collect_series_distinct_iff`).

It happens when two file systems are mounted over each other at the mount point
of a volume: both mounts are listed, with different device numbers, and the
table gets an entry for each.

## Main definitions

* `seriesOf`: The series of the emitted metrics.
* `Attributed`: A histogram is exported under a pod and a claim.
* `volumeLabels`: The labels that name the volume.
* `NoSharedVolume`: No two devices are exported under the same volume.
* `singleHost`, `stackedHost`: Hosts with one mount and with two mounts at the
  mount point of a volume.

## Theorems

* `opLabel_injective`: The label of an operation determines it.
* `podSeries_inj`: When two pod series are the same.
* `nfsMetric_series`, `blockMetric_series`: What is exported.
* `nfsSeries_nodup_iff`, `blockSeries_nodup_iff`: The series of one map.
* `collect_series_distinct_iff`: When the emitted series are distinct.
* `one_mount_distinct`, `stacked_mounts_duplicate`: A host with one mount, and
  one with two mounts over each other.
-/

namespace LatencyExporter

namespace Ebpf

open Bpf Device Tagged

/-- The series of the metrics a collector emits. -/
def seriesOf (c : Collector) : List Series := (collect c).map Metric.series

/-- A histogram is exported under the pod and the claim of its device: its
    operation is in range, it has samples, and the device resolves to an
    allowed namespace. -/
def Attributed (c : Collector) (maxOp : UInt8) (entry : HistEntry) (info : DeviceInfo) : Prop :=
  entry.key.op ≤ maxOp ∧ (slotsToConstHistogram entry.slots c.buckets).count ≠ 0 ∧
    c.resolver.lookup entry.key.dev = some info ∧ namespaceAllowed c info.ns = true

/-- The labels that name the volume of a device. -/
def volumeLabels (info : DeviceInfo) : String × String × String :=
  (info.ns, info.pvcName, info.podName)

/-- No two devices are exported under the same volume for one operation. -/
def NoSharedVolume (c : Collector) (maxOp : UInt8) (hists : List HistEntry) : Prop :=
  ∀ entry ∈ hists, ∀ entry' ∈ hists, entry.key.dev ≠ entry'.key.dev →
    entry.key.op = entry'.key.op → ∀ info info', Attributed c maxOp entry info →
      Attributed c maxOp entry' info' → volumeLabels info ≠ volumeLabels info'

/-- The label of an operation determines it. -/
theorem opLabel_injective (labels : List String) (hlen : labels.length = 4)
    (hnodup : labels.Nodup) (op op' : UInt8) (hop : op ≤ 3) (hop' : op' ≤ 3)
    (heq : labels.getD op.toNat "" = labels.getD op'.toNat "") : op = op' := by
  have hlt : op.toNat < labels.length := by
    rw [hlen]
    exact Nat.lt_succ_of_le (UInt8.le_iff_toNat_le.mp hop)
  have hlt' : op'.toNat < labels.length := by
    rw [hlen]
    exact Nat.lt_succ_of_le (UInt8.le_iff_toNat_le.mp hop')
  rw [List.getD_eq_getElem _ _ hlt, List.getD_eq_getElem _ _ hlt'] at heq
  exact UInt8.toNat_inj.mp ((List.Nodup.getElem_inj_iff hnodup).mp heq)

/-- The series of a histogram that is exported under a volume. -/
def podSeries (c : Collector) (name : String) (labels : List String) (op : UInt8)
    (info : DeviceInfo) : Series :=
  ⟨name, [c.nodeName, info.ns, info.pvcName, info.podName, labels.getD op.toNat ""]⟩

/-- The node is the same, so the volume and the operation tell pod series apart. -/
theorem podSeries_inj (c : Collector) (name : String) (labels : List String) (op op' : UInt8)
    (info info' : DeviceInfo) :
    podSeries c name labels op info = podSeries c name labels op' info'
      ↔ volumeLabels info = volumeLabels info' ∧
        labels.getD op.toNat "" = labels.getD op'.toNat "" := by
  simp only [podSeries, volumeLabels, Series.mk.injEq, List.cons.injEq, Prod.mk.injEq, true_and,
    and_true, and_assoc]

/-- A histogram of an NFS map is exported under its volume or not at all. -/
theorem nfsMetric_series (maxOp : UInt8) (name : String) (labels : List String) (c : Collector)
    (entry : HistEntry) (s : Series) :
    (nfsMetric maxOp name labels c entry).map Metric.series = some s
      ↔ ∃ info, Attributed c maxOp entry info ∧ s = podSeries c name labels entry.key.op info := by
  unfold nfsMetric Attributed
  -- The checks of the source, one after the other.
  by_cases hop : entry.key.op > maxOp
  · simp [hop, UInt8.not_le.mpr hop]
  · by_cases hcount : (slotsToConstHistogram entry.slots c.buckets).count = 0
    · simp [hop, hcount]
    · simp only [hop, hcount, if_false]
      cases c.resolver.lookup entry.key.dev with
      | none => simp
      | some info =>
          by_cases hns : namespaceAllowed c info.ns = true
          · simp only [if_pos hns, Option.map_some, Option.some.injEq]
            constructor
            · intro heq
              exact ⟨info, ⟨UInt8.not_lt.mp hop, hcount, rfl, hns⟩, heq.symm⟩
            · -- A device has one entry in the table.
              intro ⟨info', ⟨_, _, hinfo, _⟩, heq⟩
              rw [heq, ← hinfo]
              rfl
          · simp only [if_neg hns, Option.map_none, reduceCtorEq, false_iff]
            intro ⟨info', ⟨_, _, hinfo, hns'⟩, _⟩
            rw [← Option.some.inj hinfo] at hns'
            exact hns hns'

/-- A block histogram whose device does not resolve is exported under the device
    number. -/
theorem blockMetric_series (c : Collector) (entry : HistEntry) (s : Series) :
    (blockMetric c entry).map Metric.series = some s
      ↔ (∃ info, Attributed c 3 entry info ∧
          s = podSeries c "kme_block_io_latency_seconds" opLabels entry.key.op info) ∨
        (entry.key.op ≤ 3 ∧ (slotsToConstHistogram entry.slots c.buckets).count ≠ 0 ∧
          c.resolver.lookup entry.key.dev = none ∧
          s = ⟨"kme_system_block_io_latency_seconds",
            [c.nodeName, devToString entry.key.dev, opLabels.getD entry.key.op.toNat ""]⟩) := by
  cases hlookup : c.resolver.lookup entry.key.dev with
  | some info =>
      -- A device that resolves is treated like one of the NFS maps.
      have hpod : blockMetric c entry
          = nfsMetric 3 "kme_block_io_latency_seconds" opLabels c entry := by
        unfold blockMetric nfsMetric
        rw [hlookup]
      rw [hpod, nfsMetric_series]
      simp only [reduceCtorEq, false_and, and_false, or_false]
  | none =>
      have hnone : ∀ info, ¬ Attributed c 3 entry info := by
        intro info hatt
        rw [Attributed, hlookup] at hatt
        exact absurd hatt.2.2.1 (by simp only [reduceCtorEq, not_false_eq_true])
      simp only [hnone, false_and, exists_false, false_or, true_and]
      unfold blockMetric
      by_cases hop : entry.key.op > 3
      · simp [hop, UInt8.not_le.mpr hop]
      · by_cases hcount : (slotsToConstHistogram entry.slots c.buckets).count = 0
        · simp [hop, hcount]
        · simp only [hop, hcount, if_false, hlookup, Option.map_some, Option.some.injEq]
          constructor
          · intro heq
            exact ⟨UInt8.not_lt.mp hop, hcount, heq.symm⟩
          · intro ⟨_, _, heq⟩
            exact heq.symm

section Map

variable (c : Collector) (hists : List HistEntry) (hkeys : (hists.map HistEntry.key).Nodup)

/-- Two histograms with one pod series break the condition: the label of the
    operation determines the operation, so the devices differ. -/
theorem shared_of_podSeries (maxOp : UInt8) (hmax : maxOp ≤ 3) (name : String)
    (labels : List String) (hlen : labels.length = 4) (hnodup : labels.Nodup)
    (hno : NoSharedVolume c maxOp hists) (entry entry' : HistEntry) (hentry : entry ∈ hists)
    (hentry' : entry' ∈ hists) (hne : entry.key ≠ entry'.key) (info info' : DeviceInfo)
    (hatt : Attributed c maxOp entry info) (hatt' : Attributed c maxOp entry' info') :
    podSeries c name labels entry.key.op info ≠ podSeries c name labels entry'.key.op info' := by
  intro heq
  rcases (podSeries_inj c name labels _ _ info info').mp heq with ⟨hvol, hlabel⟩
  have hop : entry.key.op = entry'.key.op :=
    opLabel_injective labels hlen hnodup _ _ (UInt8.le_trans hatt.1 hmax)
      (UInt8.le_trans hatt'.1 hmax) hlabel
  have hdev : entry.key.dev ≠ entry'.key.dev := fun hdev => hne (HistKey.ext hdev hop)
  exact hno entry hentry entry' hentry' hdev hop info info' hatt hatt' hvol

/-- A map whose attributed histograms get their pod series has to keep the
    volumes apart for its series to be distinct. -/
theorem noSharedVolume_of_distinct (maxOp : UInt8) (name : String) (labels : List String)
    (series : HistEntry → Option Series)
    (hseries : ∀ entry info, Attributed c maxOp entry info →
      series entry = some (podSeries c name labels entry.key.op info))
    (hdistinct : ∀ entry ∈ hists, ∀ entry' ∈ hists, entry.key ≠ entry'.key →
      ∀ s, series entry = some s → series entry' ≠ some s) :
    NoSharedVolume c maxOp hists := by
  intro entry hentry entry' hentry' hdev hop info info' hatt hatt' hvol
  have hne : entry.key ≠ entry'.key := fun heq => hdev (congrArg HistKey.dev heq)
  have hsame : podSeries c name labels entry.key.op info
      = podSeries c name labels entry'.key.op info' :=
    (podSeries_inj c name labels _ _ info info').mpr ⟨hvol, by rw [hop]⟩
  refine hdistinct entry hentry entry' hentry' hne _ (hseries entry info hatt) ?_
  rw [hsame]
  exact hseries entry' info' hatt'

include hkeys in
/-- The series of an NFS map. -/
theorem nfsSeries_nodup_iff (maxOp : UInt8) (hmax : maxOp ≤ 3) (name : String)
    (labels : List String) (hlen : labels.length = 4) (hnodup : labels.Nodup) :
    ((hists.filterMap (nfsMetric maxOp name labels c)).map Metric.series).Nodup
      ↔ NoSharedVolume c maxOp hists := by
  rw [List.map_filterMap, nodup_filterMap_iff hists _ HistEntry.key hkeys]
  constructor
  · refine noSharedVolume_of_distinct c hists maxOp name labels _ fun entry info hatt => ?_
    exact (nfsMetric_series maxOp name labels c entry _).mpr ⟨info, hatt, rfl⟩
  · intro h entry hentry entry' hentry' hne s hs hs'
    rcases (nfsMetric_series maxOp name labels c entry s).mp hs with ⟨info, hatt, hpod⟩
    rcases (nfsMetric_series maxOp name labels c entry' s).mp hs' with ⟨info', hatt', hpod'⟩
    exact shared_of_podSeries c hists maxOp hmax name labels hlen hnodup h entry entry' hentry
      hentry' hne info info' hatt hatt' (hpod.symm.trans hpod')

include hkeys in
/-- The series of the block map, of which there are two kinds. -/
theorem blockSeries_nodup_iff :
    ((collectBlock c hists).map Metric.series).Nodup ↔ NoSharedVolume c 3 hists := by
  unfold collectBlock
  rw [List.map_filterMap, nodup_filterMap_iff hists _ HistEntry.key hkeys]
  constructor
  · refine noSharedVolume_of_distinct c hists 3 "kme_block_io_latency_seconds" opLabels _
      fun entry info hatt => ?_
    exact (blockMetric_series c entry _).mpr (.inl ⟨info, hatt, rfl⟩)
  · intro h entry hentry entry' hentry' hne s hs hs'
    rcases (blockMetric_series c entry s).mp hs with ⟨info, hatt, hpod⟩ | ⟨hop, _, _, hsys⟩
    · rcases (blockMetric_series c entry' s).mp hs' with ⟨info', hatt', hpod'⟩ | ⟨_, _, _, hsys'⟩
      · exact shared_of_podSeries c hists 3 (UInt8.le_refl 3) _ opLabels rfl (by decide) h entry
          entry' hentry hentry' hne info info' hatt hatt' (hpod.symm.trans hpod')
      · -- A pod series and a system series have different names.
        rw [hsys', podSeries] at hpod
        simp at hpod
    · rcases (blockMetric_series c entry' s).mp hs' with ⟨_, _, hpod'⟩ | ⟨hop', _, _, hsys'⟩
      · rw [hsys, podSeries] at hpod'
        simp at hpod'
      · -- Two devices under their numbers: the text is enough to tell them apart.
        rw [hsys] at hsys'
        simp only [Series.mk.injEq, List.cons.injEq, true_and, and_true] at hsys'
        exact hne (HistKey.ext (devToString_injective hsys'.1)
          (opLabel_injective opLabels rfl (by decide) _ _ hop hop' hsys'.2))

end Map

/-- Every series of a map has the name, or one of the two names, of the map. -/
theorem collect_names (c : Collector) (hists : List HistEntry) :
    (∀ s ∈ (collectBlock c hists).map Metric.series, s.name = "kme_block_io_latency_seconds" ∨
      s.name = "kme_system_block_io_latency_seconds") ∧
    (∀ s ∈ (collectNFS c hists).map Metric.series, s.name = "kme_nfs_io_latency_seconds") ∧
    ∀ s ∈ (collectNFSKprobe c hists).map Metric.series, s.name = "kme_nfs_vfs_latency_seconds" := by
  -- A series comes from an entry, by one of the three rounds.
  have hround : ∀ (f : HistEntry → Option (Metric MetricValue)) (s : Series),
      s ∈ (hists.filterMap f).map Metric.series →
      ∃ entry, (f entry).map Metric.series = some s := by
    intro f s hs
    rw [List.map_filterMap] at hs
    rcases List.mem_filterMap.mp hs with ⟨entry, _, hentry⟩
    exact ⟨entry, hentry⟩
  refine ⟨?_, ?_, ?_⟩
  · intro s hs
    rcases hround _ s hs with ⟨entry, hentry⟩
    rcases (blockMetric_series c entry s).mp hentry with ⟨info, _, rfl⟩ | ⟨_, _, _, rfl⟩
    · exact .inl rfl
    · exact .inr rfl
  · intro s hs
    rcases hround _ s hs with ⟨entry, hentry⟩
    rcases (nfsMetric_series _ _ _ c entry s).mp hentry with ⟨info, _, rfl⟩
    rfl
  · intro s hs
    rcases hround _ s hs with ⟨entry, hentry⟩
    rcases (nfsMetric_series _ _ _ c entry s).mp hentry with ⟨info, _, rfl⟩
    rfl

/-- The entries of a map, none when it is not loaded. -/
def entries (hists : Option (List HistEntry)) : List HistEntry := hists.getD []

/-- The parts of a scrape, empty for a map that is not loaded. -/
theorem seriesOf_eq (c : Collector) :
    seriesOf c = (collectSubsystemGauge c).map Metric.series ++
      ((collectBlock c (entries c.programs.blockHists)).map Metric.series ++
      ((collectNFS c (entries c.programs.nfsHists)).map Metric.series ++
      (collectNFSKprobe c (entries c.programs.nfsKprobeHists)).map Metric.series)) := by
  unfold seriesOf collect
  rw [List.map_append, List.map_append, List.map_append]
  cases c.programs.blockHists <;> cases c.programs.nfsHists <;>
    cases c.programs.nfsKprobeHists <;> rfl

/-- If every map has a key once, the emitted series are distinct if and only if
    no two devices of a map resolve to one volume of one pod and have samples of
    one operation. -/
theorem collect_series_distinct_iff (c : Collector)
    (hblock : ((entries c.programs.blockHists).map HistEntry.key).Nodup)
    (hnfs : ((entries c.programs.nfsHists).map HistEntry.key).Nodup)
    (hkprobe : ((entries c.programs.nfsKprobeHists).map HistEntry.key).Nodup) :
    (seriesOf c).Nodup
      ↔ NoSharedVolume c 3 (entries c.programs.blockHists) ∧
        NoSharedVolume c 1 (entries c.programs.nfsHists) ∧
        NoSharedVolume c 3 (entries c.programs.nfsKprobeHists) := by
  have hB := blockSeries_nodup_iff c _ hblock
  have hN := nfsSeries_nodup_iff c _ hnfs 1 (by decide) "kme_nfs_io_latency_seconds" opLabels rfl
    (by decide)
  have hK := nfsSeries_nodup_iff c _ hkprobe 3 (by decide) "kme_nfs_vfs_latency_seconds"
    nfsVfsOpLabels rfl (by decide)
  have hgauge : ((collectSubsystemGauge c).map Metric.series).Nodup := by
    simp [collectSubsystemGauge, subsystemMetric]
  have hgname : ∀ s ∈ (collectSubsystemGauge c).map Metric.series,
      s.name = "kme_subsystem_active" := by
    simp [collectSubsystemGauge, subsystemMetric]
  have hBname := (collect_names c (entries c.programs.blockHists)).1
  have hNname := (collect_names c (entries c.programs.nfsHists)).2.1
  have hKname := (collect_names c (entries c.programs.nfsKprobeHists)).2.2
  -- The four parts have different names; split them off one at a time.
  rw [seriesOf_eq, nodup_append_iff_of_apart (fun s => s.name = "kme_subsystem_active") _ _ hgname,
    nodup_append_iff_of_apart (fun s => s.name = "kme_block_io_latency_seconds" ∨
      s.name = "kme_system_block_io_latency_seconds") _ _ hBname,
    nodup_append_iff_of_apart (fun s => s.name = "kme_nfs_io_latency_seconds") _ _ hNname,
    and_iff_right hgauge, hB]
  · unfold collectNFS collectNFSKprobe
    rw [hN, hK]
  · intro s hs
    rw [hKname s hs]
    decide
  · intro s hs
    rcases List.mem_append.mp hs with hs | hs
    · rw [hNname s hs]
      decide
    · rw [hKname s hs]
      decide
  · intro s hs
    rcases List.mem_append.mp hs with hs | hs
    · rcases hBname s hs with hname | hname <;> rw [hname] <;> decide
    · rcases List.mem_append.mp hs with hs | hs
      · rw [hNname s hs]
        decide
      · rw [hKname s hs]
        decide

/-- The line of a file system mounted for the volume `pv` of a pod. -/
def mountLine (dev source : String) : String :=
  "30 1 " ++ dev ++ " / /pods/0a1b2c3d-0000-1111-2222-0123456789ab/volumes/csi/pv/mount rw - ext4 "
    ++ source ++ " rw\n"

/-- A host with the given mounts and the pod. -/
def hostWith (mountinfo : String) : Host where
  readFile path := if path = "/proc/1/mountinfo" then some mountinfo.toList else none
  stat _ := none
  podStore := some [⟨"0a1b2c3d-0000-1111-2222-0123456789ab", "virt-launcher-vm", "default"⟩]
  pvcByPV := none

/-- One file system at the mount point of the volume. -/
def singleHost : Host := hostWith (mountLine "8:0" "/dev/sda")

/-- Two file systems mounted over each other. -/
def stackedHost : Host := hostWith (mountLine "8:0" "/dev/sda" ++ mountLine "8:16" "/dev/sdb")

/-- A block map with samples of reads of two devices. -/
def twoDevices : List HistEntry :=
  [⟨⟨mkDev 8 0, 0⟩, fun _ => 1⟩, ⟨⟨mkDev 8 16, 0⟩, fun _ => 1⟩]

/-- The collector after a scan of the host. -/
def collectorOn (host : Host) : Collector where
  programs :=
    { blockActive := true, nfsActive := false, nfsKprobeActive := false,
      blockHists := some twoDevices, nfsHists := none, nfsKprobeHists := none }
  resolver := scan ⟨fun _ => none, "node", "/proc"⟩ host
  nodeName := "node"
  buckets := []
  namespaces := []

/-- The other device has no claim and is exported under its number. -/
theorem one_mount_distinct : (seriesOf (collectorOn singleHost)).Nodup := by
  have hempty : ∀ maxOp, NoSharedVolume (collectorOn singleHost) maxOp [] :=
    fun _ entry hentry => absurd hentry List.not_mem_nil
  refine (collect_series_distinct_iff (collectorOn singleHost) (by decide +kernel)
    (by decide +kernel) (by decide +kernel)).mpr ⟨?_, hempty 1, hempty 3⟩
  -- Only one of the two devices resolves.
  have hnone : (collectorOn singleHost).resolver.lookup (mkDev 8 16) = none := by decide +kernel
  have hdev : ∀ entry ∈ twoDevices, ∀ info, Attributed (collectorOn singleHost) 3 entry info →
      entry.key.dev = mkDev 8 0 := by
    intro entry hentry info hatt
    simp only [twoDevices, List.mem_cons, List.not_mem_nil, or_false] at hentry
    rcases hentry with rfl | rfl
    · rfl
    · have hlookup := hatt.2.2.1
      rw [hnone] at hlookup
      exact absurd hlookup (by simp only [reduceCtorEq, not_false_eq_true])
  intro entry hentry entry' hentry' hne _ info info' hatt hatt'
  exact absurd ((hdev entry hentry info hatt).trans (hdev entry' hentry' info' hatt').symm) hne

/-- Both devices resolve to the claim, so their reads are one series. -/
theorem stacked_mounts_duplicate :
    ((entries (collectorOn stackedHost).programs.blockHists).map HistEntry.key).Nodup ∧
      ¬ (seriesOf (collectorOn stackedHost)).Nodup := by
  decide +kernel

end Ebpf

end LatencyExporter
