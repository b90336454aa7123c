import LatencyExporter.Lib.Tagged
import LatencyExporter.Theory.Scrape
import LatencyExporter.Theory.Text
import Mathlib.Data.List.Nodup

/-!
# Series of the QMP Collector

Whether `Collect` can emit one series twice. A latency series names the disk
and the operation, and a queue series of a virtio-blk device the disk and the
queue, so these are told apart by the aliases. A queue series of a virtio-scsi
controller has an empty disk, an empty claim and the bus `scsi`; nothing in it
names the controller. Two controllers of one machine that both describe a
queue of the same number get the same series, and this is the only way to a
duplicate (`collect_series_nodup_iff`).

## Main definitions

* `seriesOf`: The series of the emitted metrics.
* `vqKey`: The labels of a queue within a machine.
* `blkDisks`: The disks of the virtio-blk devices.
* `NoSharedQueue`: No two controllers describe the same queue number.
* `ScrapeInput`: A connection and the answers it gets.
* `aliases`: The aliases of the accepted block devices.

## Theorems

* `collect_nodup_iff`: Duplicates come from the queues of one machine.
* `blkQueues_nodup`, `scsiQueues_nodup_iff`: The queues of the two kinds.
* `virtqueues_nodup_iff`: The queues of a scrape.
* `collect_series_nodup_iff`: When the emitted series are distinct.
* `one_controller_distinct`, `two_controllers_duplicate`: Machines with one
  and with two controllers.
-/

namespace LatencyExporter

namespace Qmp

open Tagged

/-- The series of the metrics a collector emits. -/
def seriesOf (c : Collector) : List Series := (collect c).map Metric.series

/-- The labels that tell the queues of one machine apart. -/
def vqKey (vq : VirtqueueResult) : String × String × Nat × String :=
  (vq.disk, vq.pvc, vq.queue, vq.bus)

/-- The namespace and the pod a series is labelled with. -/
def Series.pod (s : Series) : String × String := (s.labels.getD 0 "", s.labels.getD 3 "")

/-- The labels of a latency metric. The histogram is not one of them. -/
theorem latencyMetric_series (vmi : VMIResult) (dev : DeviceResult) (op : String)
    (hist : Option LatencyHist) (totalNs : UInt64) (m : Metric MetricValue)
    (hm : latencyMetric vmi dev op hist totalNs = some m) :
    m.series = ⟨"kubevirt_vmi_storage_io_latency_seconds",
      [vmi.ns, vmi.name, vmi.node, vmi.podName, dev.disk, dev.pvc, op]⟩ := by
  unfold latencyMetric at hm
  cases hist with
  | none => exact absurd hm (by simp only [reduceCtorEq, not_false_eq_true])
  | some hist =>
      simp only at hm
      split at hm
      · exact absurd hm (by simp only [reduceCtorEq, not_false_eq_true])
      · rw [Option.some.injEq] at hm
        rw [← hm]

/-- The series of a disk differ by their operation only. -/
theorem deviceMetrics_series (vmi : VMIResult) (dev : DeviceResult) (s : Series)
    (hs : s ∈ (deviceMetrics vmi dev).map Metric.series) :
    ∃ op, s = ⟨"kubevirt_vmi_storage_io_latency_seconds",
      [vmi.ns, vmi.name, vmi.node, vmi.podName, dev.disk, dev.pvc, op]⟩ := by
  rcases List.mem_map.mp hs with ⟨m, hm, rfl⟩
  rcases List.mem_filterMap.mp hm with ⟨⟨op, hist, totalNs⟩, _, hlat⟩
  exact ⟨op, latencyMetric_series vmi dev op hist totalNs m hlat⟩

/-- Reads, writes and flushes of a disk are told apart. -/
theorem deviceMetrics_nodup (vmi : VMIResult) (dev : DeviceResult) :
    ((deviceMetrics vmi dev).map Metric.series).Nodup := by
  unfold deviceMetrics
  rw [List.map_filterMap, List.filterMap_eq_flatMap_toList]
  -- The operation is one of the labels, and no two entries have the same.
  refine (nodup_flatMap_of_tags _ _ Prod.fst (fun s => s.labels.getD 6 "") ?_ ?_).mpr ?_
  · intro entry _ s hs
    rcases Option.map_eq_some_iff.mp (Option.mem_toList.mp hs) with ⟨m, hm, rfl⟩
    rw [latencyMetric_series vmi dev entry.1 entry.2.1 entry.2.2 m hm]
    rfl
  · simp
  · intro entry _
    exact Option.toList_nodup _

/-- The two series of a queue have the same labels and different names. -/
theorem virtqueueMetrics_series (vmi : VMIResult) (vq : VirtqueueResult) (s : Series)
    (hs : s ∈ (virtqueueMetrics vmi vq).map Metric.series) :
    (s.name = "kubevirt_vmi_storage_queue_inuse" ∨ s.name = "kubevirt_vmi_storage_queue_size") ∧
      s.labels = [vmi.ns, vmi.name, vmi.node, vmi.podName, vq.disk, vq.pvc, vq.queue.repr,
        vq.bus] := by
  simp only [virtqueueMetrics, List.map_cons, List.map_nil, List.mem_cons, List.not_mem_nil,
    or_false] at hs
  rcases hs with rfl | rfl
  · exact ⟨.inl rfl, rfl⟩
  · exact ⟨.inr rfl, rfl⟩

/-- Queues with the same labels have the same series. -/
theorem virtqueueMetrics_congr (vmi : VMIResult) (vq vq' : VirtqueueResult)
    (hkey : vqKey vq = vqKey vq') :
    (virtqueueMetrics vmi vq).map Metric.series = (virtqueueMetrics vmi vq').map Metric.series := by
  simp only [vqKey, Prod.mk.injEq] at hkey
  simp only [virtqueueMetrics, List.map_cons, List.map_nil, hkey]

/-- The queue series of a machine are distinct when the queues are told apart
    by their labels. -/
theorem virtqueueSeries_nodup_iff (vmi : VMIResult) :
    (vmi.virtqueues.flatMap fun vq => (virtqueueMetrics vmi vq).map Metric.series).Nodup
      ↔ (vmi.virtqueues.map vqKey).Nodup := by
  -- Compare the labels themselves; the number of a queue is read off its text.
  have hlabels : ∀ vq vq' : VirtqueueResult,
      (vq.disk, vq.pvc, vq.queue.repr, vq.bus) = (vq'.disk, vq'.pvc, vq'.queue.repr, vq'.bus) →
      vqKey vq = vqKey vq' := by
    intro vq vq' h
    simp only [Prod.mk.injEq, repr_injective.eq_iff] at h
    simp only [vqKey, Prod.mk.injEq]
    exact h
  rw [nodup_flatMap_iff_tags vmi.virtqueues _
    (fun vq => (vq.disk, vq.pvc, vq.queue.repr, vq.bus))
    (fun s => (s.labels.getD 4 "", s.labels.getD 5 "", s.labels.getD 6 "", s.labels.getD 7 ""))]
  · rw [List.Nodup, List.Nodup, List.pairwise_map, List.pairwise_map]
    refine ⟨fun h => h.imp fun hne heq => hne ?_, fun h => h.imp fun hne heq => hne ?_⟩
    · simp only [vqKey, Prod.mk.injEq] at heq
      rw [heq.1, heq.2.1, heq.2.2.1, heq.2.2.2]
    · exact hlabels _ _ heq
  · intro vq _ s hs
    rw [(virtqueueMetrics_series vmi vq s hs).2]
    rfl
  · intro vq _
    simp [virtqueueMetrics]
  · intro vq _
    simp [virtqueueMetrics]
  · intro vq _ vq' _ heq
    exact virtqueueMetrics_congr vmi vq vq' (hlabels vq vq' heq)

/-- The series of one machine. -/
def vmiSeries (vmi : VMIResult) : List Series :=
  (vmi.devices.flatMap fun dev => (deviceMetrics vmi dev).map Metric.series) ++
    vmi.virtqueues.flatMap fun vq => (virtqueueMetrics vmi vq).map Metric.series

/-- Every series of a machine is a latency or a queue series, with the pod of
    the machine. -/
theorem vmiSeries_mem (vmi : VMIResult) (s : Series) (hs : s ∈ vmiSeries vmi) :
    Series.pod s = (vmi.ns, vmi.podName) ∧
      (s.name = "kubevirt_vmi_storage_io_latency_seconds" ∨
        s.name = "kubevirt_vmi_storage_queue_inuse" ∨
        s.name = "kubevirt_vmi_storage_queue_size") := by
  -- The pod is among the labels of both kinds.
  rcases List.mem_append.mp hs with hdev | hvq
  · rcases List.mem_flatMap.mp hdev with ⟨dev, _, hs⟩
    rcases deviceMetrics_series vmi dev s hs with ⟨op, rfl⟩
    exact ⟨rfl, .inl rfl⟩
  · rcases List.mem_flatMap.mp hvq with ⟨vq, _, hs⟩
    rcases virtqueueMetrics_series vmi vq s hs with ⟨hname, hlabels⟩
    refine ⟨?_, .inr hname⟩
    rw [Series.pod, hlabels]
    rfl

/-- For a machine whose disks have different aliases, only the queues can clash. -/
theorem vmiSeries_nodup_iff (vmi : VMIResult)
    (hdisks : (vmi.devices.map DeviceResult.disk).Nodup) :
    (vmiSeries vmi).Nodup ↔ (vmi.virtqueues.map vqKey).Nodup := by
  have hdevices :
      (vmi.devices.flatMap fun dev => (deviceMetrics vmi dev).map Metric.series).Nodup := by
    -- The alias of the disk is one of the labels.
    refine (nodup_flatMap_of_tags _ _ DeviceResult.disk (fun s => s.labels.getD 4 "") ?_
      hdisks).mpr ?_
    · intro dev _ s hs
      rcases deviceMetrics_series vmi dev s hs with ⟨op, rfl⟩
      rfl
    · intro dev _
      exact deviceMetrics_nodup vmi dev
  -- Latency series and queue series have different names.
  rw [vmiSeries, nodup_append_iff_of_apart
    (fun s : Series => s.name = "kubevirt_vmi_storage_io_latency_seconds"),
    and_iff_right hdevices, virtqueueSeries_nodup_iff]
  · intro s hs
    rcases List.mem_flatMap.mp hs with ⟨dev, _, hs⟩
    rcases deviceMetrics_series vmi dev s hs with ⟨op, rfl⟩
    rfl
  · intro s hs
    rcases List.mem_flatMap.mp hs with ⟨vq, _, hs⟩
    rcases (virtqueueMetrics_series vmi vq s hs).1 with hname | hname <;> rw [hname] <;> decide

/-- Machines of different pods do not clash, so each one is looked at by itself. -/
theorem collect_nodup_iff (c : Collector)
    (hpods : (c.results.map fun vmi => (vmi.ns, vmi.podName)).Nodup)
    (hdisks : ∀ vmi ∈ c.results, (vmi.devices.map DeviceResult.disk).Nodup) :
    (seriesOf c).Nodup ↔ ∀ vmi ∈ c.results, (vmi.virtqueues.map vqKey).Nodup := by
  have hseries : seriesOf c = ⟨"kme_qmp_scrape_errors_total", []⟩ ::
      ⟨"kme_qmp_last_poll_timestamp_seconds", []⟩ :: c.results.flatMap vmiSeries := by
    simp only [seriesOf, collect, List.map_cons, List.map_flatMap, List.map_append]
    rfl
  have hmem : ∀ s ∈ c.results.flatMap vmiSeries,
      s.name = "kubevirt_vmi_storage_io_latency_seconds" ∨
      s.name = "kubevirt_vmi_storage_queue_inuse" ∨
      s.name = "kubevirt_vmi_storage_queue_size" := by
    intro s hs
    rcases List.mem_flatMap.mp hs with ⟨vmi, _, hs⟩
    exact (vmiSeries_mem vmi s hs).2
  -- The pod tells the series of the machines apart.
  have hrest : (c.results.flatMap vmiSeries).Nodup ↔ ∀ vmi ∈ c.results, (vmiSeries vmi).Nodup :=
    nodup_flatMap_of_tags c.results vmiSeries (fun vmi => (vmi.ns, vmi.podName))
      Series.pod (fun vmi _ s hs => (vmiSeries_mem vmi s hs).1) hpods
  rw [hseries, List.nodup_cons, List.nodup_cons, hrest]
  constructor
  · intro h vmi hvmi
    exact (vmiSeries_nodup_iff vmi (hdisks vmi hvmi)).mp (h.2.2 vmi hvmi)
  · intro h
    refine ⟨?_, ?_, fun vmi hvmi => (vmiSeries_nodup_iff vmi (hdisks vmi hvmi)).mpr (h vmi hvmi)⟩
    · -- The two metrics of the collector itself have names of their own.
      intro hs
      rcases List.mem_cons.mp hs with heq | hs
      · simp at heq
      · have hname := hmem _ hs
        simp at hname
    · intro hs
      have hname := hmem _ hs
      simp at hname

/-- The disks of the accepted virtio-blk devices. -/
def blkDisks (vdevs : List VirtioDevice) : List String := vdevs.filterMap blkDisk

/-- The queues of a device are asked for one after the other, each once. -/
theorem answered_nodup (replies : Replies) (numQueues : String → Option Int) (path : String) :
    (answered replies numQueues path).Nodup := List.nodup_range.filter _

/-- A queue is listed with the disk of its device. -/
theorem blkQueues_disk (replies : Replies) (numQueues : String → Option Int)
    (vdevs : List VirtioDevice) (q : String × Nat) (hq : q ∈ blkQueues replies numQueues vdevs) :
    q.1 ∈ blkDisks vdevs := by
  rcases List.mem_flatMap.mp hq with ⟨vdev, hvdev, hq⟩
  cases hdisk : blkDisk vdev with
  | none =>
      rw [hdisk, Option.elim_none] at hq
      exact absurd hq List.not_mem_nil
  | some disk =>
      rw [hdisk, Option.elim_some] at hq
      rcases List.mem_map.mp hq with ⟨qi, _, rfl⟩
      exact List.mem_filterMap.mpr ⟨vdev, hvdev, hdisk⟩

/-- Disks with different aliases have no queue in common. -/
theorem blkQueues_nodup (replies : Replies) (numQueues : String → Option Int)
    (vdevs : List VirtioDevice) (hdisks : (blkDisks vdevs).Nodup) :
    (blkQueues replies numQueues vdevs).Nodup := by
  induction vdevs with
  | nil => exact List.nodup_nil
  | cons vdev vdevs ih =>
      unfold blkQueues
      rw [List.flatMap_cons]
      -- A device whose path names no disk has no queues here.
      cases hdisk : blkDisk vdev with
      | none =>
          rw [blkDisks, List.filterMap_cons_none hdisk] at hdisks
          exact ih hdisks
      | some disk =>
          rw [blkDisks, List.filterMap_cons_some hdisk, List.nodup_cons] at hdisks
          refine List.nodup_append.mpr ⟨?_, ih hdisks.2, ?_⟩
          · exact (answered_nodup replies numQueues vdev.path).map (Prod.mk_right_injective disk)
          · -- Another device has another disk.
            intro q hq q' hq' heq
            rcases List.mem_map.mp hq with ⟨qi, _, rfl⟩
            rw [← heq] at hq'
            exact hdisks.1 (blkQueues_disk replies numQueues vdevs _ hq')

/-- No two controllers describe a queue of the same number. -/
def NoSharedQueue (replies : Replies) (numQueues : String → Option Int)
    (vdevs : List VirtioDevice) : Prop :=
  ∀ vdev ∈ vdevs, ∀ vdev' ∈ vdevs, isController vdev → isController vdev' →
    vdev.path ≠ vdev'.path →
    ∀ qi ∈ answered replies numQueues vdev.path, qi ∉ answered replies numQueues vdev'.path

/-- The queues of the controllers are listed by their number alone. -/
theorem scsiQueues_nodup_iff (replies : Replies) (numQueues : String → Option Int)
    (vdevs : List VirtioDevice) (hpaths : (vdevs.map VirtioDevice.path).Nodup) :
    (scsiQueues replies numQueues vdevs).Nodup ↔ NoSharedQueue replies numQueues vdevs := by
  -- Controllers are told apart by their paths.
  have hpaths' : ((vdevs.filter isController).map VirtioDevice.path).Nodup :=
    hpaths.sublist (List.filter_sublist.map _)
  unfold scsiQueues
  rw [List.nodup_flatMap, pairwise_disjoint_iff _ _ VirtioDevice.path hpaths']
  constructor
  · intro h vdev hvdev vdev' hvdev' hctrl hctrl' hne qi hqi hqi'
    exact h.2 vdev (List.mem_filter.mpr ⟨hvdev, hctrl⟩) vdev' (List.mem_filter.mpr ⟨hvdev', hctrl'⟩)
      hne hqi hqi'
  · intro h
    refine ⟨fun vdev _ => answered_nodup replies numQueues vdev.path, ?_⟩
    intro vdev hvdev vdev' hvdev' hne qi hqi hqi'
    rcases List.mem_filter.mp hvdev with ⟨hmem, hctrl⟩
    rcases List.mem_filter.mp hvdev' with ⟨hmem', hctrl'⟩
    exact h vdev hmem vdev' hmem' hctrl hctrl' hne qi hqi hqi'

/-- The queues of a scrape are told apart if and only if no two controllers share
    a number. -/
theorem virtqueues_nodup_iff (conn : VmConnection) (replies : Replies) (resp : List BlockDevice)
    (s : Scrape) (r : VMIResult) (blk scsi : List VirtqueueResult)
    (hr : Reports conn replies resp s r blk scsi)
    (hdisks : (blkDisks (replies.virtio.getD [])).Nodup)
    (hpaths : ((replies.virtio.getD []).map VirtioDevice.path).Nodup) :
    (r.virtqueues.map vqKey).Nodup
      ↔ NoSharedQueue replies conn.numQueues (replies.virtio.getD []) := by
  -- The queues of the disks are distinct by disk and number alone.
  have hblk : (blk.map vqKey).Nodup := by
    refine List.Nodup.of_map (fun key => (key.1, key.2.2.1, key.2.2.2)) ?_
    rw [List.map_map]
    have hlabels := hr.blk_queues
    change blk.map (fun vq => (vq.disk, vq.queue, vq.bus)) |>.Nodup
    rw [hlabels]
    refine (blkQueues_nodup replies conn.numQueues _ hdisks).map ?_
    intro q q' heq
    simp only [Prod.mk.injEq, and_true] at heq
    exact Prod.ext heq.1 heq.2
  have hscsi : scsi.map vqKey = (scsiQueues replies conn.numQueues (replies.virtio.getD [])).map
      (fun qi => ("", "", qi, "scsi")) := hr.scsi_queues
  have hinj : Function.Injective (fun qi : Nat => ("", "", qi, "scsi")) := by
    intro qi qi' heq
    simp only [Prod.mk.injEq, and_true, true_and] at heq
    exact heq
  -- The bus tells the two kinds apart.
  rw [hr.virtqueues, List.map_append, hscsi,
    nodup_append_iff_of_apart (fun key : String × String × Nat × String => key.2.2.2 = "virtio"),
    and_iff_right hblk, List.nodup_map_iff hinj,
    scsiQueues_nodup_iff replies conn.numQueues _ hpaths]
  · intro key hkey
    rcases List.mem_map.mp hkey with ⟨vq, hvq, rfl⟩
    have hlabel : (vq.disk, vq.queue, vq.bus)
        ∈ blk.map (fun vq => (vq.disk, vq.queue, vq.bus)) := List.mem_map_of_mem hvq
    rw [hr.blk_queues] at hlabel
    rcases List.mem_map.mp hlabel with ⟨q, _, hq⟩
    rw [Prod.mk.injEq, Prod.mk.injEq] at hq
    exact hq.2.2.symm
  · intro key hkey
    rcases List.mem_map.mp hkey with ⟨qi, _, rfl⟩
    change "scsi" ≠ "virtio"
    decide

/-- A connection to scrape and the answers it gets. -/
structure ScrapeInput where
  conn : VmConnection
  replies : Replies

/-- The pod a connection belongs to. -/
def ScrapeInput.pod (x : ScrapeInput) : String × String := (x.conn.ns, x.conn.podName)

/-- The virtio devices QEMU lists. -/
def ScrapeInput.vdevs (x : ScrapeInput) : List VirtioDevice := x.replies.virtio.getD []

/-- The scrape returns a result: the connection is open and QEMU describes its
    block devices. -/
def ScrapeInput.Succeeds (x : ScrapeInput) : Prop :=
  x.conn.closed = false ∧ ∃ resp, x.replies.blockStats = .ok resp

/-- The result of a scrape, if it returns one. -/
def ScrapeInput.result (cfg : PollerConfig) (x : ScrapeInput) : Option VMIResult :=
  (scrapeVM cfg x.conn x.replies).result.toOption

/-- The aliases of the accepted block devices. -/
def aliases (resp : List BlockDevice) : List String :=
  resp.filterMap fun dev => (extractDiskInfo dev.effectiveQDev).map Prod.fst

/-- The disks with histograms are some of the accepted ones. -/
theorem measuredDisks_sublist (resp : List BlockDevice) :
    (measuredDisks resp).Sublist (aliases resp) := by
  have hfilter : measuredDisks resp = aliases (resp.filter hasHistograms) := by
    unfold measuredDisks aliases
    rw [List.filterMap_filter]
    rfl
  rw [hfilter]
  exact List.filter_sublist.filterMap _

/-- A scrape that returns a result has read everything that is in it. -/
theorem result_reports (cfg : PollerConfig) (x : ScrapeInput) (r : VMIResult)
    (hr : x.result cfg = some r) :
    ∃ resp blk scsi, x.Succeeds ∧ x.replies.blockStats = .ok resp ∧
      Reports x.conn x.replies resp (scrapeVM cfg x.conn x.replies) r blk scsi := by
  unfold ScrapeInput.result at hr
  rcases scrapeVM_ok cfg x.conn x.replies r hr with ⟨hopen, resp, hresp⟩
  rcases scrapeVM_reports cfg x.conn x.replies resp hopen hresp with ⟨r', blk, scsi, hrep⟩
  have heq : r' = r := by
    rw [hrep.result] at hr
    exact Option.some.inj hr
  rw [heq] at hrep
  exact ⟨resp, blk, scsi, ⟨hopen, resp, hresp⟩, hresp, hrep⟩

/-- For any machines of different pods, whose disks have different aliases and
    whose devices have different paths: the emitted series are distinct if and
    only if no machine that is scraped has two controllers that describe a queue
    of the same number. -/
theorem collect_series_nodup_iff (cfg : PollerConfig) (inputs : List ScrapeInput)
    (scrapeErrors lastPollTS : ℚ) (hpods : (inputs.map ScrapeInput.pod).Nodup)
    (haliases : ∀ x ∈ inputs, ∀ resp, x.replies.blockStats = .ok resp → (aliases resp).Nodup)
    (hblk : ∀ x ∈ inputs, (blkDisks x.vdevs).Nodup)
    (hpaths : ∀ x ∈ inputs, (x.vdevs.map VirtioDevice.path).Nodup) :
    (seriesOf ⟨inputs.filterMap (ScrapeInput.result cfg), scrapeErrors, lastPollTS⟩).Nodup
      ↔ ∀ x ∈ inputs, x.Succeeds → NoSharedQueue x.replies x.conn.numQueues x.vdevs := by
  rw [collect_nodup_iff]
  · constructor
    · intro h x hx hsucc
      rcases hsucc with ⟨hopen, resp, hresp⟩
      rcases scrapeVM_reports cfg x.conn x.replies resp hopen hresp with ⟨r, blk, scsi, hrep⟩
      have hr : x.result cfg = some r := by
        unfold ScrapeInput.result
        rw [hrep.result]
        rfl
      exact (virtqueues_nodup_iff _ _ _ _ _ _ _ hrep (hblk x hx) (hpaths x hx)).mp
        (h r (List.mem_filterMap.mpr ⟨x, hx, hr⟩))
    · intro h r hr
      rcases List.mem_filterMap.mp hr with ⟨x, hx, hr⟩
      rcases result_reports cfg x r hr with ⟨resp, blk, scsi, hsucc, _, hrep⟩
      exact (virtqueues_nodup_iff _ _ _ _ _ _ _ hrep (hblk x hx) (hpaths x hx)).mpr
        (h x hx hsucc)
  · -- Each result carries the pod of its connection.
    refine List.pairwise_map.mpr (List.pairwise_filterMap.mpr ?_)
    refine (List.pairwise_map.mp hpods).imp fun {x x'} hne r hr r' hr' heq => hne ?_
    rcases result_reports cfg x r hr with ⟨_, _, _, _, _, hrep⟩
    rcases result_reports cfg x' r' hr' with ⟨_, _, _, _, _, hrep'⟩
    rw [hrep.ns, hrep.podName, hrep'.ns, hrep'.podName] at heq
    exact heq
  · intro r hr
    rcases List.mem_filterMap.mp hr with ⟨x, hx, hr⟩
    rcases result_reports cfg x r hr with ⟨resp, _, _, _, hresp, hrep⟩
    rw [hrep.disks]
    exact (haliases x hx resp hresp).sublist (measuredDisks_sublist resp)

/-- A machine whose virtio devices have one queue each. -/
def machineOf (podName : String) (resp : List BlockDevice) (vdevs : List VirtioDevice) :
    ScrapeInput where
  conn :=
    { ns := "default", vmi := "vm", podName := podName, armed := fun _ => false,
      numQueues := fun _ => none, pvcMap := .empty, closed := false }
  replies :=
    { blockStats := .ok resp, enableHistogram := fun _ _ => true, virtio := some vdevs,
      virtioStatus := fun _ => some ⟨1⟩, queueStatus := fun _ _ => some ⟨0, 128⟩,
      dynClient := none }

/-- A machine without disks. -/
def machineWith (vdevs : List VirtioDevice) : ScrapeInput :=
  machineOf "virt-launcher-vm" [] vdevs

/-- A disk that has served a read. -/
def usedDisk (qdev : String) : BlockDevice :=
  .mk qdev
    { rdTotalTimeNs := 1500, wrTotalTimeNs := 0, flushTotalTimeNs := 0,
      rdLatencyHistogram := some { boundaries := [1000, 2000], bins := [0, 1, 0] },
      wrLatencyHistogram := none, flushLatencyHistogram := none } none

/-- A disk with a queue of its own. -/
def rootdisk : VirtioDevice := ⟨"/machine/peripheral/ua-rootdisk/virtio-backend", "virtio-blk"⟩

/-- A controller. -/
def scsi0 : VirtioDevice := ⟨"/machine/peripheral/scsi0/virtio-backend", "virtio-scsi"⟩

/-- Another controller. -/
def scsi1 : VirtioDevice := ⟨"/machine/peripheral/scsi1/virtio-backend", "virtio-scsi"⟩

/-- Two machines, one with two disks and one with a disk of the same name, and
    with a controller each. -/
def twoMachines : List ScrapeInput :=
  [machineOf "virt-launcher-a" [usedDisk "ua-rootdisk", usedDisk "ua-data"] [rootdisk, scsi0],
    machineOf "virt-launcher-b" [usedDisk "ua-rootdisk"] [rootdisk, scsi0]]

theorem one_controller_distinct :
    (seriesOf ⟨twoMachines.filterMap (ScrapeInput.result ⟨"node", []⟩), 0, 0⟩).Nodup ∧
    (seriesOf ⟨twoMachines.filterMap (ScrapeInput.result ⟨"node", []⟩), 0, 0⟩).length = 13 := by
  refine ⟨(collect_series_nodup_iff ⟨"node", []⟩ twoMachines 0 0 ?_ ?_ ?_ ?_).mpr ?_,
    by decide +kernel⟩
  · decide +kernel
  · -- The disks of a machine have different aliases.
    intro x hx resp hresp
    simp only [twoMachines, List.mem_cons, List.not_mem_nil, or_false] at hx
    rcases hx with rfl | rfl
    · rw [← Except.ok.inj hresp]
      decide +kernel
    · rw [← Except.ok.inj hresp]
      decide +kernel
  · decide +kernel
  · decide +kernel
  · intro x hx _
    simp only [twoMachines, List.mem_cons, List.not_mem_nil, or_false] at hx
    unfold NoSharedQueue
    rcases hx with rfl | rfl
    · decide +kernel
    · decide +kernel

/-- The controllers are not among the labels, so their first queues are one
    series. -/
theorem two_controllers_duplicate :
    ([machineWith [scsi0, scsi1]].map ScrapeInput.pod).Nodup ∧
      (blkDisks (machineWith [scsi0, scsi1]).vdevs).Nodup ∧
      ((machineWith [scsi0, scsi1]).vdevs.map VirtioDevice.path).Nodup ∧
      ¬ (seriesOf ⟨[machineWith [scsi0, scsi1]].filterMap (ScrapeInput.result ⟨"node", []⟩),
        0, 0⟩).Nodup := by
  decide +kernel

end Qmp

end LatencyExporter
