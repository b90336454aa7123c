import LatencyExporter.Lib.Tagged
import LatencyExporter.Theory.Conservation
import LatencyExporter.Theory.Lifecycle

/-!
# Series of the Guest Agent Collector

`Collect` never emits one series twice. A series names the pod, the drive, the
operation and the kind of metric. Drives of one machine have different names
because a snapshot is a map, whatever the guest lists; their volume and their
claim do not matter. What remains is that no two results are of the same pod.

The table is keyed by containers, and an entry remembers the pod it was made
for. If a container belongs to one pod for good, an entry's pod is the owner of
its container, in every table of every run (`Owned`). In a poll, two containers
with the same owner would have to be reported for the same pod by one lookup,
so they are the same (`owner_injOn`). An entry of an old container of the pod is
gone by then: its container is not reported any more.

## Main definitions

* `seriesOf`: The series of the emitted metrics.
* `OwnedBy`: The lookups of a poll report containers of an owner.
* `Owned`: The entries of a table are those of the owners.

## Theorems

* `diskSeries_nodup`, `vmiSeries_nodup`: The series of a machine.
* `scrapeTask_result`: The pod and the drives of a result.
* `collect_nodup`: The series of a collector.
* `Owned.poll`, `owner_injOn`, `results_pods_nodup`: The pods of the results.
* `collect_series_distinct`: Every run of polls.
-/

namespace LatencyExporter

namespace Qga

open Tagged

/-- The series of the metrics a collector emits. -/
def seriesOf (c : Collector) : List Series := (collect c).map Metric.series

/-- The series of a disk. -/
def diskSeries (vmi : VmiResult) (disk : EnrichedDisk) : List Series :=
  (diskMetrics vmi disk).map Metric.series

section Machine

variable (vmi : VmiResult) (disk : EnrichedDisk)

theorem mem_opMetricsOf {op : String} {latSec iops : ℚ} {s : Series}
    (hs : s ∈ (opMetricsOf vmi disk op latSec iops).map Metric.series) :
    (s.name = "kubevirt_vmi_storage_guest_latency_avg_seconds" ∨
      s.name = "kubevirt_vmi_storage_guest_iops") ∧
    s.labels = [vmi.ns, vmi.name, vmi.node, vmi.podName, disk.disk, disk.pvc, op,
      disk.metrics.name] := by
  unfold opMetricsOf at hs
  split at hs
  · simp only [List.map_cons, List.map_nil, List.mem_cons, List.not_mem_nil, or_false] at hs
    rcases hs with rfl | rfl
    · exact ⟨.inl rfl, rfl⟩
    · exact ⟨.inr rfl, rfl⟩
  · exact absurd hs List.not_mem_nil

theorem opMetricsOf_nodup (op : String) (latSec iops : ℚ) :
    ((opMetricsOf vmi disk op latSec iops).map Metric.series).Nodup := by
  unfold opMetricsOf
  split
  · simp
  · exact List.nodup_nil

/-- A series of a disk has the kind of a metric, the pod of the machine and the
    drive. -/
theorem mem_diskSeries {s : Series} (hs : s ∈ diskSeries vmi disk) :
    (s.name = "kubevirt_vmi_storage_guest_latency_avg_seconds" ∨
      s.name = "kubevirt_vmi_storage_guest_iops") ∧
    (s.labels.getD 0 "", s.labels.getD 3 "") = (vmi.ns, vmi.podName) ∧
    s.labels.getD 7 "" = disk.metrics.name := by
  rw [diskSeries, diskMetrics, List.map_append, List.mem_append] at hs
  rcases hs with hs | hs <;>
  · rcases mem_opMetricsOf vmi disk hs with ⟨hname, hlabels⟩
    rw [hlabels]
    exact ⟨hname, rfl, rfl⟩

theorem diskSeries_nodup : (diskSeries vmi disk).Nodup := by
  rw [diskSeries, diskMetrics, List.map_append,
    nodup_append_iff_of_apart fun s : Series => s.labels.getD 6 "" = "read"]
  · exact ⟨opMetricsOf_nodup vmi disk _ _ _, opMetricsOf_nodup vmi disk _ _ _⟩
  · intro s hs
    rw [(mem_opMetricsOf vmi disk hs).2]
    rfl
  · intro s hs
    rw [(mem_opMetricsOf vmi disk hs).2]
    change "write" ≠ "read"
    decide

/-- Different drives make different series. -/
theorem vmiSeries_nodup (hdrives : (vmi.disks.map fun disk => disk.metrics.name).Nodup) :
    (vmi.disks.flatMap (diskSeries vmi)).Nodup :=
  (nodup_flatMap_of_tags vmi.disks (diskSeries vmi) (fun disk => disk.metrics.name)
    (fun s => s.labels.getD 7 "") (fun disk _ _ hs => (mem_diskSeries vmi disk hs).2.2)
    hdrives).mpr fun disk _ => diskSeries_nodup vmi disk

end Machine

/-- Different pods, with different drives each, make different series. -/
theorem collect_nodup (c : Collector)
    (hpods : (c.results.map fun vmi => (vmi.ns, vmi.podName)).Nodup)
    (hdrives : ∀ vmi ∈ c.results, (vmi.disks.map fun disk => disk.metrics.name).Nodup) :
    (seriesOf c).Nodup := by
  have hseries : seriesOf c = ⟨"kme_qga_scrape_errors_total", []⟩ ::
      ⟨"kme_qga_last_poll_timestamp_seconds", []⟩ ::
      c.results.flatMap fun vmi => vmi.disks.flatMap (diskSeries vmi) := by
    simp only [seriesOf, collect, List.map_cons, List.map_flatMap]
    rfl
  have hmem : ∀ s ∈ c.results.flatMap fun vmi => vmi.disks.flatMap (diskSeries vmi),
      s.name = "kubevirt_vmi_storage_guest_latency_avg_seconds" ∨
        s.name = "kubevirt_vmi_storage_guest_iops" := by
    intro s hs
    rcases List.mem_flatMap.mp hs with ⟨vmi, _, hs⟩
    rcases List.mem_flatMap.mp hs with ⟨disk, _, hs⟩
    exact (mem_diskSeries vmi disk hs).1
  rw [hseries, List.nodup_cons, List.nodup_cons]
  refine ⟨?_, ?_, ?_⟩
  · -- The two metrics of the collector itself have names of their own.
    intro hs
    rcases List.mem_cons.mp hs with heq | hs
    · simp at heq
    · have hname := hmem _ hs
      simp at hname
  · intro hs
    have hname := hmem _ hs
    simp at hname
  · refine (nodup_flatMap_of_tags c.results _ (fun vmi => (vmi.ns, vmi.podName))
      (fun s => (s.labels.getD 0 "", s.labels.getD 3 "")) ?_ hpods).mpr
      fun vmi hvmi => vmiSeries_nodup vmi (hdrives vmi hvmi)
    intro vmi _ s hs
    rcases List.mem_flatMap.mp hs with ⟨disk, _, hs⟩
    exact (mem_diskSeries vmi disk hs).2.1

/-- The drives a loop goes through have different names. -/
theorem diskLoop_drives_nodup (fetched : Qmp.PvcMap) (prev : String → Option DiskCounters)
    (counters : List DiskCounters) (diskMap : Int → Option String) (names : List String)
    (c : Refresh.Cache Qmp.PvcMap) (hnodup : names.Nodup) :
    ((diskLoop fetched prev (snapshot counters) diskMap names c).1.map
      fun disk => disk.metrics.name).Nodup := by
  have hmetrics := diskLoop_metrics fetched prev (snapshot counters) diskMap names c
  have hcomp := congrArg (List.map DiskMetrics.name) hmetrics
  rw [List.map_map] at hcomp
  change List.Nodup (List.map (DiskMetrics.name ∘ EnrichedDisk.metrics) _)
  rw [hcomp]
  -- A drive is listed under its own name, once.
  refine List.pairwise_map.mpr (List.pairwise_filterMap.mpr (hnodup.imp ?_))
  intro name name' hne m hm m' hm'
  rw [measured_name counters prev name m hm, measured_name counters prev name' m' hm']
  exact hne

/-- A result has the pod of its machine, and drives of different names. -/
theorem scrapeTask_result (cfg : CollectorConfig) (vs : VmState) (reply : GuestReply)
    (r : VmiResult) (hr : (scrapeTask cfg vs reply).result = .ok (some r)) :
    (r.ns, r.podName) = (vs.ns, vs.podName) ∧
    (r.disks.map fun disk => disk.metrics.name).Nodup := by
  have hsame : (scrapeTask cfg vs reply).result = (scrapeVM cfg vs reply).result := by
    simp only [scrapeTask]
    split <;> rfl
  rw [hsame, scrapeVM] at hr
  split at hr
  · exact absurd hr (by simp only [reduceCtorEq, not_false_eq_true])
  · split at hr
    · exact absurd hr (by simp only [reduceCtorEq, not_false_eq_true])
    · next counters _ =>
        cases hprev : vs.prevSnapshot with
        | none =>
            -- Without a previous snapshot there are no disks to report.
            simp only [hprev, List.length_nil, if_true, Except.ok.injEq, reduceCtorEq] at hr
        | some prev =>
            simp only [hprev, Except.ok.injEq, Option.ite_none_left_eq_some,
              Option.some.injEq] at hr
            rw [← hr.2]
            exact ⟨rfl, diskLoop_drives_nodup _ prev counters vs.diskMap _ _ reply.order_nodup⟩

section Run

variable (filters : Poll.Filters) (cfg : CollectorConfig) (owner : String → String × String)

/-- Every container that the lookups of a poll report for a selected pod has
    that pod as its owner. -/
def OwnedBy (w : World) : Prop :=
  ∀ pod ∈ Poll.selectPods filters w.podStore, ∀ info,
    w.findComputePID pod.podName pod.ns = .ok info →
      owner info.containerID = (pod.ns, pod.podName)

/-- The entries of a table are of the pods that own their containers. -/
def Owned (table : Poll.Table VmState) : Prop :=
  ∀ e ∈ table, (e.2.state.ns, e.2.state.podName) = owner e.1

variable {filters owner} (c : Collector) {w : World}

theorem Owned.refreshTable (howned : Owned owner c.vms) (hown : OwnedBy filters owner w) :
    Owned owner (Poll.refreshTable pollOps filters (w.env cfg) c.vms c.handles).1 := by
  intro e he
  -- An old entry keeps its pod, and a new one is made for the pod that was found.
  rcases Poll.mem_refreshTable filters he with ⟨hold, _⟩ | ⟨_, pod, hpod, ⟨info, hinfo, hid⟩, hconn⟩
  · exact howned e hold
  · rcases hconn with ⟨again, _, hvs⟩
    rw [((connectVM_ok_iff w pod again.pid _).mp hvs).2, ← hid, hown pod hpod info hinfo]
    rfl

theorem Owned.poll (howned : Owned owner c.vms) (hown : OwnedBy filters owner w) :
    Owned owner (poll filters cfg c w).vms := by
  intro e he
  rcases (Poll.mem_poll filters).mp he with ⟨e', he', hsurv⟩
  -- A scrape changes neither the namespace nor the pod of its machine.
  have hframe := Poll.survivor_frame (f := fun vs : VmState => (vs.ns, vs.podName)) (fun id vs => by
    rcases scrapeTask_frame cfg vs (w.replies id) with ⟨hns, hpod, _⟩
    change ((scrapeOutcome cfg w id vs).state.ns, (scrapeOutcome cfg w id vs).state.podName) = _
    rw [scrapeOutcome_state, hns, hpod]) hsurv
  rw [(Poll.survivor_key hsurv).1, hframe]
  exact howned.refreshTable cfg c hown e' he'

/-- Of the containers reported in a poll, no two have the same owner. -/
theorem owner_injOn (hown : OwnedBy filters owner w) {id id' : String}
    (hid : id ∈ Poll.activeIDs filters (w.env cfg))
    (hid' : id' ∈ Poll.activeIDs filters (w.env cfg)) (heq : owner id = owner id') : id = id' := by
  rcases (Poll.mem_activeIDs filters).mp hid with ⟨pod, hpod, info, hinfo, rfl⟩
  rcases (Poll.mem_activeIDs filters).mp hid' with ⟨pod', hpod', info', hinfo', rfl⟩
  rw [hown pod hpod info hinfo, hown pod' hpod' info' hinfo', Prod.mk.injEq] at heq
  -- Both were found by the same lookup.
  have hsame : info = info' := by
    have hinfo'' : w.findComputePID pod.podName pod.ns = .ok info := hinfo
    rw [heq.1, heq.2] at hinfo''
    exact Except.ok.inj (hinfo''.symm.trans hinfo')
  rw [hsame]

theorem resultOf_eq_some {e : String × Poll.Conn VmState} {r : VmiResult}
    (hr : Poll.resultOf pollOps (scrapeOutcome cfg w) e = some r) :
    (scrapeTask cfg e.2.state (w.replies e.1)).result = .ok (some r) := by
  simp only [Poll.resultOf, Option.ite_none_left_eq_some, scrapeOutcome] at hr
  rcases hr with ⟨_, hr⟩
  split at hr
  · exact absurd hr (by simp only [reduceCtorEq, not_false_eq_true])
  · next result hresult =>
      rw [hresult]
      exact congrArg _ hr

/-- The results of a poll are of different pods. -/
theorem results_pods_nodup (hmap : (Poll.keys c.vms).Nodup) (howned : Owned owner c.vms)
    (hown : OwnedBy filters owner w) :
    ((poll filters cfg c w).results.map fun vmi => (vmi.ns, vmi.podName)).Nodup := by
  let entries := (Poll.refreshTable pollOps filters (w.env cfg) c.vms c.handles).1
  have hresults : (poll filters cfg c w).results
      = (w.arrange entries).filterMap (Poll.resultOf pollOps (scrapeOutcome cfg w)) :=
    Poll.poll_results filters
  have hkeys : (Poll.keys (w.arrange entries)).Nodup :=
    ((w.arrange_perm entries).map _).nodup_iff.mpr (Poll.refreshTable_keys_nodup filters hmap)
  rw [hresults]
  refine List.pairwise_map.mpr (List.pairwise_filterMap.mpr
    ((List.pairwise_map.mp hkeys).imp_of_mem ?_))
  intro e e' he he' hne r hr r' hr' heq
  rw [(w.arrange_perm entries).mem_iff] at he he'
  have hpod := (scrapeTask_result cfg _ _ r (resultOf_eq_some cfg hr)).1
  have hpod' := (scrapeTask_result cfg _ _ r' (resultOf_eq_some cfg hr')).1
  rw [hpod, hpod', howned.refreshTable cfg c hown e he,
    howned.refreshTable cfg c hown e' he'] at heq
  exact hne (owner_injOn cfg hown (Poll.mem_activeIDs_of_mem_refreshTable filters he)
    (Poll.mem_activeIDs_of_mem_refreshTable filters he') heq)

/-- The drives of a result of a poll are different drives. -/
theorem results_drives_nodup :
    ∀ vmi ∈ (poll filters cfg c w).results,
      (vmi.disks.map fun disk => disk.metrics.name).Nodup := by
  have hresults : (poll filters cfg c w).results = _ := Poll.poll_results filters
  rw [hresults]
  intro vmi hvmi
  rcases List.mem_filterMap.mp hvmi with ⟨e, _, hr⟩
  exact (scrapeTask_result cfg _ _ vmi (resultOf_eq_some cfg hr)).2

theorem owned_run (ws : List World) (hown : ∀ w ∈ ws, OwnedBy filters owner w) :
    Owned owner (ws.foldl (poll filters cfg) .new).vms :=
  List.foldlRecOn (motive := fun c : Collector => Owned owner c.vms) ws _
    (fun _ he => absurd he List.not_mem_nil) fun c howned w hw => howned.poll cfg c (hown w hw)

end Run

/-- In every run of polls, whatever the pods, the lookups, the outcomes of
    connecting and scraping, their order and the counters of the guests: if a
    container belongs to one pod for good, the series that `Collect` emits are
    distinct. -/
theorem collect_series_distinct (filters : Poll.Filters) (cfg : CollectorConfig) (ws : List World)
    (owner : String → String × String) (hown : ∀ w ∈ ws, OwnedBy filters owner w) :
    (seriesOf (ws.foldl (poll filters cfg) .new)).Nodup := by
  rcases List.eq_nil_or_concat ws with rfl | ⟨ws, w, rfl⟩
  · exact collect_nodup _ List.nodup_nil fun vmi hvmi => absurd hvmi List.not_mem_nil
  · -- What is emitted was cached by the last poll.
    rw [List.concat_eq_append] at hown ⊢
    have hlast : OwnedBy filters owner w :=
      hown w (List.mem_append_right _ (List.mem_singleton.mpr rfl))
    have howned := owned_run cfg ws fun w' hw' => hown w' (List.mem_append_left _ hw')
    rw [List.foldl_append]
    exact collect_nodup _
      (results_pods_nodup cfg _ (tableOk_run filters cfg ws).keys_nodup howned hlast)
      (results_drives_nodup cfg _)

/-- A guest with a drive that it lists twice, and another one. -/
def repeatedDrive (dc dc' : DiskCounters) (hne : dc.name ≠ dc'.name) : GuestReply where
  counters := .ok [dc, dc', { dc with wrOps := 9 }]
  order := [dc.name, dc'.name]
  order_nodup := by simpa using hne
  mem_order := by
    intro cs hcs name
    rw [← Except.ok.inj hcs]
    simp only [List.mem_cons, List.not_mem_nil, or_false, exists_eq_or_imp, exists_eq_left]
    constructor
    · rintro (rfl | rfl)
      · exact Or.inl rfl
      · exact Or.inr (Or.inl rfl)
    · rintro (rfl | rfl | rfl)
      · exact Or.inl rfl
      · exact Or.inr rfl
      · exact Or.inl rfl
  dynClient := none

/-- A world with three pods, whose guests have two drives each. -/
def guestWorld (rdOps seconds : UInt64) : World where
  podStore := Poll.threePodStore
  findComputePID := fun name _ => .ok { containerID := name, pid := 7 }
  findComputePIDAgain := fun name _ => .ok { containerID := name, pid := 7 }
  stat := fun _ => none
  dial := fun _ _ => none
  dynClient := none
  diskMapping := fun _ _ => none
  replies := fun _ => repeatedDrive (driveC rdOps seconds)
    { driveC (rdOps + 1) seconds with name := "1 D:" } (by decide : "0 C:" ≠ "1 D:")
  now := 0
  arrange := Poll.tableOrder
  arrange_perm := Poll.tableOrder_perm

/-- Two polls of three guests that list one drive twice: the second poll has
    series to emit for two drives of each, which are distinct. -/
theorem collect_series_distinct_three_guests :
    (seriesOf ([guestWorld 5 10, guestWorld 25 70].foldl
      (poll Poll.noFilters { nodeName := "node", maxRetries := 3 }) .new)).Nodup ∧
    (seriesOf ([guestWorld 5 10, guestWorld 25 70].foldl
      (poll Poll.noFilters { nodeName := "node", maxRetries := 3 }) .new)).length = 14 := by
  refine ⟨collect_series_distinct _ _ _ (fun id => ("ns", id)) ?_, ?_⟩
  · intro w hw pod hpod info hinfo
    simp only [List.mem_cons, List.not_mem_nil, or_false] at hw
    have hstore : w.podStore = Poll.threePodStore := by rcases hw with rfl | rfl <;> rfl
    have hfound : w.findComputePID pod.podName pod.ns
        = .ok { containerID := pod.podName, pid := 7 } := by rcases hw with rfl | rfl <;> rfl
    rw [hstore, Poll.selectPods_threePodStore, List.mem_map] at hpod
    rcases hpod with ⟨name, _, rfl⟩
    rw [hfound] at hinfo
    rw [← Except.ok.inj hinfo]
  · decide +kernel

end Qga

end LatencyExporter
