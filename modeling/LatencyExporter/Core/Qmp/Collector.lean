import LatencyExporter.Core.Prometheus
import LatencyExporter.Core.Qmp.Types
import LatencyExporter.Lib.Refresh
import Mathlib.Data.Finmap

/-!
# The QMP Collector

One scrape of a virtual machine, and the metrics made of the results.

A scrape asks QEMU for its block devices, enables the latency histograms that
are missing, labels every disk with its volume and its claim, and then reads
the queues of the virtio devices. It keeps three caches with the connection:
the device identifiers whose histograms it believes to be enabled, the number
of queues of a device, and the claims of the volumes, which it fetches again
when a disk has none.

QEMU and the Kubernetes API server are modelled by their answers during the
scrape (`Replies`). Where the source only logs an error, the answer is `none`.

## Main definitions

* `Value`: A Kubernetes object as the dynamic client returns it.
* `PvcMap`, `fetchPVCMap`: Claims by volume, and reading them.
* `VmConnection`, `PollerConfig`, `Replies`: The state, the configuration and
  the surroundings of a scrape.
* `armLoop`: Enabling histograms.
* `refreshPVC`, `deviceLoop`: Labelling disks.
* `countQueues`, `blkLoop`, `scsiLoop`: Reading queues.
* `scrapeVM`: One scrape.
* `convertBuckets`, `collect`: Exporting the results.
-/

namespace LatencyExporter

namespace Qmp

/-- A part of an unstructured Kubernetes object: a string, a list, a map or
    something else. -/
inductive Value where
  | str (s : String)
  | list (vs : List Value)
  | map (get : String → Option Value)
  | other

/-- Claim names by volume name, empty for a volume without a claim. Volumes
    have a name. -/
structure PvcMap where
  claim : String → String
  unnamed : claim "" = ""

/-- The map without entries. -/
def PvcMap.empty : PvcMap := { claim := fun _ => "", unnamed := rfl }

/-- `pvcMap[name] = claimName`, for a volume with a name. -/
def PvcMap.set (m : PvcMap) (name claimName : String) (hname : name ≠ "") : PvcMap :=
  { claim := Function.update m.claim name claimName,
    unnamed := by rw [Function.update_of_ne (Ne.symm hname), m.unnamed] }

/-- The field of a map as a map. -/
def Value.mapField (v : Value) (field : String) : Option Value :=
  match v with
  | .map get => match get field with
      | some (.map get') => some (.map get')
      | _ => none
  | _ => none

/-- The field of a map as a string, empty when it is none. -/
def Value.stringField (v : Value) (field : String) : String :=
  match v with
  | .map get => match get field with
      | some (.str s) => s
      | _ => ""
  | _ => ""

/-- The field of a map as a list. -/
def Value.listField (v : Value) (field : String) : Option (List Value) :=
  match v with
  | .map get => match get field with
      | some (.list vs) => some vs
      | _ => none
  | _ => none

/-- One round of the loop of `FetchPVCMap` over the volume statuses. -/
def addVolumeStatus (pvcMap : PvcMap) (vs : Value) : PvcMap :=
  let name := vs.stringField "name"
  if hname : name = "" then pvcMap
  else match vs.mapField "persistentVolumeClaimInfo" with
    | none => pvcMap
    | some pvcInfo =>
        let claimName := pvcInfo.stringField "claimName"
        if claimName ≠ "" then pvcMap.set name claimName hname else pvcMap

/-- `FetchPVCMap`. The client is absent, or answers a read of a virtual machine
    instance with an object or an error. -/
def fetchPVCMap (dynClient : Option (String → String → Option Value)) (ns vmiName : String) :
    PvcMap :=
  match dynClient with
  | none => .empty
  | some get => match get ns vmiName with
      | none => .empty
      | some obj => match obj.mapField "status" with
          | none => .empty
          | some status => match status.listField "volumeStatus" with
              | none => .empty
              | some volumeStatuses => volumeStatuses.foldl addVolumeStatus .empty

/-- The fields of `PollerConfig` a scrape reads. -/
structure PollerConfig where
  nodeName : String
  boundariesNs : List Int

/-- `vmConnection`. -/
structure VmConnection where
  ns : String
  vmi : String
  podName : String
  armed : String → Bool
  numQueues : String → Option Int
  pvcMap : PvcMap
  closed : Bool

/-- What QEMU and the API server answer during one scrape. -/
structure Replies where
  blockStats : Except String (List BlockDevice)
  enableHistogram : String → List Int → Bool
  virtio : Option (List VirtioDevice)
  virtioStatus : String → Option VirtioStatus
  queueStatus : String → Nat → Option VirtQueueStatus
  dynClient : Option (String → String → Option Value)

/-- `DeviceResult`. -/
structure DeviceResult where
  disk : String
  pvc : String
  stats : BlockStats

/-- `VirtqueueResult`. -/
structure VirtqueueResult where
  disk : String
  pvc : String
  bus : String
  queue : Nat
  inuse : UInt32
  vringNum : UInt32

/-- `VMIResult`. -/
structure VMIResult where
  ns : String
  name : String
  node : String
  podName : String
  devices : List DeviceResult
  virtqueues : List VirtqueueResult

/-- The first loop of `scrapeVM`, over the block devices: enable missing
    histograms. Returns the armed cache and the identifiers for which QEMU
    accepted `block-latency-histogram-set`. -/
def armLoop (cfg : PollerConfig) (replies : Replies) :
    List BlockDevice → (String → Bool) → (String → Bool) × List String
  | [], armed => (armed, [])
  | dev :: devs, armed => match extractDiskInfo dev.effectiveQDev with
      | none => armLoop cfg replies devs armed
      | some (_, deviceID) =>
          if armed deviceID then armLoop cfg replies devs armed
          else if hasHistograms dev then
            armLoop cfg replies devs (Function.update armed deviceID true)
          else if replies.enableHistogram deviceID cfg.boundariesNs then
            let (armed, enabled) := armLoop cfg replies devs (Function.update armed deviceID true)
            (armed, deviceID :: enabled)
          else armLoop cfg replies devs armed

/-- `refreshPVC`. The state is the map of the connection and `pvcRefreshed`. -/
def refreshPVC (fetched : PvcMap) (c : Refresh.Cache PvcMap) (disk : String) :
    String × Refresh.Cache PvcMap :=
  Refresh.read PvcMap.claim "" fetched c disk

/-- The second loop of `scrapeVM`, over the block devices: label the disks that
    have histograms. -/
def deviceLoop (fetched : PvcMap) :
    List BlockDevice → Refresh.Cache PvcMap → List DeviceResult × Refresh.Cache PvcMap
  | [], c => ([], c)
  | dev :: devs, c => match extractDiskInfo dev.effectiveQDev with
      | none => deviceLoop fetched devs c
      | some (disk, _) =>
          if hasHistograms dev = false then deviceLoop fetched devs c
          else
            let (pvc, c) := refreshPVC fetched c disk
            let (devices, c) := deviceLoop fetched devs c
            ({ disk := disk, pvc := pvc, stats := dev.stats } :: devices, c)

/-- The number of queues of a device, from the cache or by a status query, and
    the cache afterwards. A failed query is `none`. -/
def countQueues (replies : Replies) (numQueues : String → Option Int) (path : String) :
    Option Int × (String → Option Int) :=
  match numQueues path with
  | some nq => (some nq, numQueues)
  | none => match replies.virtioStatus path with
      | none => (none, numQueues)
      | some vs =>
          (some vs.numVqs,
            if vs.numVqs > 0 then Function.update numQueues path (some vs.numVqs) else numQueues)

/-- The loop over the queues of a virtio-blk device. -/
def blkQueueLoop (replies : Replies) (fetched : PvcMap) (path disk : String) :
    List Nat → Refresh.Cache PvcMap → List VirtqueueResult × Refresh.Cache PvcMap
  | [], c => ([], c)
  | qi :: qis, c => match replies.queueStatus path qi with
      | none => blkQueueLoop replies fetched path disk qis c
      | some qs =>
          let (pvc, c) := refreshPVC fetched c disk
          let (virtqueues, c) := blkQueueLoop replies fetched path disk qis c
          ({ disk := disk, pvc := pvc, bus := "virtio", queue := qi, inuse := qs.inuse,
             vringNum := qs.vringNum } :: virtqueues, c)

/-- The loop over the virtio-blk devices. -/
def blkLoop (replies : Replies) (fetched : PvcMap) :
    List VirtioDevice → (String → Option Int) → Refresh.Cache PvcMap →
      List VirtqueueResult × (String → Option Int) × Refresh.Cache PvcMap
  | [], numQueues, c => ([], numQueues, c)
  | vdev :: vdevs, numQueues, c =>
      if isVirtioBlk vdev = false then blkLoop replies fetched vdevs numQueues c
      else match extractDiskInfo vdev.path with
        | none => blkLoop replies fetched vdevs numQueues c
        | some (disk, _) => match countQueues replies numQueues vdev.path with
            | (none, numQueues) => blkLoop replies fetched vdevs numQueues c
            | (some nq, numQueues) =>
                let (here, c) :=
                  blkQueueLoop replies fetched vdev.path disk (List.range nq.toNat) c
                let (virtqueues, numQueues, c) := blkLoop replies fetched vdevs numQueues c
                (here ++ virtqueues, numQueues, c)

/-- The loop over the queues of a virtio-scsi controller. -/
def scsiQueueLoop (replies : Replies) (path : String) : List Nat → List VirtqueueResult
  | [] => []
  | qi :: qis => match replies.queueStatus path qi with
      | none => scsiQueueLoop replies path qis
      | some qs =>
          { disk := "", pvc := "", bus := "scsi", queue := qi, inuse := qs.inuse,
            vringNum := qs.vringNum } :: scsiQueueLoop replies path qis

/-- The loop over the virtio-scsi controllers. -/
def scsiLoop (replies : Replies) :
    List VirtioDevice → (String → Option Int) → List VirtqueueResult × (String → Option Int)
  | [], numQueues => ([], numQueues)
  | vdev :: vdevs, numQueues =>
      if isVirtioScsi vdev = false then scsiLoop replies vdevs numQueues
      -- The name of the controller is not used for anything.
      else match extractControllerName vdev.path with
        | none => scsiLoop replies vdevs numQueues
        | some _ => match countQueues replies numQueues vdev.path with
            | (none, numQueues) => scsiLoop replies vdevs numQueues
            | (some nq, numQueues) =>
                let here := scsiQueueLoop replies vdev.path (List.range nq.toNat)
                let (virtqueues, numQueues) := scsiLoop replies vdevs numQueues
                (here ++ virtqueues, numQueues)

/-- What a scrape leaves behind: its result, the connection, the identifiers
    it enabled histograms for, and whether it fetched the claims. -/
structure Scrape where
  result : Except String VMIResult
  conn : VmConnection
  enabled : List String
  pvcRefreshed : Bool

/-- `scrapeVM`. -/
def scrapeVM (cfg : PollerConfig) (conn : VmConnection) (replies : Replies) : Scrape :=
  if conn.closed then
    { result := .error "connection closed", conn := conn, enabled := [], pvcRefreshed := false }
  else match replies.blockStats with
    | .error err => { result := .error err, conn := conn, enabled := [], pvcRefreshed := false }
    | .ok resp =>
        let fetched := fetchPVCMap replies.dynClient conn.ns conn.vmi
        let (armed, enabled) := armLoop cfg replies resp conn.armed
        let (devices, c) := deviceLoop fetched resp { map := conn.pvcMap, refreshed := false }
        -- A failed `x-query-virtio` leaves the queues out.
        let (blk, numQueues, c) := blkLoop replies fetched (replies.virtio.getD []) conn.numQueues c
        let (scsi, numQueues) := scsiLoop replies (replies.virtio.getD []) numQueues
        { result := .ok
            { ns := conn.ns, name := conn.vmi, node := cfg.nodeName,
              podName := conn.podName, devices := devices, virtqueues := blk ++ scsi },
          conn := { conn with armed := armed, numQueues := numQueues, pvcMap := c.map },
          enabled := enabled,
          pvcRefreshed := c.refreshed }

/-- `ConvertBuckets`: cumulative counts by boundary in seconds, and the total,
    both wrapping like the `uint64` they are. -/
def convertBuckets (hist : LatencyHist) : Finmap (fun _ : ℚ => UInt64) × UInt64 :=
  hist.bins.zipIdx.foldl
    (fun (buckets, cumulative) (count, i) =>
      let cumulative := cumulative + count
      match hist.boundaries[i]? with
      | none => (buckets, cumulative)
      | some boundary => (buckets.insert (boundary / 10 ^ 9) cumulative, cumulative))
    (∅, 0)

/-- The value of a metric of this collector. -/
inductive MetricValue where
  | counter (v : ℚ)
  | gauge (v : ℚ)
  | histogram (count : UInt64) (sum : ℚ) (buckets : Finmap (fun _ : ℚ => UInt64))

/-- The poll results a `Collector` has cached. -/
structure Collector where
  results : List VMIResult
  scrapeErrors : ℚ
  lastPollTS : ℚ

/-- One round of the loop of `Collect` over the operations of a device. -/
def latencyMetric (vmi : VMIResult) (dev : DeviceResult) (op : String)
    (hist : Option LatencyHist) (totalNs : UInt64) : Option (Metric MetricValue) :=
  match hist with
  | none => none
  | some hist =>
      let (buckets, count) := convertBuckets hist
      if count = 0 then none
      else some
        { series := ⟨"kubevirt_vmi_storage_io_latency_seconds",
            [vmi.ns, vmi.name, vmi.node, vmi.podName, dev.disk, dev.pvc, op]⟩,
          value := .histogram count (totalNs.toNat / 10 ^ 9) buckets }

/-- The metrics of a device. The source goes through the operations in the
    random order of a map. -/
def deviceMetrics (vmi : VMIResult) (dev : DeviceResult) : List (Metric MetricValue) :=
  [("read", dev.stats.rdLatencyHistogram, dev.stats.rdTotalTimeNs),
    ("write", dev.stats.wrLatencyHistogram, dev.stats.wrTotalTimeNs),
    ("flush", dev.stats.flushLatencyHistogram, dev.stats.flushTotalTimeNs)].filterMap
    fun (op, hist, totalNs) => latencyMetric vmi dev op hist totalNs

/-- The metrics of a queue. -/
def virtqueueMetrics (vmi : VMIResult) (vq : VirtqueueResult) : List (Metric MetricValue) :=
  let labels :=
    [vmi.ns, vmi.name, vmi.node, vmi.podName, vq.disk, vq.pvc, vq.queue.repr, vq.bus]
  [{ series := ⟨"kubevirt_vmi_storage_queue_inuse", labels⟩, value := .gauge vq.inuse.toNat },
    { series := ⟨"kubevirt_vmi_storage_queue_size", labels⟩, value := .gauge vq.vringNum.toNat }]

/-- `Collect`. -/
def collect (c : Collector) : List (Metric MetricValue) :=
  { series := ⟨"kme_qmp_scrape_errors_total", []⟩, value := .counter c.scrapeErrors } ::
  { series := ⟨"kme_qmp_last_poll_timestamp_seconds", []⟩, value := .gauge c.lastPollTS } ::
  c.results.flatMap fun vmi =>
    vmi.devices.flatMap (deviceMetrics vmi) ++ vmi.virtqueues.flatMap (virtqueueMetrics vmi)

end Qmp

end LatencyExporter
