import LatencyExporter.Core.Device.Resolver
import LatencyExporter.Core.Ebpf.Histogram
import LatencyExporter.Core.Prometheus

/-!
# The eBPF Collector

The metrics made of the histogram maps of the tracing programs. A histogram is
exported under the pod and the claim its device resolves to. A block device
that does not resolve is exported under its number; an NFS device that does
not resolve is left out.

## Main definitions

* `HistEntry`, `Programs`: The maps as user space iterates over them.
* `Collector`: The collector.
* `collectSubsystemGauge`: The state of the subsystems.
* `blockMetric`, `collectBlock`: Block devices.
* `nfsMetric`, `collectNFS`, `collectNFSKprobe`: The two NFS maps.
* `collect`: All metrics.
-/

namespace LatencyExporter

namespace Ebpf

open Bpf Device

/-- A key of a histogram map with its slots. -/
structure HistEntry where
  key : HistKey
  slots : Fin maxSlots → UInt64

/-- The fields of `Programs` the collector reads. A map that is not loaded is
    absent. -/
structure Programs where
  blockActive : Bool
  nfsActive : Bool
  nfsKprobeActive : Bool
  blockHists : Option (List HistEntry)
  nfsHists : Option (List HistEntry)
  nfsKprobeHists : Option (List HistEntry)

/-- `Collector`. -/
structure Collector where
  programs : Programs
  resolver : Resolver
  nodeName : String
  buckets : List ℚ
  namespaces : List String

/-- The value of a metric of this collector. -/
inductive MetricValue where
  | gauge (v : ℚ)
  | histogram (h : ConstHistogram)

/-- `namespaceAllowed`. -/
def namespaceAllowed (c : Collector) (ns : String) : Bool :=
  c.namespaces.isEmpty || c.namespaces.contains ns

/-- `opLabels`. -/
def opLabels : List String := ["read", "write", "discard", "flush"]

/-- `nfsVfsOpLabels`. -/
def nfsVfsOpLabels : List String := ["read", "write", "open", "getattr"]

/-- One of the three parts of `collectSubsystemGauge`. -/
def subsystemMetric (name : String) (active : Bool) : Metric MetricValue :=
  { series := ⟨"kme_subsystem_active", [name]⟩, value := .gauge (if active then 1 else 0) }

/-- `collectSubsystemGauge`. -/
def collectSubsystemGauge (c : Collector) : List (Metric MetricValue) :=
  [subsystemMetric "block" c.programs.blockActive,
    subsystemMetric "nfs" c.programs.nfsActive,
    subsystemMetric "nfs_kprobe" c.programs.nfsKprobeActive]

/-- A histogram under the pod and the claim of its device. -/
def podMetric (c : Collector) (name : String) (labels : List String) (op : UInt8)
    (info : DeviceInfo) (h : ConstHistogram) : Metric MetricValue :=
  { series := ⟨name,
      [c.nodeName, info.ns, info.pvcName, info.podName, labels.getD op.toNat ""]⟩,
    value := .histogram h }

/-- One round of the loop of `collectBlock`. -/
def blockMetric (c : Collector) (entry : HistEntry) : Option (Metric MetricValue) :=
  if entry.key.op > 3 then none
  else
    let h := slotsToConstHistogram entry.slots c.buckets
    if h.count = 0 then none
    else match c.resolver.lookup entry.key.dev with
      | some info =>
          if namespaceAllowed c info.ns then
            some (podMetric c "kme_block_io_latency_seconds" opLabels entry.key.op info h)
          else none
      -- A device of no pod is the host's own.
      | none => some
          { series := ⟨"kme_system_block_io_latency_seconds",
              [c.nodeName, devToString entry.key.dev, opLabels.getD entry.key.op.toNat ""]⟩,
            value := .histogram h }

/-- One round of the loop of `collectNFS` and of `collectNFSKprobe`, which
    differ in the largest operation code, the name and the operation labels. -/
def nfsMetric (maxOp : UInt8) (name : String) (labels : List String) (c : Collector)
    (entry : HistEntry) : Option (Metric MetricValue) :=
  if entry.key.op > maxOp then none
  else
    let h := slotsToConstHistogram entry.slots c.buckets
    if h.count = 0 then none
    else match c.resolver.lookup entry.key.dev with
      -- Unlike a block device, an unresolved mount has no metric.
      | none => none
      | some info =>
          if namespaceAllowed c info.ns then some (podMetric c name labels entry.key.op info h)
          else none

/-- `collectBlock`. -/
def collectBlock (c : Collector) (hists : List HistEntry) : List (Metric MetricValue) :=
  hists.filterMap (blockMetric c)

/-- `collectNFS`. -/
def collectNFS (c : Collector) (hists : List HistEntry) : List (Metric MetricValue) :=
  hists.filterMap (nfsMetric 1 "kme_nfs_io_latency_seconds" opLabels c)

/-- `collectNFSKprobe`. -/
def collectNFSKprobe (c : Collector) (hists : List HistEntry) : List (Metric MetricValue) :=
  hists.filterMap (nfsMetric 3 "kme_nfs_vfs_latency_seconds" nfsVfsOpLabels c)

/-- `Collect`. -/
def collect (c : Collector) : List (Metric MetricValue) :=
  collectSubsystemGauge c ++
  (c.programs.blockHists.elim [] (collectBlock c) ++
  (c.programs.nfsHists.elim [] (collectNFS c) ++
  c.programs.nfsKprobeHists.elim [] (collectNFSKprobe c)))

end Ebpf

end LatencyExporter
