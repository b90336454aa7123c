import LatencyExporter.Core.Poll
import LatencyExporter.Core.Prometheus
import LatencyExporter.Core.Qga.Collector

/-!
# Polls of the Guest Agent Collector

`poll`, `connectVM`, `closeAll` and `Collect` of `pkg/qga/collector.go`. A
machine that has been given up on stays in the table and is passed over. A
scrape that fails keeps its connection.

A scrape of a connection that is not closed begins with a `guest-exec`, so the
machines a poll scrapes are those it issues one for.

The mapping of drives to volumes comes from the domain and the guest at the
time of the connection. It is any mapping here.

## Main definitions

* `World`: What one poll meets.
* `connectVM`: A new connection.
* `scrapeOutcome`: What becomes of a connection that is scraped.
* `Collector`: The state between polls.
* `poll`, `closeAll`: The operations.
* `diskMetrics`, `collect`: The metrics.
-/

namespace LatencyExporter

namespace Qga

/-- What one poll meets. `stat` and `dial` answer with an error text, or none;
    the replies are those of the guest of a container. -/
structure World where
  podStore : Poll.PodStore
  findComputePID : Poll.FindComputePID
  findComputePIDAgain : Poll.FindComputePID
  stat : String → Option String
  dial : String → String → Option String
  dynClient : Option (String → String → Option Qmp.Value)
  diskMapping : Poll.PodInfo → Int → Option String
  replies : String → GuestReply
  now : ℚ
  arrange : Poll.Table VmState → Poll.Table VmState
  arrange_perm : ∀ table, (arrange table).Perm table

/-- `connectVM`. -/
def connectVM (w : World) (pod : Poll.PodInfo) (pid : Int) : Except String VmState :=
  let sockPath := "/proc/" ++ pid.repr ++ "/root/run/libvirt/virtqemud-sock"
  match w.stat sockPath with
  | some err => .error ("virtqemud socket not found at " ++ sockPath ++ ": " ++ err)
  | none =>
      let domainName := pod.ns ++ "_" ++ pod.vmiName
      match w.dial sockPath domainName with
      | some err => .error ("dialing for QGA " ++ domainName ++ ": " ++ err)
      | none => .ok
          { ns := pod.ns, vmi := pod.vmiName, podName := pod.podName, prevSnapshot := none,
            pvcMap := Qmp.fetchPVCMap w.dynClient pod.ns pod.vmiName,
            diskMap := w.diskMapping pod, retryCount := 0, stopped := false, stopReason := "",
            closed := false }

/-- What a goroutine of `poll` does with the outcome of its scrape. -/
def scrapeOutcome (cfg : CollectorConfig) (w : World) (id : String) (vs : VmState) :
    Poll.Outcome VmState VmiResult :=
  let s := scrapeTask cfg vs (w.replies id)
  match s.result with
  -- `handleScrapeError` decides whether there is a next time; the entry stays.
  | .error _ => { state := s.vm, result := none, failed := true, drop := false }
  -- A scrape without disks to report has no result and is no error.
  | .ok result => { state := s.vm, result := result, failed := false, drop := false }

/-- Machines that are stopped or closed are passed over. -/
def pollOps : Poll.Ops VmState :=
  { closed := VmState.closed, skip := fun vs => vs.stopped || vs.closed }

/-- The world as the loops of a poll see it. -/
def World.env (cfg : CollectorConfig) (w : World) : Poll.Env VmState VmiResult :=
  { podStore := w.podStore, findComputePID := w.findComputePID,
    findComputePIDAgain := w.findComputePIDAgain, connectVM := connectVM w,
    scrape := scrapeOutcome cfg w, arrange := w.arrange, arrange_perm := w.arrange_perm }

/-- `Collector`. The last field has the container IDs for which the last poll
    issued a `guest-exec`. -/
structure Collector where
  results : List VmiResult
  scrapeErrors : ℚ
  lastPollTS : ℚ
  vms : Poll.Table VmState
  handles : Handles
  guestExecs : List String

/-- `NewCollector`. -/
def Collector.new : Collector :=
  { results := [], scrapeErrors := 0, lastPollTS := 0, vms := [], handles := .empty,
    guestExecs := [] }

/-- `poll`. -/
def poll (filters : Poll.Filters) (cfg : CollectorConfig) (c : Collector) (w : World) :
    Collector :=
  let s := Poll.poll pollOps filters (w.env cfg) c.vms c.handles
  { results := s.results, scrapeErrors := c.scrapeErrors + s.scrapeErrors, lastPollTS := w.now,
    vms := s.table, handles := s.handles, guestExecs := s.scraped }

/-- `closeAll`. -/
def closeAll (c : Collector) : Collector :=
  let (vms, handles) := Poll.closeAll pollOps c.vms c.handles
  { c with vms := vms, handles := handles }

/-- The value of a metric of this collector. -/
inductive MetricValue where
  | counter (v : ℚ)
  | gauge (v : ℚ)

/-- The metrics of one kind of operation of a disk. -/
def opMetricsOf (vmi : VmiResult) (disk : EnrichedDisk) (op : String) (latSec iops : ℚ) :
    List (Metric MetricValue) :=
  let labels :=
    [vmi.ns, vmi.name, vmi.node, vmi.podName, disk.disk, disk.pvc, op, disk.metrics.name]
  -- An idle disk has no series at all.
  if iops > 0 ∨ latSec > 0 then
    [{ series := ⟨"kubevirt_vmi_storage_guest_latency_avg_seconds", labels⟩,
       value := .gauge latSec },
      { series := ⟨"kubevirt_vmi_storage_guest_iops", labels⟩, value := .gauge iops }]
  else []

/-- The metrics of a disk. -/
def diskMetrics (vmi : VmiResult) (disk : EnrichedDisk) : List (Metric MetricValue) :=
  opMetricsOf vmi disk "read" disk.metrics.rdLatSec disk.metrics.rdIOPS ++
  opMetricsOf vmi disk "write" disk.metrics.wrLatSec disk.metrics.wrIOPS

/-- `Collect`. -/
def collect (c : Collector) : List (Metric MetricValue) :=
  { series := ⟨"kme_qga_scrape_errors_total", []⟩, value := .counter c.scrapeErrors } ::
  { series := ⟨"kme_qga_last_poll_timestamp_seconds", []⟩, value := .gauge c.lastPollTS } ::
  c.results.flatMap fun vmi => vmi.disks.flatMap (diskMetrics vmi)

end Qga

end LatencyExporter
