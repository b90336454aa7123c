import LatencyExporter.Core.Poll
import LatencyExporter.Core.Qmp.Collector

/-!
# Polls of the QMP Collector

`poll`, `connectVM` and `closeAll` of `pkg/qmp/collector.go`. A scrape that
fails closes its connection and removes it from the table.

## Main definitions

* `World`: What one poll meets.
* `connectVM`: A new connection.
* `scrapeOutcome`: What becomes of a connection that is scraped.
* `Poller`: The state between polls.
* `poll`, `closeAll`: The operations.
-/

namespace LatencyExporter

namespace Qmp

/-- What one poll meets. `stat` and `dial` answer with an error text, or none;
    the replies are those of the machine of a container. -/
structure World where
  podStore : Poll.PodStore
  findComputePID : Poll.FindComputePID
  findComputePIDAgain : Poll.FindComputePID
  stat : String → Option String
  dial : String → String → Option String
  dynClient : Option (String → String → Option Value)
  replies : String → Replies
  now : ℚ
  arrange : Poll.Table VmConnection → Poll.Table VmConnection
  arrange_perm : ∀ table, (arrange table).Perm table

/-- `connectVM`. -/
def connectVM (w : World) (pod : Poll.PodInfo) (pid : Int) : Except String VmConnection :=
  let sockPath := "/proc/" ++ pid.repr ++ "/root/run/libvirt/virtqemud-sock"
  match w.stat sockPath with
  | some err => .error ("virtqemud socket not found at " ++ sockPath ++ ": " ++ err)
  | none =>
      let domainName := pod.ns ++ "_" ++ pod.vmiName
      match w.dial sockPath domainName with
      | some err => .error ("dialing QMP for " ++ domainName ++ ": " ++ err)
      | none => .ok
          { ns := pod.ns, vmi := pod.vmiName, podName := pod.podName, armed := fun _ => false,
            numQueues := fun _ => none, pvcMap := fetchPVCMap w.dynClient pod.ns pod.vmiName,
            closed := false }

/-- What a goroutine of `poll` does with the outcome of its scrape. -/
def scrapeOutcome (cfg : PollerConfig) (w : World) (id : String) (conn : VmConnection) :
    Poll.Outcome VmConnection VMIResult :=
  let s := scrapeVM cfg conn (w.replies id)
  match s.result with
  -- The next poll finds no entry and connects again.
  | .error _ => { state := s.conn, result := none, failed := true, drop := true }
  | .ok result => { state := s.conn, result := some result, failed := false, drop := false }

/-- Every connection of the table is scraped. -/
def pollOps : Poll.Ops VmConnection := { closed := VmConnection.closed, skip := fun _ => false }

/-- The world as the loops of a poll see it. -/
def World.env (cfg : PollerConfig) (w : World) : Poll.Env VmConnection VMIResult :=
  { podStore := w.podStore, findComputePID := w.findComputePID,
    findComputePIDAgain := w.findComputePIDAgain, connectVM := connectVM w,
    scrape := scrapeOutcome cfg w, arrange := w.arrange, arrange_perm := w.arrange_perm }

/-- The collector with its connections. -/
structure Poller where
  collector : Collector
  connections : Poll.Table VmConnection
  handles : Handles

/-- `NewCollector`. -/
def Poller.new : Poller :=
  { collector := { results := [], scrapeErrors := 0, lastPollTS := 0 }, connections := [],
    handles := .empty }

/-- `poll`. -/
def poll (filters : Poll.Filters) (cfg : PollerConfig) (c : Poller) (w : World) : Poller :=
  let s := Poll.poll pollOps filters (w.env cfg) c.connections c.handles
  { collector :=
      { results := s.results, scrapeErrors := c.collector.scrapeErrors + s.scrapeErrors,
        lastPollTS := w.now },
    connections := s.table,
    handles := s.handles }

/-- `closeAll`. -/
def closeAll (c : Poller) : Poller :=
  let (connections, handles) := Poll.closeAll pollOps c.connections c.handles
  { c with connections := connections, handles := handles }

end Qmp

end LatencyExporter
