import LatencyExporter.Core.Qga.Poll
import LatencyExporter.Core.Qmp.Poll
import LatencyExporter.Theory.Polling

/-!
# The Life of a Connection

Both collectors keep a table of connections over all their polls. A connection
is made by one piece of code, and closed by four: the departure loop, the check
for duplicates, the error path of a scrape and the shutdown. Each connection
goes through exactly one of them.

The argument is the invariant `TableOk`, which each loop of a poll keeps. It
needs two facts about a collector (`WellBehaved`): a new connection is open, and
a scrape neither closes nor reopens one. What a reader wants to know follows
from the invariant by counting (`TableOk.tracked`).

## Main definitions

* `Tracked`: Every connection is in the table and open, or closed once.

## Theorems

* `TableOk.tracked`: The invariant accounts for every connection.
* `Qmp.wellBehaved`, `Qga.wellBehaved`: The collectors.
* `Qmp.tableOk_run`, `Qga.tableOk_run`: The invariant over runs.
* `connections_closed_once`: Every run of polls of either collector.
-/

namespace LatencyExporter

namespace Poll

variable {σ ρ : Type}

/-- Every connection made so far is in the table under one container ID and
    open, or not in the table and closed once. -/
def Tracked (ops : Ops σ) (table : Table σ) (k : Handles) : Prop :=
  (keys table).Nodup ∧
  ∀ client, client < k.next →
    (∃ id conn, (id, conn) ∈ table ∧ conn.client = client ∧ ops.closed conn.state = false ∧
      k.closes client = 0 ∧ ∀ e ∈ table, e.2.client = client → e.1 = id) ∨
    ((∀ e ∈ table, e.2.client ≠ client) ∧ k.closes client = 1)

/-- A connection is counted in the table or among the closed ones, once in all. -/
theorem TableOk.tracked {ops : Ops σ} {table : Table σ} {k : Handles} (hok : TableOk ops table k) :
    Tracked ops table k := by
  refine ⟨hok.keys_nodup, fun client hlt => ?_⟩
  have honce := hok.balanced.once client
  rw [if_pos hlt, List.count_nil] at honce
  by_cases hmem : client ∈ clients table
  · -- A client in the table is there once, so the entry is the only one.
    rcases List.mem_map.mp hmem with ⟨⟨id, conn⟩, he, hclient⟩
    have hpos := List.count_pos_iff.mpr hmem
    refine .inl ⟨id, conn, he, hclient, hok.all_open _ he, by omega, ?_⟩
    intro e he' hclient'
    -- Count entries instead of clients.
    have hlen : (table.filter fun e => e.2.client == client).length = 1 := by
      rw [← List.countP_eq_length_filter]
      have hcount : (clients table).count client = 1 := by omega
      rw [List.count, clients, List.countP_map] at hcount
      exact hcount
    rcases List.length_eq_one_iff.mp hlen with ⟨only, honly⟩
    have hthis : ∀ e ∈ table, e.2.client = client → e = only := by
      intro e he hc
      rw [← List.mem_singleton, ← honly, List.mem_filter, beq_iff_eq]
      exact ⟨he, hc⟩
    rw [hthis e he' hclient', ← hthis _ he hclient]
  · have hzero := List.count_eq_zero.mpr hmem
    refine .inr ⟨fun e he hclient => hmem (List.mem_map.mpr ⟨e, he, hclient⟩), by omega⟩

/-- The socket of `virtqemud` in the container of a process. -/
def sockPath (pid : Int) : String := "/proc/" ++ pid.repr ++ "/root/run/libvirt/virtqemud-sock"

/-- The name of the domain of a pod. -/
def domainName (pod : PodInfo) : String := pod.ns ++ "_" ++ pod.vmiName

end Poll

namespace Qmp

/-- The socket of a process is there and answers. -/
def Reachable (w : World) (pod : Poll.PodInfo) (pid : Int) : Prop :=
  w.stat (Poll.sockPath pid) = none ∧ w.dial (Poll.sockPath pid) (Poll.domainName pod) = none

/-- A new connection. -/
def freshConn (w : World) (pod : Poll.PodInfo) : VmConnection :=
  { ns := pod.ns, vmi := pod.vmiName, podName := pod.podName, armed := fun _ => false,
    numQueues := fun _ => none, pvcMap := fetchPVCMap w.dynClient pod.ns pod.vmiName,
    closed := false }

/-- A connection is made if the socket is there and answers. -/
theorem connectVM_ok_iff (w : World) (pod : Poll.PodInfo) (pid : Int) (conn : VmConnection) :
    connectVM w pod pid = .ok conn ↔ Reachable w pod pid ∧ conn = freshConn w pod := by
  simp only [connectVM, Reachable, Poll.sockPath, Poll.domainName]
  -- Only whether the two calls fail matters.
  generalize w.stat _ = stat
  generalize w.dial _ _ = dial
  cases stat with
  | some err => simp only [reduceCtorEq, false_and]
  | none =>
      cases dial with
      | some err => simp only [reduceCtorEq, and_false, false_and]
      | none => simp only [Except.ok.injEq, true_and, freshConn, eq_comm]

/-- A scrape does not close its connection, whatever it meets. -/
theorem scrapeVM_closed (cfg : PollerConfig) (conn : VmConnection) (replies : Replies) :
    (scrapeVM cfg conn replies).conn.closed = conn.closed := by
  unfold scrapeVM
  split
  · rfl
  · split <;> rfl

/-- The connection after a scrape, with or without a result. -/
theorem scrapeOutcome_state (cfg : PollerConfig) (w : World) (id : String) (conn : VmConnection) :
    (scrapeOutcome cfg w id conn).state = (scrapeVM cfg conn (w.replies id)).conn := by
  simp only [scrapeOutcome]
  split <;> rfl

/-- The QMP collector is well-behaved in any world. -/
theorem wellBehaved (cfg : PollerConfig) (w : World) : Poll.WellBehaved pollOps (w.env cfg) where
  connect_open pod pid conn hconn := by
    rw [((connectVM_ok_iff w pod pid conn).mp hconn).2]
    rfl
  scrape_closed id conn :=
    (congrArg VmConnection.closed (scrapeOutcome_state cfg w id conn)).trans
      (scrapeVM_closed cfg conn (w.replies id))

/-- By induction on the polls. -/
theorem tableOk_run (filters : Poll.Filters) (cfg : PollerConfig) (ws : List World) :
    Poll.TableOk pollOps (ws.foldl (poll filters cfg) .new).connections
      (ws.foldl (poll filters cfg) .new).handles :=
  List.foldlRecOn (motive := fun c : Poller => Poll.TableOk pollOps c.connections c.handles) ws _
    Poll.tableOk_empty fun _ hok w _ => hok.poll filters (wellBehaved cfg w)

end Qmp

namespace Qga

/-- The socket of a process is there and answers. -/
def Reachable (w : World) (pod : Poll.PodInfo) (pid : Int) : Prop :=
  w.stat (Poll.sockPath pid) = none ∧ w.dial (Poll.sockPath pid) (Poll.domainName pod) = none

/-- A machine that is newly tracked. -/
def freshState (w : World) (pod : Poll.PodInfo) : VmState :=
  { ns := pod.ns, vmi := pod.vmiName, podName := pod.podName, prevSnapshot := none,
    pvcMap := Qmp.fetchPVCMap w.dynClient pod.ns pod.vmiName, diskMap := w.diskMapping pod,
    retryCount := 0, stopped := false, stopReason := "", closed := false }

/-- Likewise for the guest agent. -/
theorem connectVM_ok_iff (w : World) (pod : Poll.PodInfo) (pid : Int) (vs : VmState) :
    connectVM w pod pid = .ok vs ↔ Reachable w pod pid ∧ vs = freshState w pod := by
  simp only [connectVM, Reachable, Poll.sockPath, Poll.domainName]
  -- Only whether the two calls fail matters.
  generalize w.stat _ = stat
  generalize w.dial _ _ = dial
  cases stat with
  | some err => simp only [reduceCtorEq, false_and]
  | none =>
      cases dial with
      | some err => simp only [reduceCtorEq, and_false, false_and]
      | none => simp only [Except.ok.injEq, true_and, freshState, eq_comm]

/-- A scrape leaves alone what a machine is, and whether its connection is
    closed. -/
theorem scrapeTask_frame (cfg : CollectorConfig) (vs : VmState) (reply : GuestReply) :
    (scrapeTask cfg vs reply).vm.ns = vs.ns ∧
    (scrapeTask cfg vs reply).vm.podName = vs.podName ∧
    (scrapeTask cfg vs reply).vm.closed = vs.closed := by
  rcases scrapeTask_vm cfg vs reply with ⟨_, _, _, _, _, hvm⟩
  rw [hvm]
  exact ⟨rfl, rfl, rfl⟩

/-- The machine after a scrape. -/
theorem scrapeOutcome_state (cfg : CollectorConfig) (w : World) (id : String) (vs : VmState) :
    (scrapeOutcome cfg w id vs).state = (scrapeTask cfg vs (w.replies id)).vm := by
  simp only [scrapeOutcome]
  split <;> rfl

/-- The QGA collector is well-behaved in any world. -/
theorem wellBehaved (cfg : CollectorConfig) (w : World) :
    Poll.WellBehaved pollOps (w.env cfg) where
  connect_open pod pid vs hvs := by
    rw [((connectVM_ok_iff w pod pid vs).mp hvs).2]
    rfl
  scrape_closed id vs :=
    (congrArg VmState.closed (scrapeOutcome_state cfg w id vs)).trans
      (scrapeTask_frame cfg vs (w.replies id)).2.2

/-- By induction on the polls, as above. -/
theorem tableOk_run (filters : Poll.Filters) (cfg : CollectorConfig) (ws : List World) :
    Poll.TableOk pollOps (ws.foldl (poll filters cfg) .new).vms
      (ws.foldl (poll filters cfg) .new).handles :=
  List.foldlRecOn (motive := fun c : Collector => Poll.TableOk pollOps c.vms c.handles) ws _
    Poll.tableOk_empty fun _ hok w _ => hok.poll filters (wellBehaved cfg w)

end Qga

namespace Poll

/-- In every run of polls of either collector, whatever the pods, the answers of
    the CRI, the outcomes of connecting and scraping and their order: after each
    poll every connection is in the table under one container ID and open, or
    not in the table and closed once, and the containers of the table were active
    in that poll. After the shutdown the table is empty and every connection was
    closed once. -/
theorem connections_closed_once (filters : Filters) :
    (∀ (cfg : Qmp.PollerConfig) (ws : List Qmp.World),
      (∀ w, let c := Qmp.poll filters cfg (ws.foldl (Qmp.poll filters cfg) .new) w
        Tracked Qmp.pollOps c.connections c.handles ∧
        ∀ id ∈ keys c.connections, id ∈ activeIDs filters (w.env cfg)) ∧
      let c := Qmp.closeAll (ws.foldl (Qmp.poll filters cfg) .new)
      c.connections = [] ∧ c.handles.ClosedOnce) ∧
    ∀ (cfg : Qga.CollectorConfig) (ws : List Qga.World),
      (∀ w, let c := Qga.poll filters cfg (ws.foldl (Qga.poll filters cfg) .new) w
        Tracked Qga.pollOps c.vms c.handles ∧
        ∀ id ∈ keys c.vms, id ∈ activeIDs filters (w.env cfg)) ∧
      let c := Qga.closeAll (ws.foldl (Qga.poll filters cfg) .new)
      c.vms = [] ∧ c.handles.ClosedOnce := by
  -- The invariant holds after the polls before; one more poll keeps it.
  refine ⟨fun cfg ws => ⟨fun w => ⟨?_, ?_⟩, ?_⟩, fun cfg ws => ⟨fun w => ⟨?_, ?_⟩, ?_⟩⟩
  · exact ((Qmp.tableOk_run filters cfg ws).poll filters (Qmp.wellBehaved cfg w)).tracked
  · exact fun id hid => mem_activeIDs_of_mem_poll filters hid
  · exact (Qmp.tableOk_run filters cfg ws).closeAll
  · exact ((Qga.tableOk_run filters cfg ws).poll filters (Qga.wellBehaved cfg w)).tracked
  · exact fun id hid => mem_activeIDs_of_mem_poll filters hid
  · exact (Qga.tableOk_run filters cfg ws).closeAll

end Poll

end LatencyExporter
