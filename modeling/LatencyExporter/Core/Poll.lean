import LatencyExporter.Core.Strings
import LatencyExporter.Lib.Handles

/-!
# Poll Cycles

The part of `poll` that `pkg/qmp/collector.go` and `pkg/qga/collector.go` have
in common, word for word: selecting pods, asking the CRI for their containers,
dropping the connections of containers that are gone, connecting to new ones,
and scraping what is in the table.

A connection has a client, which is a handle, and a state, whose type is that
of the package. The table is a Go map from container IDs to connections. It is
a list of entries here; the order of the list stands for the order in which a
loop over the map happens to go. Connections are not shared: a new one is
stored under one container ID or closed at once.

The scrapes run concurrently, each on its own connection, and report one after
the other. `Env.arrange` is the order in which they report. Nothing else writes
the table meanwhile, so the table afterwards is made of the entries of the
snapshot that are not deleted. With `Concurrency` at least one all of them
finish.

## Main definitions

* `Pod`, `PodStore`, `Filters`: The pods of the node and which are wanted.
* `matchesLabelFilter`, `selectPod`, `selectPods`: Selecting pods.
* `ContainerInfo`, `Target`, `findTargets`: The containers of the pods.
* `Conn`, `Table`, `Ops`, `closeConn`: Connections.
* `Env`: What a poll meets.
* `departLoop`, `connectLoop`, `scrapeLoop`: The loops of a poll.
* `poll`, `closeAll`: A poll, and the shutdown.
-/

namespace LatencyExporter

namespace Poll

/-- `corev1.PodPhase`. -/
inductive PodPhase where
  | pending
  | running
  | succeeded
  | failed
  | unknown
deriving DecidableEq

/-- What is used of a `corev1.Pod`. An absent label reads as the empty text. -/
structure Pod where
  ns : String
  name : String
  phase : PodPhase
  labels : String → String

/-- The contents of a `cache.Store`, which has one object for a namespace and a
    name. Objects that are not pods are `none`. -/
structure PodStore where
  objects : List (Option Pod)
  unique : (objects.reduceOption.map fun pod => (pod.ns, pod.name)).Nodup

/-- The fields of the configuration that select pods. -/
structure Filters where
  namespaces : List String
  labelFilter : String

/-- `matchesLabelFilter`. -/
def matchesLabelFilter (labels : String → String) (filter : String) : Bool :=
  (filter.toList.splitOn ',').all fun part =>
    match splitN2 '=' (trimSpace part) with
    | [key, value] => labels (String.ofList key) = String.ofList value
    -- A part without an equals sign is no condition.
    | _ => true

example : matchesLabelFilter (fun l => if l = "app" then "db" else "") "app=db, x" = true := by
  decide +kernel

/-- `podInfo`. -/
structure PodInfo where
  ns : String
  podName : String
  vmiName : String
deriving DecidableEq

/-- One round of the first loop of `poll`. -/
def selectPod (cfg : Filters) : Option Pod → Option PodInfo
  | none => none
  | some pod =>
      if pod.phase ≠ .running then none
      else if pod.labels "kubevirt.io" ≠ "virt-launcher" then none
      else if cfg.labelFilter ≠ "" ∧ matchesLabelFilter pod.labels cfg.labelFilter = false then none
      else if cfg.namespaces ≠ [] ∧ pod.ns ∉ cfg.namespaces then none
      else
        let vmiName := pod.labels "vm.kubevirt.io/name"
        if vmiName = "" then none
        else some { ns := pod.ns, podName := pod.name, vmiName := vmiName }

/-- `allPods`. -/
def selectPods (cfg : Filters) (store : PodStore) : List PodInfo :=
  store.objects.filterMap (selectPod cfg)

/-- `ContainerInfo`. -/
structure ContainerInfo where
  containerID : String
  pid : Int

/-- `FindComputePID`, by pod name and namespace. -/
abbrev FindComputePID := String → String → Except String ContainerInfo

/-- `target`. -/
structure Target where
  pod : PodInfo
  containerID : String

/-- `targets`. -/
def findTargets (findComputePID : FindComputePID) (pods : List PodInfo) : List Target :=
  pods.filterMap fun pod => match findComputePID pod.podName pod.ns with
    | .error _ => none
    | .ok info => some { pod := pod, containerID := info.containerID }

/-- A connection: its client and the rest of its fields. -/
structure Conn (σ : Type) where
  client : Nat
  state : σ

/-- The table of connections, by container ID. -/
abbrev Table (σ : Type) := List (String × Conn σ)

/-- What a poll asks the state of a connection: whether it is closed, and
    whether it is not to be scraped. -/
structure Ops (σ : Type) where
  closed : σ → Bool
  skip : σ → Bool

variable {σ ρ : Type}

/-- `close`, which closes the client unless it was closed before. -/
def closeConn (ops : Ops σ) (conn : Conn σ) (k : Handles) : Handles :=
  if ops.closed conn.state then k else k.close conn.client

/-- What a scrape leaves behind: the state, a result, whether it failed, and
    whether its entry is deleted. -/
structure Outcome (σ ρ : Type) where
  state : σ
  result : Option ρ
  failed : Bool
  drop : Bool

/-- What one poll meets: the pods, the two rounds of answers of the CRI, the
    outcomes of `connectVM` and of the scrapes, and the order of the scrapes. -/
structure Env (σ ρ : Type) where
  podStore : PodStore
  findComputePID : FindComputePID
  findComputePIDAgain : FindComputePID
  connectVM : PodInfo → Int → Except String σ
  scrape : String → σ → Outcome σ ρ
  arrange : Table σ → Table σ
  arrange_perm : ∀ table, (arrange table).Perm table

/-- The loop that removes departed machines. -/
def departLoop (ops : Ops σ) (activeIDs : List String) : Table σ → Handles → Table σ × Handles
  | [], k => ([], k)
  | (id, conn) :: table, k =>
      if id ∈ activeIDs then
        let (table, k) := departLoop ops activeIDs table k
        ((id, conn) :: table, k)
      else departLoop ops activeIDs table (closeConn ops conn k)

/-- The loop that connects to new machines. -/
def connectLoop (ops : Ops σ) (env : Env σ ρ) (existing : List String) :
    List Target → Table σ → Handles → Table σ × Handles
  | [], table, k => (table, k)
  | t :: targets, table, k =>
      if t.containerID ∈ existing then connectLoop ops env existing targets table k
      else match env.findComputePIDAgain t.pod.podName t.pod.ns with
        -- The failure is logged; the next poll tries again.
        | .error _ => connectLoop ops env existing targets table k
        | .ok info => match env.connectVM t.pod info.pid with
            | .error _ => connectLoop ops env existing targets table k
            | .ok state =>
                let (client, k) := k.acquire
                let conn : Conn σ := { client := client, state := state }
                -- `existing` is from before the loop, so this is where two targets of one
                -- container meet.
                if t.containerID ∈ table.map Prod.fst then
                  connectLoop ops env existing targets table (closeConn ops conn k)
                else connectLoop ops env existing targets (table ++ [(t.containerID, conn)]) k

/-- What the scrapes of a poll leave behind. -/
structure Scraped (σ ρ : Type) where
  table : Table σ
  handles : Handles
  results : List ρ
  scrapeErrors : Nat
  scraped : List String

/-- The scrapes, in the order in which they report. -/
def scrapeLoop (ops : Ops σ) (scrape : String → σ → Outcome σ ρ) :
    Table σ → Handles → Scraped σ ρ
  | [], k => { table := [], handles := k, results := [], scrapeErrors := 0, scraped := [] }
  | (id, conn) :: snapshot, k =>
      if ops.skip conn.state then
        let s := scrapeLoop ops scrape snapshot k
        { s with table := (id, conn) :: s.table }
      else
        let o := scrape id conn.state
        let conn : Conn σ := { conn with state := o.state }
        -- The goroutine closes and deletes its own entry, and no other.
        let s := scrapeLoop ops scrape snapshot (if o.drop then closeConn ops conn k else k)
        { table := if o.drop then s.table else (id, conn) :: s.table,
          handles := s.handles,
          results := o.result.toList ++ s.results,
          scrapeErrors := s.scrapeErrors + (if o.failed then 1 else 0),
          scraped := id :: s.scraped }

/-- `activeIDs`. -/
def activeIDs (cfg : Filters) (env : Env σ ρ) : List String :=
  (findTargets env.findComputePID (selectPods cfg env.podStore)).map Target.containerID

/-- The table and the handles when the scrapes start. -/
def refreshTable (ops : Ops σ) (cfg : Filters) (env : Env σ ρ) (table : Table σ) (k : Handles) :
    Table σ × Handles :=
  let targets := findTargets env.findComputePID (selectPods cfg env.podStore)
  let (table, k) := departLoop ops (activeIDs cfg env) table k
  connectLoop ops env (table.map Prod.fst) targets table k

/-- `poll`. -/
def poll (ops : Ops σ) (cfg : Filters) (env : Env σ ρ) (table : Table σ) (k : Handles) :
    Scraped σ ρ :=
  let (table, k) := refreshTable ops cfg env table k
  scrapeLoop ops env.scrape (env.arrange table) k

/-- `closeAll`. -/
def closeAll (ops : Ops σ) : Table σ → Handles → Table σ × Handles
  | [], k => ([], k)
  | (_, conn) :: table, k => closeAll ops table (closeConn ops conn k)

end Poll

end LatencyExporter
