import LatencyExporter.Core.Qga.Metrics
import LatencyExporter.Core.Qmp.Collector

/-!
# The Guest Agent Collector

One scrape of a virtual machine through its guest agent. A scrape reads the
disk counters of the guest, compares them with the previous reading, and labels
every disk it derives metrics for with its volume and its claim. The volumes of
the drives are those found when the machine was first seen; the claims are
fetched again when a volume has none.

A snapshot is a Go map, which is gone through in a random order, so the order
is part of what a scrape meets (`GuestReply`).

## Main definitions

* `ScrapeError`: Why a scrape fails.
* `VmState`, `CollectorConfig`, `GuestReply`: The state, the configuration and
  the surroundings of a scrape.
* `snapshot`, `diskLoop`, `scrapeVM`: One scrape.
* `handleScrapeError`: Giving up on a machine.
* `scrapeTask`: A scrape with its error handling.

## Theorems

* `handleScrapeError_frame`, `scrapeTask_vm`: What stays the same.
-/

namespace LatencyExporter

namespace Qga

/-- The errors of a scrape: `ErrCommandBlacklisted`, or any other with its
    text. -/
inductive ScrapeError where
  | commandBlacklisted
  | other (msg : String)
deriving DecidableEq

/-- The fields of `CollectorConfig` used here. -/
structure CollectorConfig where
  nodeName : String
  maxRetries : Int

/-- `vmState`. -/
structure VmState where
  ns : String
  vmi : String
  podName : String
  prevSnapshot : Option (String → Option DiskCounters)
  pvcMap : Qmp.PvcMap
  diskMap : Int → Option String
  retryCount : Int
  stopped : Bool
  stopReason : String
  closed : Bool

/-- `enrichedDisk`. -/
structure EnrichedDisk where
  metrics : DiskMetrics
  disk : String
  pvc : String

/-- `vmiResult`. -/
structure VmiResult where
  ns : String
  name : String
  node : String
  podName : String
  disks : List EnrichedDisk

/-- What the guest and the API server answer during one scrape, and the order
    in which the names of the counters are gone through. -/
structure GuestReply where
  counters : Except ScrapeError (List DiskCounters)
  order : List String
  order_nodup : order.Nodup
  mem_order : ∀ cs, counters = .ok cs → ∀ name, name ∈ order ↔ ∃ dc ∈ cs, dc.name = name
  dynClient : Option (String → String → Option Qmp.Value)

/-- The map `currSnapshot`. -/
def snapshot (counters : List DiskCounters) : String → Option DiskCounters :=
  counters.foldl (fun m dc => Function.update m dc.name (some dc)) fun _ => none

/-- The loop of `scrapeVM` over the names of the snapshot. -/
def diskLoop (fetched : Qmp.PvcMap) (prev curr : String → Option DiskCounters)
    (diskMap : Int → Option String) :
    List String → Refresh.Cache Qmp.PvcMap → List EnrichedDisk × Refresh.Cache Qmp.PvcMap
  | [], c => ([], c)
  | name :: names, c => match curr name, prev name with
      | some currCounters, some prevCounters =>
          let m := computeMetrics prevCounters currCounters
          -- Without elapsed time there is nothing to report about the disk.
          if m.elapsedSec > 0 then
            match (parseDiskIndex m.name).bind diskMap with
            -- The disk is reported without the labels of a volume.
            | none =>
                let (disks, c) := diskLoop fetched prev curr diskMap names c
                ({ metrics := m, disk := "", pvc := "" } :: disks, c)
            | some volName =>
                let (pvc, c) := Refresh.read Qmp.PvcMap.claim "" fetched c volName
                let (disks, c) := diskLoop fetched prev curr diskMap names c
                ({ metrics := m, disk := volName, pvc := pvc } :: disks, c)
          else diskLoop fetched prev curr diskMap names c
      -- A disk that was not there last time has no interval yet.
      | _, _ => diskLoop fetched prev curr diskMap names c

/-- What a scrape leaves behind: its result, which may be empty, the state, and
    whether it fetched the claims. -/
structure GuestScrape where
  result : Except ScrapeError (Option VmiResult)
  vm : VmState
  pvcRefreshed : Bool

/-- `scrapeVM`. -/
def scrapeVM (cfg : CollectorConfig) (vs : VmState) (reply : GuestReply) : GuestScrape :=
  if vs.closed then
    { result := .error (.other "connection closed"), vm := vs, pvcRefreshed := false }
  else match reply.counters with
    | .error err => { result := .error err, vm := vs, pvcRefreshed := false }
    | .ok counters =>
        let curr := snapshot counters
        let fetched := Qmp.fetchPVCMap reply.dynClient vs.ns vs.vmi
        let c : Refresh.Cache Qmp.PvcMap := { map := vs.pvcMap, refreshed := false }
        let (disks, c) := match vs.prevSnapshot with
          -- The first scrape only takes a snapshot.
          | none => ([], c)
          | some prev => diskLoop fetched prev curr vs.diskMap reply.order c
        { result := .ok <|
            if disks.length = 0 then none
            else some
              { ns := vs.ns, name := vs.vmi, node := cfg.nodeName, podName := vs.podName,
                disks := disks },
          -- The new snapshot is kept even if nothing was reported.
          vm := { vs with prevSnapshot := some curr, pvcMap := c.map, retryCount := 0 },
          pvcRefreshed := c.refreshed }

/-- `handleScrapeError`. -/
def handleScrapeError (cfg : CollectorConfig) (vs : VmState) (err : ScrapeError) : VmState :=
  match err with
  -- Refused commands stop the machine at once and leave the count as it is.
  | .commandBlacklisted => { vs with stopped := true, stopReason := "command blacklisted" }
  | .other msg =>
      let vs := { vs with retryCount := vs.retryCount + 1 }
      if vs.retryCount ≥ cfg.maxRetries then
        { vs with
          stopped := true,
          stopReason := "max retries (" ++ cfg.maxRetries.repr ++ ") exceeded: " ++ msg }
      else vs

/-- Handling an error changes the retries and the decision to stop, and nothing
    else. -/
theorem handleScrapeError_frame (cfg : CollectorConfig) (vs : VmState) (err : ScrapeError) :
    ∃ retryCount stopped stopReason, handleScrapeError cfg vs err
      = { vs with retryCount := retryCount, stopped := stopped, stopReason := stopReason } := by
  cases err with
  | commandBlacklisted => exact ⟨_, _, _, rfl⟩
  | other msg =>
      simp only [handleScrapeError]
      split
      · exact ⟨_, _, _, rfl⟩
      · exact ⟨_, _, _, rfl⟩

/-- What `poll` does with a machine that is neither stopped nor closed: a
    scrape, whose error is handled. -/
def scrapeTask (cfg : CollectorConfig) (vs : VmState) (reply : GuestReply) : GuestScrape :=
  let s := scrapeVM cfg vs reply
  match s.result with
  | .error err => { s with vm := handleScrapeError cfg s.vm err }
  | .ok _ => s

/-- A scrape changes the previous reading, the claims and what is kept about
    failures. What the machine is and where its volumes are stays. -/
theorem scrapeTask_vm (cfg : CollectorConfig) (vs : VmState) (reply : GuestReply) :
    ∃ prevSnapshot pvcMap retryCount stopped stopReason, (scrapeTask cfg vs reply).vm
      = { vs with prevSnapshot := prevSnapshot, pvcMap := pvcMap, retryCount := retryCount,
                  stopped := stopped, stopReason := stopReason } := by
  have hscrape : ∃ prevSnapshot pvcMap retryCount, (scrapeVM cfg vs reply).vm
      = { vs with prevSnapshot := prevSnapshot, pvcMap := pvcMap, retryCount := retryCount } := by
    unfold scrapeVM
    split
    · exact ⟨_, _, _, rfl⟩
    · split
      · exact ⟨_, _, _, rfl⟩
      · exact ⟨_, _, _, rfl⟩
  rcases hscrape with ⟨prevSnapshot, pvcMap, retryCount, hvm⟩
  simp only [scrapeTask]
  split
  · next err _ =>
      rcases handleScrapeError_frame cfg (scrapeVM cfg vs reply).vm err with
        ⟨retryCount', stopped, stopReason, herr⟩
      rw [herr, hvm]
      exact ⟨prevSnapshot, pvcMap, retryCount', stopped, stopReason, rfl⟩
  · rw [hvm]
    exact ⟨prevSnapshot, pvcMap, retryCount, vs.stopped, vs.stopReason, rfl⟩

end Qga

end LatencyExporter
