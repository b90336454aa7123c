import LatencyExporter.Core.Qga.Collector
import LatencyExporter.Theory.Scrape

/-!
# Claims across Failed Reads

What a failed read of the Kubernetes API does to the claims a collector knows.
Both collectors read the claims of the disks they label from the same kind of
cache, and fetch the whole map anew when a disk has no claim. A failed fetch
comes back as an empty map and replaces what was known. So a scrape keeps the
known claims through a failure exactly when it looks up no disk without a
claim, or when no claim was known (`claims_kept_iff`).

A disk without a claim is nothing unusual: a container disk or a cloud-init
volume never has one.

## Main definitions

* `FetchFails`: The API server does not return the machine.
* `Scrape.shown`, `KeepsClaims`, `ClaimsCovered`: The labels of a scrape, the
  property and the condition, for the QMP collector.
* `runConn`: The connection after several scrapes.
* `Qga.volumeOf`, `Qga.lookedUp`: The volumes a guest scrape labels.
* `Qga.GuestScrape.shown`, `Qga.KeepsClaims`, `Qga.ClaimsCovered`,
  `Qga.runVm`: The same for the guest agent collector.

## Theorems

* `fetchPVCMap_fails`: A failed fetch yields an empty map.
* `keepsClaims_iff`, `Qga.keepsClaims_iff`: One scrape.
* `Qga.diskLoop_reads`: The reads of the guest loop.
* `claims_kept_iff`: All runs of both collectors.
* `claim_lost_beside_cloudinit`: A claim lost beside a disk without one.
-/

namespace LatencyExporter

namespace Qmp

/-- The API server fails to return the machine, if it is asked at all. -/
def FetchFails (dynClient : Option (String → String → Option Value)) (ns vmi : String) : Prop :=
  ∀ get, dynClient = some get → get ns vmi = none

theorem fetchPVCMap_fails (dynClient : Option (String → String → Option Value)) (ns vmi : String)
    (hfails : FetchFails dynClient ns vmi) (disk : String) :
    (fetchPVCMap dynClient ns vmi).claim disk = "" := by
  unfold fetchPVCMap
  cases hclient : dynClient with
  | none => rfl
  | some get =>
      simp only [hfails get hclient]
      rfl

/-- The disk and the claim a result is labelled with. -/
def VMIResult.labels (r : VMIResult) : List (String × String) :=
  r.devices.map (fun d => (d.disk, d.pvc)) ++ r.virtqueues.map (fun vq => (vq.disk, vq.pvc))

/-- The labels a scrape shows. -/
def Scrape.shown (s : Scrape) : List (String × String) :=
  match s.result with
  | .error _ => []
  | .ok r => r.labels

/-- If every fetch during the scrape fails, each disk with a known claim is
    shown with it, and keeps it. -/
def KeepsClaims (cfg : PollerConfig) (conn : VmConnection) (replies : Replies) : Prop :=
  let s := scrapeVM cfg conn replies
  (s.pvcRefreshed = true → FetchFails replies.dynClient conn.ns conn.vmi) →
    Refresh.Keeps PvcMap.claim "" conn.pvcMap s.conn.pvcMap s.shown

/-- If fetches fail, no claim is known, or every disk the scrape looks up has
    one. -/
def ClaimsCovered (conn : VmConnection) (replies : Replies) : Prop :=
  FetchFails replies.dynClient conn.ns conn.vmi → conn.closed = false →
    ∀ resp, replies.blockStats = .ok resp →
      Refresh.Covered PvcMap.claim "" conn.pvcMap (lookedUp conn replies resp)

theorem keepsClaims_of_error (cfg : PollerConfig) (conn : VmConnection) (replies : Replies)
    (err : String) (hscrape : scrapeVM cfg conn replies
      = { result := .error err, conn := conn, enabled := [], pvcRefreshed := false }) :
    KeepsClaims cfg conn replies := by
  intro _ disk _
  rw [hscrape]
  exact ⟨rfl, fun label hlabel => absurd hlabel List.not_mem_nil⟩

theorem keepsClaims_iff (cfg : PollerConfig) (conn : VmConnection) (replies : Replies) :
    KeepsClaims cfg conn replies ↔ ClaimsCovered conn replies := by
  by_cases hclosed : conn.closed = true
  · -- A scrape that fails shows nothing and changes nothing.
    refine iff_of_true (keepsClaims_of_error cfg conn replies "connection closed" ?_) ?_
    · exact if_pos hclosed
    · intro _ hopen
      rw [hclosed] at hopen
      exact absurd hopen (by simp only [Bool.true_eq_false, not_false_eq_true])
  · have hopen : conn.closed = false := Bool.eq_false_of_not_eq_true hclosed
    cases hresp : replies.blockStats with
    | error err =>
        refine iff_of_true (keepsClaims_of_error cfg conn replies err ?_) ?_
        · unfold scrapeVM
          rw [if_neg hclosed, hresp]
        · intro _ _ resp hok
          rw [hresp] at hok
          exact absurd hok (by simp only [reduceCtorEq, not_false_eq_true])
    | ok resp =>
        rcases scrapeVM_reports cfg conn replies resp hopen hresp with ⟨r, blk, scsi, hrep⟩
        -- The reads are the labels of the devices and of the virtio-blk queues.
        let reads := r.devices.map (fun d => (d.disk, d.pvc)) ++
          blk.map (fun vq => (vq.disk, vq.pvc))
        have hkeys : reads.map Prod.fst = lookedUp conn replies resp := by
          rw [lookedUp, ← hrep.disks, ← hrep.blk_disks, List.map_append, List.map_map, List.map_map]
          rfl
        have hvalues : reads.map Prod.snd
            = r.devices.map DeviceResult.pvc ++ blk.map VirtqueueResult.pvc := by
          rw [List.map_append, List.map_map, List.map_map]
          rfl
        have hpass := hrep.claims
        rw [← hkeys, ← hvalues] at hpass
        -- What is shown beyond the reads belongs to no disk.
        have hshown : ∀ label ∈ (scrapeVM cfg conn replies).shown,
            label ∈ reads ∨ conn.pvcMap.claim label.1 = "" := by
          have hlabels : (scrapeVM cfg conn replies).shown = r.labels := by
            unfold Scrape.shown
            rw [hrep.result]
          intro label hlabel
          rw [hlabels, VMIResult.labels, hrep.virtqueues, List.map_append,
            ← List.append_assoc] at hlabel
          rcases List.mem_append.mp hlabel with hread | hscsi
          · exact .inl hread
          · rcases List.mem_map.mp hscsi with ⟨vq, hvq, rfl⟩
            refine .inr ?_
            rw [hrep.scsi_disk vq hvq]
            exact conn.pvcMap.unnamed
        have hiff := Refresh.keeps_iff PvcMap.claim "" _ conn.pvcMap _ _ reads _ hpass hshown
          (FetchFails replies.dynClient conn.ns conn.vmi)
          (fetchPVCMap_fails replies.dynClient conn.ns conn.vmi)
        unfold KeepsClaims ClaimsCovered
        rw [hiff, hkeys]
        refine ⟨fun h hfails _ resp' hresp' => ?_, fun h hfails => h hfails hopen resp hresp⟩
        rw [hresp, Except.ok.injEq] at hresp'
        rw [← hresp']
        exact h hfails

/-- The connection after several scrapes. -/
def runConn (cfg : PollerConfig) (conn : VmConnection) (run : List Replies) : VmConnection :=
  run.foldl (fun conn replies => (scrapeVM cfg conn replies).conn) conn

end Qmp

namespace Qga

open Refresh

open Qmp (PvcMap FetchFails)

/-- The metrics of a name of the snapshot, if any are derived: it was there
    before, and time has passed. -/
def measured (prev curr : String → Option DiskCounters) (name : String) : Option DiskMetrics :=
  match curr name, prev name with
  | some currCounters, some prevCounters =>
      let m := computeMetrics prevCounters currCounters
      if m.elapsedSec > 0 then some m else none
  | _, _ => none

/-- The volume a measured disk is labelled with. -/
def volumeOf (prev curr : String → Option DiskCounters) (diskMap : Int → Option String)
    (name : String) : Option String :=
  (measured prev curr name).bind fun m => (parseDiskIndex m.name).bind diskMap

theorem diskLoop_skip (fetched : PvcMap) (prev curr : String → Option DiskCounters)
    (diskMap : Int → Option String) (name : String) (names : List String) (c : Cache PvcMap)
    (hm : measured prev curr name = none) :
    diskLoop fetched prev curr diskMap (name :: names) c
      = diskLoop fetched prev curr diskMap names c := by
  unfold measured at hm
  rw [diskLoop]
  cases hcurr : curr name with
  | none => rfl
  | some currCounters =>
      cases hprev : prev name with
      | none => rfl
      | some prevCounters =>
          simp only [hcurr, hprev, ite_eq_right_iff, reduceCtorEq, imp_false] at hm
          exact if_neg hm

theorem diskLoop_take (fetched : PvcMap) (prev curr : String → Option DiskCounters)
    (diskMap : Int → Option String) (name : String) (names : List String) (c : Cache PvcMap)
    (m : DiskMetrics) (hm : measured prev curr name = some m) :
    diskLoop fetched prev curr diskMap (name :: names) c
      = match (parseDiskIndex m.name).bind diskMap with
        | none =>
            let rest := diskLoop fetched prev curr diskMap names c
            ({ metrics := m, disk := "", pvc := "" } :: rest.1, rest.2)
        | some volName =>
            let read := Refresh.read PvcMap.claim "" fetched c volName
            let rest := diskLoop fetched prev curr diskMap names read.2
            ({ metrics := m, disk := volName, pvc := read.1 } :: rest.1, rest.2) := by
  unfold measured at hm
  rw [diskLoop]
  cases hcurr : curr name with
  | none =>
      rw [hcurr] at hm
      exact absurd hm (by simp only [reduceCtorEq, not_false_eq_true])
  | some currCounters =>
      cases hprev : prev name with
      | none =>
          rw [hcurr, hprev] at hm
          exact absurd hm (by simp only [reduceCtorEq, not_false_eq_true])
      | some prevCounters =>
          simp only [hcurr, hprev, Option.ite_none_right_eq_some, Option.some.injEq] at hm
          rcases hm with ⟨hpos, rfl⟩
          refine (if_pos hpos).trans ?_
          cases (parseDiskIndex (computeMetrics prevCounters currCounters).name).bind diskMap <;>
            rfl

/-- The loop reads the claims of the labelled volumes in order. What it shows
    beyond them has no volume. -/
theorem diskLoop_reads (fetched : PvcMap) (prev curr : String → Option DiskCounters)
    (diskMap : Int → Option String) (names : List String) (c : Cache PvcMap) :
    ∃ reads : List (String × String),
      reads.map Prod.fst = names.filterMap (volumeOf prev curr diskMap) ∧
      readAll PvcMap.claim "" fetched c (reads.map Prod.fst)
        = (reads.map Prod.snd, (diskLoop fetched prev curr diskMap names c).2) ∧
      ∀ d ∈ (diskLoop fetched prev curr diskMap names c).1,
        (d.disk, d.pvc) ∈ reads ∨ d.disk = "" := by
  induction names generalizing c with
  | nil => exact ⟨[], rfl, rfl, fun d hd => absurd hd List.not_mem_nil⟩
  | cons name names ih =>
      cases hm : measured prev curr name with
      | none =>
          have hvol : volumeOf prev curr diskMap name = none := by
            rw [volumeOf, hm, Option.bind_none]
          rw [diskLoop_skip fetched prev curr diskMap name names c hm,
            List.filterMap_cons_none hvol]
          exact ih c
      | some m =>
          have hvol : volumeOf prev curr diskMap name = (parseDiskIndex m.name).bind diskMap := by
            rw [volumeOf, hm, Option.bind_some]
          rw [diskLoop_take fetched prev curr diskMap name names c m hm]
          cases hidx : (parseDiskIndex m.name).bind diskMap with
          | none =>
              -- A drive without a volume is shown, but reads nothing.
              rw [hidx] at hvol
              rw [List.filterMap_cons_none hvol]
              rcases ih c with ⟨reads, hkeys, hpass, hshown⟩
              refine ⟨reads, hkeys, hpass, ?_⟩
              intro d hd
              rcases List.mem_cons.mp hd with rfl | hd
              · exact .inr rfl
              · exact hshown d hd
          | some volName =>
              -- The read of this volume comes before the reads of the rest.
              rw [hidx] at hvol
              rw [List.filterMap_cons_some hvol]
              rcases ih (Refresh.read PvcMap.claim "" fetched c volName).2 with
                ⟨reads, hkeys, hpass, hshown⟩
              refine ⟨(volName, (Refresh.read PvcMap.claim "" fetched c volName).1) :: reads,
                ?_, ?_, ?_⟩
              · rw [List.map_cons, hkeys]
              · rw [List.map_cons, List.map_cons, readAll_cons, hpass]
              · intro d hd
                rcases List.mem_cons.mp hd with rfl | hd
                · exact .inl List.mem_cons_self
                · exact (hshown d hd).imp_left (List.mem_cons_of_mem _)

/-- The volumes whose claims a scrape reads. -/
def lookedUp (vs : VmState) (reply : GuestReply) (counters : List DiskCounters) : List String :=
  match vs.prevSnapshot with
  | none => []
  | some prev => reply.order.filterMap (volumeOf prev (snapshot counters) vs.diskMap)

/-- The labels a scrape shows. -/
def GuestScrape.shown (s : GuestScrape) : List (String × String) :=
  match s.result with
  | .ok (some r) => r.disks.map fun d => (d.disk, d.pvc)
  | _ => []

/-- If every fetch during the scrape fails, each volume with a known claim is
    shown with it, and keeps it. -/
def KeepsClaims (cfg : CollectorConfig) (vs : VmState) (reply : GuestReply) : Prop :=
  let s := scrapeVM cfg vs reply
  (s.pvcRefreshed = true → FetchFails reply.dynClient vs.ns vs.vmi) →
    Refresh.Keeps PvcMap.claim "" vs.pvcMap s.vm.pvcMap s.shown

/-- If fetches fail, no claim is known, or every volume the scrape looks up has
    one. -/
def ClaimsCovered (vs : VmState) (reply : GuestReply) : Prop :=
  FetchFails reply.dynClient vs.ns vs.vmi → vs.closed = false →
    ∀ counters, reply.counters = .ok counters →
      Refresh.Covered PvcMap.claim "" vs.pvcMap (lookedUp vs reply counters)

/-- The state after several scrapes. -/
def runVm (cfg : CollectorConfig) (vs : VmState) (run : List GuestReply) : VmState :=
  run.foldl (fun vs reply => (scrapeVM cfg vs reply).vm) vs

theorem keepsClaims_of_error (cfg : CollectorConfig) (vs : VmState) (reply : GuestReply)
    (err : ScrapeError) (hscrape : scrapeVM cfg vs reply
      = { result := .error err, vm := vs, pvcRefreshed := false }) :
    KeepsClaims cfg vs reply := by
  intro _ disk _
  rw [hscrape]
  exact ⟨rfl, fun label hlabel => absurd hlabel List.not_mem_nil⟩

/-- What a scrape that gets its counters reads, shows and leaves behind. -/
theorem scrapeVM_reads (cfg : CollectorConfig) (vs : VmState) (reply : GuestReply)
    (counters : List DiskCounters) (hopen : vs.closed = false)
    (hcounters : reply.counters = .ok counters) :
    ∃ reads : List (String × String),
      reads.map Prod.fst = lookedUp vs reply counters ∧
      readAll PvcMap.claim "" (Qmp.fetchPVCMap reply.dynClient vs.ns vs.vmi)
          ⟨vs.pvcMap, false⟩ (reads.map Prod.fst)
        = (reads.map Prod.snd,
          ⟨(scrapeVM cfg vs reply).vm.pvcMap, (scrapeVM cfg vs reply).pvcRefreshed⟩) ∧
      ∀ label ∈ (scrapeVM cfg vs reply).shown, label ∈ reads ∨ label.1 = "" := by
  unfold scrapeVM lookedUp
  simp only [hopen, hcounters, Bool.false_eq_true, if_false]
  cases hprev : vs.prevSnapshot with
  | none =>
      -- The first snapshot is not compared with anything.
      exact ⟨[], rfl, rfl, fun label hlabel => absurd hlabel List.not_mem_nil⟩
  | some prev =>
      rcases diskLoop_reads (Qmp.fetchPVCMap reply.dynClient vs.ns vs.vmi) prev (snapshot counters)
        vs.diskMap reply.order ⟨vs.pvcMap, false⟩ with ⟨reads, hkeys, hpass, hshown⟩
      refine ⟨reads, hkeys, hpass, ?_⟩
      intro label hlabel
      simp only [GuestScrape.shown] at hlabel
      split at hlabel
      · rename_i r hr
        split at hr
        · exact absurd hr (by simp only [Except.ok.injEq, reduceCtorEq, not_false_eq_true])
        · rw [Except.ok.injEq, Option.some.injEq] at hr
          rw [← hr] at hlabel
          rcases List.mem_map.mp hlabel with ⟨d, hd, rfl⟩
          exact hshown d hd
      · exact absurd hlabel List.not_mem_nil

theorem keepsClaims_iff (cfg : CollectorConfig) (vs : VmState) (reply : GuestReply) :
    KeepsClaims cfg vs reply ↔ ClaimsCovered vs reply := by
  by_cases hclosed : vs.closed = true
  · refine iff_of_true (keepsClaims_of_error cfg vs reply (.other "connection closed") ?_) ?_
    · exact if_pos hclosed
    · intro _ hopen
      rw [hclosed] at hopen
      exact absurd hopen (by simp only [Bool.true_eq_false, not_false_eq_true])
  · have hopen : vs.closed = false := Bool.eq_false_of_not_eq_true hclosed
    cases hcounters : reply.counters with
    | error err =>
        refine iff_of_true (keepsClaims_of_error cfg vs reply err ?_) ?_
        · unfold scrapeVM
          rw [if_neg hclosed, hcounters]
        · intro _ _ counters hok
          rw [hcounters] at hok
          exact absurd hok (by simp only [reduceCtorEq, not_false_eq_true])
    | ok counters =>
        rcases scrapeVM_reads cfg vs reply counters hopen hcounters with
          ⟨reads, hkeys, hpass, hshown⟩
        -- What is shown beyond the reads has no volume, hence no claim.
        have hiff := Refresh.keeps_iff PvcMap.claim "" _ vs.pvcMap _ _ reads _ hpass
          (fun label hlabel => (hshown label hlabel).imp_right
            fun hdisk => by rw [hdisk]; exact vs.pvcMap.unnamed)
          (FetchFails reply.dynClient vs.ns vs.vmi)
          (Qmp.fetchPVCMap_fails reply.dynClient vs.ns vs.vmi)
        unfold KeepsClaims ClaimsCovered
        rw [hiff, hkeys]
        refine ⟨fun h hfails _ counters' hok => ?_,
          fun h hfails => h hfails hopen counters hcounters⟩
        rw [hcounters, Except.ok.injEq] at hok
        rw [← hok]
        exact h hfails

end Qga

/-- Along every run of scrapes, each scrape of the run keeps the known claims
    exactly when each meets the condition in the state it starts from. -/
theorem claims_kept_iff (cfg : Qmp.PollerConfig) (conn : Qmp.VmConnection)
    (run : List Qmp.Replies) (guestCfg : Qga.CollectorConfig) (vs : Qga.VmState)
    (guestRun : List Qga.GuestReply) :
    ((∀ before replies after, run = before ++ replies :: after →
        Qmp.KeepsClaims cfg (Qmp.runConn cfg conn before) replies)
      ↔ ∀ before replies after, run = before ++ replies :: after →
        Qmp.ClaimsCovered (Qmp.runConn cfg conn before) replies) ∧
    ((∀ before reply after, guestRun = before ++ reply :: after →
        Qga.KeepsClaims guestCfg (Qga.runVm guestCfg vs before) reply)
      ↔ ∀ before reply after, guestRun = before ++ reply :: after →
        Qga.ClaimsCovered (Qga.runVm guestCfg vs before) reply) := by
  constructor
  · refine forall_congr' fun before => forall_congr' fun replies => forall_congr' fun after => ?_
    exact imp_congr_right fun _ => Qmp.keepsClaims_iff cfg _ replies
  · refine forall_congr' fun before => forall_congr' fun reply => forall_congr' fun after => ?_
    exact imp_congr_right fun _ => Qga.keepsClaims_iff guestCfg _ reply

namespace Qmp

/-- A disk with an empty latency histogram. -/
def diskWithHistogram (qdev : String) : BlockDevice :=
  .mk qdev
    { rdTotalTimeNs := 0, wrTotalTimeNs := 0, flushTotalTimeNs := 0,
      rdLatencyHistogram := some ⟨[], []⟩, wrLatencyHistogram := none,
      flushLatencyHistogram := none } none

/-- A connection that knows the claim of `rootdisk`. -/
def rootdiskConn : VmConnection :=
  { ns := "default", vmi := "vm", podName := "virt-launcher-vm", armed := fun _ => false,
    numQueues := fun _ => none,
    pvcMap := PvcMap.empty.set "rootdisk" "root-claim" (by decide), closed := false }

/-- QEMU reports `cloudinit` and `rootdisk`, and the API server fails. -/
def cloudinitReplies : Replies :=
  { blockStats := .ok [diskWithHistogram "ua-cloudinit", diskWithHistogram "ua-rootdisk"],
    enableHistogram := fun _ _ => true, virtio := none, virtioStatus := fun _ => none,
    queueStatus := fun _ _ => none, dynClient := some fun _ _ => none }

theorem claim_lost_beside_cloudinit :
    FetchFails cloudinitReplies.dynClient rootdiskConn.ns rootdiskConn.vmi ∧
      ¬ KeepsClaims ⟨"node", []⟩ rootdiskConn cloudinitReplies := by
  have hfails : FetchFails cloudinitReplies.dynClient rootdiskConn.ns rootdiskConn.vmi := by
    intro get hget
    rw [← Option.some.inj hget]
  refine ⟨hfails, ?_⟩
  intro hkeeps
  have hclaim := (hkeeps (fun _ => hfails) "rootdisk" (by decide +kernel)).1
  revert hclaim
  decide +kernel

end Qmp

end LatencyExporter
