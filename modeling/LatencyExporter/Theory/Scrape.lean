import LatencyExporter.Core.Qmp.Collector

/-!
# The Loops of a Scrape

What the loops of `scrapeVM` return, said without the state they pass along:
which disks and which queues the results are for depends on the answers of
QEMU and on the queue counts the connection had cached, and the claims the
results carry are those read from the claim map in the order of the results.

## Main definitions

* `measuredDisk`, `measuredDisks`: The disks the devices are reported for.
* `queueCount`, `answered`: The queues of a device QEMU describes.
* `blkDisk`, `isController`: The virtio devices the two queue loops accept.
* `blkQueues`, `scsiQueues`: The queues of all accepted devices.
* `lookedUp`: The disks whose claims a scrape reads.
* `Reports`: The result of a scrape in these terms.

## Theorems

* `deviceLoop_disks`, `deviceLoop_read`: The device loop.
* `queueCount_countQueues`: Caching a count does not change any count.
* `blkLoop_queues`, `blkLoop_read`, `blkLoop_queueCount`: The loop over the
  virtio-blk devices.
* `scsiLoop_queues`: The loop over the virtio-scsi controllers.
* `Reports.blk_disks`, `Reports.scsi_disk`: The disks of the reported queues.
* `scrapeVM_ok`: When a scrape returns a result.
* `scrapeVM_reports`: The result of a scrape.
-/

namespace LatencyExporter

namespace Qmp

open Refresh

/-- The disk of a block device that is accepted and has histograms. -/
def measuredDisk (dev : BlockDevice) : Option String :=
  if hasHistograms dev then (extractDiskInfo dev.effectiveQDev).map Prod.fst else none

/-- The disks of all such block devices. -/
def measuredDisks (resp : List BlockDevice) : List String := resp.filterMap measuredDisk

/-- A device without a disk or without histograms is passed over, and no claim is
    looked up for it. -/
theorem deviceLoop_none (fetched : PvcMap) (dev : BlockDevice) (devs : List BlockDevice)
    (c : Cache PvcMap) (hdisk : measuredDisk dev = none) :
    deviceLoop fetched (dev :: devs) c = deviceLoop fetched devs c := by
  rw [deviceLoop]
  unfold measuredDisk at hdisk
  cases hinfo : extractDiskInfo dev.effectiveQDev with
  | none => rfl
  | some info =>
      by_cases hhist : hasHistograms dev = true
      · rw [if_pos hhist, hinfo, Option.map_some] at hdisk
        exact absurd hdisk (by simp only [reduceCtorEq, not_false_eq_true])
      · exact if_pos (Bool.eq_false_of_not_eq_true hhist)

/-- A device with both is reported, and its claim is looked up in the cache the
    devices before it left. -/
theorem deviceLoop_some (fetched : PvcMap) (dev : BlockDevice) (devs : List BlockDevice)
    (c : Cache PvcMap) (disk : String) (hdisk : measuredDisk dev = some disk) :
    deviceLoop fetched (dev :: devs) c
      = ({ disk := disk, pvc := (refreshPVC fetched c disk).1, stats := dev.stats } ::
          (deviceLoop fetched devs (refreshPVC fetched c disk).2).1,
        (deviceLoop fetched devs (refreshPVC fetched c disk).2).2) := by
  unfold measuredDisk at hdisk
  by_cases hhist : hasHistograms dev = true
  · rw [if_pos hhist, Option.map_eq_some_iff] at hdisk
    rcases hdisk with ⟨info, hinfo, hfst⟩
    rw [deviceLoop, hinfo]
    simp only [hhist, Bool.true_eq_false, if_false, hfst]
  · rw [if_neg hhist] at hdisk
    exact absurd hdisk (by simp only [reduceCtorEq, not_false_eq_true])

/-- The reported disks do not depend on the cache. -/
theorem deviceLoop_disks (fetched : PvcMap) (resp : List BlockDevice) (c : Cache PvcMap) :
    (deviceLoop fetched resp c).1.map DeviceResult.disk = measuredDisks resp := by
  unfold measuredDisks
  -- Each lookup may change the cache, so it is generalised.
  induction resp generalizing c with
  | nil => rfl
  | cons dev devs ih =>
      cases hdisk : measuredDisk dev with
      | none => rw [deviceLoop_none fetched dev devs c hdisk, ih, List.filterMap_cons_none hdisk]
      | some disk =>
          rw [deviceLoop_some fetched dev devs c disk hdisk, List.filterMap_cons_some hdisk,
            List.map_cons, ih]

/-- The claims of the devices are what reading the cache once for each disk gives. -/
theorem deviceLoop_read (fetched : PvcMap) (resp : List BlockDevice) (c : Cache PvcMap) :
    readAll PvcMap.claim "" fetched c (measuredDisks resp)
      = ((deviceLoop fetched resp c).1.map DeviceResult.pvc, (deviceLoop fetched resp c).2) := by
  unfold measuredDisks
  induction resp generalizing c with
  | nil => rfl
  | cons dev devs ih =>
      cases hdisk : measuredDisk dev with
      | none => rw [deviceLoop_none fetched dev devs c hdisk, List.filterMap_cons_none hdisk, ih]
      | some disk =>
          rw [deviceLoop_some fetched dev devs c disk hdisk, List.filterMap_cons_some hdisk,
            readAll_cons, ih]
          rfl

/-- The number of queues a scrape takes a device to have. -/
def queueCount (replies : Replies) (numQueues : String → Option Int) (path : String) : Option Int :=
  (countQueues replies numQueues path).1

/-- The queues of a device that QEMU describes. -/
def answered (replies : Replies) (numQueues : String → Option Int) (path : String) : List Nat :=
  (List.range ((queueCount replies numQueues path).getD 0).toNat).filter
    fun qi => (replies.queueStatus path qi).isSome

/-- Caching the count of one device does not change the count of any: what is
    cached is what a query answers. -/
theorem queueCount_countQueues (replies : Replies) (numQueues : String → Option Int)
    (path : String) :
    queueCount replies (countQueues replies numQueues path).2 = queueCount replies numQueues := by
  funext path'
  unfold queueCount
  cases hcached : numQueues path with
  | some nq => simp only [countQueues, hcached]
  | none =>
      cases hstatus : replies.virtioStatus path with
      | none => simp only [countQueues, hcached, hstatus]
      | some vs =>
          by_cases hpos : vs.numVqs > 0
          · have hcache : (countQueues replies numQueues path).2
                = Function.update numQueues path (some vs.numVqs) := by
              simp only [countQueues, hcached, hstatus, if_pos hpos]
            rw [hcache]
            by_cases hpath : path' = path
            · -- The new entry is what the query would answer again.
              simp only [countQueues, hpath, Function.update_self, hcached, hstatus]
            · simp only [countQueues, Function.update_of_ne hpath]
              cases numQueues path' with
              | some nq => rfl
              | none => cases replies.virtioStatus path' <;> rfl
          · -- A count that is not positive is not cached.
            have hcache : (countQueues replies numQueues path).2 = numQueues := by
              simp only [countQueues, hcached, hstatus, if_neg hpos]
            rw [hcache]

/-- The queues of the devices depend on the cached counts only. -/
theorem answered_congr (replies : Replies) (numQueues numQueues' : String → Option Int)
    (hcount : queueCount replies numQueues' = queueCount replies numQueues) :
    answered replies numQueues' = answered replies numQueues := by
  funext path
  unfold answered
  rw [hcount]

/-- The disk of a virtio-blk device. -/
def blkDisk (vdev : VirtioDevice) : Option String :=
  if isVirtioBlk vdev then (extractDiskInfo vdev.path).map Prod.fst else none

/-- The disks and numbers of the queues the virtio-blk devices have. -/
def blkQueues (replies : Replies) (numQueues : String → Option Int) (vdevs : List VirtioDevice) :
    List (String × Nat) :=
  vdevs.flatMap fun vdev => (blkDisk vdev).elim []
    fun disk => (answered replies numQueues vdev.path).map fun qi => (disk, qi)

theorem blkQueueLoop_none (replies : Replies) (fetched : PvcMap) (path disk : String) (qi : Nat)
    (qis : List Nat) (c : Cache PvcMap) (hqs : replies.queueStatus path qi = none) :
    blkQueueLoop replies fetched path disk (qi :: qis) c
      = blkQueueLoop replies fetched path disk qis c := by
  rw [blkQueueLoop, hqs]

theorem blkQueueLoop_some (replies : Replies) (fetched : PvcMap) (path disk : String) (qi : Nat)
    (qis : List Nat) (c : Cache PvcMap) (qs : VirtQueueStatus)
    (hqs : replies.queueStatus path qi = some qs) :
    blkQueueLoop replies fetched path disk (qi :: qis) c
      = ({ disk := disk, pvc := (refreshPVC fetched c disk).1, bus := "virtio", queue := qi,
           inuse := qs.inuse, vringNum := qs.vringNum } ::
          (blkQueueLoop replies fetched path disk qis (refreshPVC fetched c disk).2).1,
        (blkQueueLoop replies fetched path disk qis (refreshPVC fetched c disk).2).2) := by
  rw [blkQueueLoop, hqs]

/-- The queues of one device: their labels, and the claims read for them. -/
theorem blkQueueLoop_spec (replies : Replies) (fetched : PvcMap) (path disk : String)
    (qis : List Nat) (c : Cache PvcMap) :
    (blkQueueLoop replies fetched path disk qis c).1.map (fun vq => (vq.disk, vq.queue, vq.bus))
        = (qis.filter fun qi => (replies.queueStatus path qi).isSome).map
            (fun qi => (disk, qi, "virtio")) ∧
      readAll PvcMap.claim "" fetched c
          ((blkQueueLoop replies fetched path disk qis c).1.map VirtqueueResult.disk)
        = ((blkQueueLoop replies fetched path disk qis c).1.map VirtqueueResult.pvc,
          (blkQueueLoop replies fetched path disk qis c).2) := by
  induction qis generalizing c with
  | nil => exact ⟨rfl, rfl⟩
  | cons qi qis ih =>
      cases hqs : replies.queueStatus path qi with
      | none =>
          rw [blkQueueLoop_none replies fetched path disk qi qis c hqs,
            List.filter_cons_of_neg (by rw [hqs]; simp)]
          exact ih c
      | some qs =>
          -- The remaining queues start from the cache this read leaves.
          rcases ih (refreshPVC fetched c disk).2 with ⟨hlabels, hread⟩
          rw [blkQueueLoop_some replies fetched path disk qi qis c qs hqs,
            List.filter_cons_of_pos (by rw [hqs]; rfl)]
          refine ⟨?_, ?_⟩
          · rw [List.map_cons, List.map_cons, hlabels]
          · rw [List.map_cons, List.map_cons, readAll_cons]
            unfold refreshPVC at hread ⊢
            rw [hread]

/-- Other devices, and disks that are not accepted, have no queues here. -/
theorem blkLoop_none (replies : Replies) (fetched : PvcMap) (vdev : VirtioDevice)
    (vdevs : List VirtioDevice) (numQueues : String → Option Int) (c : Cache PvcMap)
    (hdisk : blkDisk vdev = none) :
    blkLoop replies fetched (vdev :: vdevs) numQueues c
      = blkLoop replies fetched vdevs numQueues c := by
  unfold blkDisk at hdisk
  rw [blkLoop]
  by_cases hblk : isVirtioBlk vdev = true
  · rw [if_pos hblk, Option.map_eq_none_iff] at hdisk
    simp only [hblk, hdisk, Bool.true_eq_false, if_false]
  · exact if_pos (Bool.eq_false_of_not_eq_true hblk)

/-- A disk has its queues before those of the devices after it, which see its
    count cached. -/
theorem blkLoop_some (replies : Replies) (fetched : PvcMap) (vdev : VirtioDevice)
    (vdevs : List VirtioDevice) (numQueues : String → Option Int) (c : Cache PvcMap)
    (disk : String) (hdisk : blkDisk vdev = some disk) :
    blkLoop replies fetched (vdev :: vdevs) numQueues c
      = let here := blkQueueLoop replies fetched vdev.path disk
          (List.range ((queueCount replies numQueues vdev.path).getD 0).toNat) c
        let rest := blkLoop replies fetched vdevs (countQueues replies numQueues vdev.path).2 here.2
        (here.1 ++ rest.1, rest.2) := by
  unfold blkDisk at hdisk
  by_cases hblk : isVirtioBlk vdev = true
  · rw [if_pos hblk, Option.map_eq_some_iff] at hdisk
    rcases hdisk with ⟨info, hinfo, hfst⟩
    rw [blkLoop]
    simp only [hblk, hinfo, hfst, Bool.true_eq_false, if_false]
    unfold queueCount
    -- A device whose status query fails has no queues in this scrape.
    cases hcount : countQueues replies numQueues vdev.path with
    | mk count numQueues' => cases count <;> rfl
  · rw [if_neg hblk] at hdisk
    exact absurd hdisk (by simp only [reduceCtorEq, not_false_eq_true])

/-- The loop over the disks leaves the counts as they were. -/
theorem blkLoop_queueCount (replies : Replies) (fetched : PvcMap) (vdevs : List VirtioDevice)
    (numQueues : String → Option Int) (c : Cache PvcMap) :
    queueCount replies (blkLoop replies fetched vdevs numQueues c).2.1
      = queueCount replies numQueues := by
  induction vdevs generalizing numQueues c with
  | nil => rfl
  | cons vdev vdevs ih =>
      cases hdisk : blkDisk vdev with
      | none => rw [blkLoop_none replies fetched vdev vdevs numQueues c hdisk, ih]
      | some disk =>
          rw [blkLoop_some replies fetched vdev vdevs numQueues c disk hdisk]
          exact (ih _ _).trans (queueCount_countQueues replies numQueues vdev.path)

/-- The queues of the disks, in the order of the devices, with the counts the
    connection had. -/
theorem blkLoop_queues (replies : Replies) (fetched : PvcMap) (vdevs : List VirtioDevice)
    (numQueues : String → Option Int) (c : Cache PvcMap) :
    (blkLoop replies fetched vdevs numQueues c).1.map (fun vq => (vq.disk, vq.queue, vq.bus))
      = (blkQueues replies numQueues vdevs).map (fun q => (q.1, q.2, "virtio")) := by
  unfold blkQueues
  induction vdevs generalizing numQueues c with
  | nil => rfl
  | cons vdev vdevs ih =>
      rw [List.flatMap_cons, List.map_append]
      cases hdisk : blkDisk vdev with
      | none =>
          rw [blkLoop_none replies fetched vdev vdevs numQueues c hdisk, ih]
          rfl
      | some disk =>
          rw [blkLoop_some replies fetched vdev vdevs numQueues c disk hdisk]
          simp only [List.map_append, ih, (blkQueueLoop_spec replies fetched vdev.path disk _ c).1]
          -- The devices after this one see a cache with the same counts.
          rw [answered_congr replies numQueues _
            (queueCount_countQueues replies numQueues vdev.path), Option.elim_some, List.map_map]
          rfl

/-- The claims of the queues are what reading the cache once for each queue gives. -/
theorem blkLoop_read (replies : Replies) (fetched : PvcMap) (vdevs : List VirtioDevice)
    (numQueues : String → Option Int) (c : Cache PvcMap) :
    readAll PvcMap.claim "" fetched c
        ((blkLoop replies fetched vdevs numQueues c).1.map VirtqueueResult.disk)
      = ((blkLoop replies fetched vdevs numQueues c).1.map VirtqueueResult.pvc,
        (blkLoop replies fetched vdevs numQueues c).2.2) := by
  induction vdevs generalizing numQueues c with
  | nil => rfl
  | cons vdev vdevs ih =>
      cases hdisk : blkDisk vdev with
      | none => rw [blkLoop_none replies fetched vdev vdevs numQueues c hdisk, ih]
      | some disk =>
          rw [blkLoop_some replies fetched vdev vdevs numQueues c disk hdisk]
          -- The queues after this device are read with the cache its own queues leave.
          simp only [List.map_append, readAll_append, ih,
            (blkQueueLoop_spec replies fetched vdev.path disk _ c).2]

/-- A virtio-scsi controller the scrape accepts. -/
def isController (vdev : VirtioDevice) : Bool :=
  isVirtioScsi vdev && (extractControllerName vdev.path).isSome

/-- The numbers of the queues the virtio-scsi controllers have. -/
def scsiQueues (replies : Replies) (numQueues : String → Option Int)
    (vdevs : List VirtioDevice) : List Nat :=
  (vdevs.filter isController).flatMap fun vdev => answered replies numQueues vdev.path

/-- The queues of a controller have neither a disk nor a claim. -/
theorem scsiQueueLoop_queues (replies : Replies) (path : String) (qis : List Nat) :
    (scsiQueueLoop replies path qis).map (fun vq => (vq.disk, vq.pvc, vq.queue, vq.bus))
      = (qis.filter fun qi => (replies.queueStatus path qi).isSome).map
          (fun qi => ("", "", qi, "scsi")) := by
  induction qis with
  | nil => rfl
  | cons qi qis ih =>
      rw [scsiQueueLoop]
      cases hqs : replies.queueStatus path qi with
      | none =>
          rw [List.filter_cons_of_neg (by rw [hqs]; simp)]
          exact ih
      | some qs =>
          rw [List.filter_cons_of_pos (by rw [hqs]; rfl), List.map_cons, List.map_cons, ih]

/-- A device that is no controller, or has a path without a name, is passed over. -/
theorem scsiLoop_skip (replies : Replies) (vdev : VirtioDevice) (vdevs : List VirtioDevice)
    (numQueues : String → Option Int) (hctrl : ¬ isController vdev = true) :
    scsiLoop replies (vdev :: vdevs) numQueues = scsiLoop replies vdevs numQueues := by
  unfold isController at hctrl
  rw [scsiLoop]
  by_cases hscsi : isVirtioScsi vdev = true
  · rw [hscsi, Bool.true_and, Option.not_isSome_iff_eq_none] at hctrl
    simp only [hscsi, hctrl, Bool.true_eq_false, if_false]
  · exact if_pos (Bool.eq_false_of_not_eq_true hscsi)

/-- A controller has its queues before those of the controllers after it. -/
theorem scsiLoop_take (replies : Replies) (vdev : VirtioDevice) (vdevs : List VirtioDevice)
    (numQueues : String → Option Int) (hctrl : isController vdev = true) :
    scsiLoop replies (vdev :: vdevs) numQueues
      = let here := scsiQueueLoop replies vdev.path
          (List.range ((queueCount replies numQueues vdev.path).getD 0).toNat)
        let rest := scsiLoop replies vdevs (countQueues replies numQueues vdev.path).2
        (here ++ rest.1, rest.2) := by
  unfold isController at hctrl
  rw [Bool.and_eq_true, Option.isSome_iff_exists] at hctrl
  rcases hctrl with ⟨hscsi, name, hname⟩
  rw [scsiLoop]
  simp only [hscsi, hname, Bool.true_eq_false, if_false]
  unfold queueCount
  -- Again a failed status query counts as no queues.
  cases hcount : countQueues replies numQueues vdev.path with
  | mk count numQueues' => cases count <;> rfl

/-- The queues of the controllers, in the order of the devices. -/
theorem scsiLoop_queues (replies : Replies) (vdevs : List VirtioDevice)
    (numQueues : String → Option Int) :
    (scsiLoop replies vdevs numQueues).1.map (fun vq => (vq.disk, vq.pvc, vq.queue, vq.bus))
      = (scsiQueues replies numQueues vdevs).map (fun qi => ("", "", qi, "scsi")) := by
  unfold scsiQueues
  induction vdevs generalizing numQueues with
  | nil => rfl
  | cons vdev vdevs ih =>
      by_cases hctrl : isController vdev = true
      · rw [scsiLoop_take replies vdev vdevs numQueues hctrl, List.filter_cons_of_pos hctrl,
          List.flatMap_cons]
        simp only [List.map_append, ih, scsiQueueLoop_queues]
        -- The controllers after this one see a cache with the same counts.
        rw [answered_congr replies numQueues _
          (queueCount_countQueues replies numQueues vdev.path)]
        rfl
      · rw [scsiLoop_skip replies vdev vdevs numQueues hctrl, List.filter_cons_of_neg hctrl, ih]

/-- The disks of the queues, out of their labels. -/
theorem disks_of_labels (blk : List VirtqueueResult) (queues : List (String × Nat))
    (hlabels : blk.map (fun vq => (vq.disk, vq.queue, vq.bus))
      = queues.map (fun q => (q.1, q.2, "virtio"))) :
    blk.map VirtqueueResult.disk = queues.map Prod.fst := by
  have hfst := congrArg (List.map Prod.fst) hlabels
  rw [List.map_map, List.map_map] at hfst
  exact hfst

/-- The disks whose claims a scrape reads, in the order of the reads: those of
    the reported devices, then those of the virtio-blk queues. -/
def lookedUp (conn : VmConnection) (replies : Replies) (resp : List BlockDevice) : List String :=
  measuredDisks resp ++ (blkQueues replies conn.numQueues (replies.virtio.getD [])).map Prod.fst

/-- What a scrape reports and leaves behind. The queues are those of the
    virtio-blk devices followed by those of the virtio-scsi controllers. -/
structure Reports (conn : VmConnection) (replies : Replies) (resp : List BlockDevice)
    (s : Scrape) (r : VMIResult) (blk scsi : List VirtqueueResult) : Prop where
  result : s.result = .ok r
  ns : r.ns = conn.ns
  podName : r.podName = conn.podName
  disks : r.devices.map DeviceResult.disk = measuredDisks resp
  virtqueues : r.virtqueues = blk ++ scsi
  blk_queues : blk.map (fun vq => (vq.disk, vq.queue, vq.bus))
    = (blkQueues replies conn.numQueues (replies.virtio.getD [])).map
        (fun q => (q.1, q.2, "virtio"))
  scsi_queues : scsi.map (fun vq => (vq.disk, vq.pvc, vq.queue, vq.bus))
    = (scsiQueues replies conn.numQueues (replies.virtio.getD [])).map
        (fun qi => ("", "", qi, "scsi"))
  claims : readAll PvcMap.claim "" (fetchPVCMap replies.dynClient conn.ns conn.vmi)
      ⟨conn.pvcMap, false⟩ (lookedUp conn replies resp)
    = (r.devices.map DeviceResult.pvc ++ blk.map VirtqueueResult.pvc,
      ⟨s.conn.pvcMap, s.pvcRefreshed⟩)

theorem Reports.blk_disks {conn : VmConnection} {replies : Replies} {resp : List BlockDevice}
    {s : Scrape} {r : VMIResult} {blk scsi : List VirtqueueResult}
    (hrep : Reports conn replies resp s r blk scsi) :
    blk.map VirtqueueResult.disk
      = (blkQueues replies conn.numQueues (replies.virtio.getD [])).map Prod.fst :=
  disks_of_labels blk _ hrep.blk_queues

/-- No queue of a controller names a disk. -/
theorem Reports.scsi_disk {conn : VmConnection} {replies : Replies} {resp : List BlockDevice}
    {s : Scrape} {r : VMIResult} {blk scsi : List VirtqueueResult}
    (hrep : Reports conn replies resp s r blk scsi) (vq : VirtqueueResult) (hvq : vq ∈ scsi) :
    vq.disk = "" := by
  have hmem : (vq.disk, vq.pvc, vq.queue, vq.bus)
      ∈ scsi.map (fun vq => (vq.disk, vq.pvc, vq.queue, vq.bus)) := List.mem_map_of_mem hvq
  rw [hrep.scsi_queues] at hmem
  rcases List.mem_map.mp hmem with ⟨qi, _, hqi⟩
  rw [Prod.mk.injEq] at hqi
  exact hqi.1.symm

/-- A scrape that succeeds had an open connection and an answer about the devices. -/
theorem scrapeVM_ok (cfg : PollerConfig) (conn : VmConnection) (replies : Replies) (r : VMIResult)
    (hr : (scrapeVM cfg conn replies).result.toOption = some r) :
    conn.closed = false ∧ ∃ resp, replies.blockStats = .ok resp := by
  unfold scrapeVM at hr
  -- These are the two places where a scrape returns an error.
  by_cases hclosed : conn.closed = true
  · rw [if_pos hclosed] at hr
    exact absurd hr (by simp only [Except.toOption, reduceCtorEq, not_false_eq_true])
  · refine ⟨Bool.eq_false_of_not_eq_true hclosed, ?_⟩
    rw [if_neg hclosed] at hr
    cases hresp : replies.blockStats with
    | error err =>
        rw [hresp] at hr
        exact absurd hr (by simp only [Except.toOption, reduceCtorEq, not_false_eq_true])
    | ok resp => exact ⟨resp, rfl⟩

/-- A scrape with both succeeds: the virtio commands and the claims are left out
    where they fail. -/
theorem scrapeVM_reports (cfg : PollerConfig) (conn : VmConnection) (replies : Replies)
    (resp : List BlockDevice) (hopen : conn.closed = false)
    (hresp : replies.blockStats = .ok resp) :
    ∃ r blk scsi, Reports conn replies resp (scrapeVM cfg conn replies) r blk scsi := by
  let fetched := fetchPVCMap replies.dynClient conn.ns conn.vmi
  let devices := deviceLoop fetched resp ⟨conn.pvcMap, false⟩
  let blk := blkLoop replies fetched (replies.virtio.getD []) conn.numQueues devices.2
  let scsi := scsiLoop replies (replies.virtio.getD []) blk.2.1
  -- The three loops hand the caches on from one to the next.
  have hscrape : scrapeVM cfg conn replies
      = { result := .ok
            { ns := conn.ns, name := conn.vmi, node := cfg.nodeName, podName := conn.podName,
              devices := devices.1, virtqueues := blk.1 ++ scsi.1 },
          conn := { conn with armed := (armLoop cfg replies resp conn.armed).1,
                              numQueues := scsi.2, pvcMap := blk.2.2.map },
          enabled := (armLoop cfg replies resp conn.armed).2,
          pvcRefreshed := blk.2.2.refreshed } := by
    unfold scrapeVM
    simp only [hopen, hresp, Bool.false_eq_true, if_false]
    rfl
  have hblk := blkLoop_queues replies fetched (replies.virtio.getD []) conn.numQueues devices.2
  -- The counts the controllers are read with are those of the connection.
  have hanswered : answered replies blk.2.1 = answered replies conn.numQueues :=
    answered_congr replies conn.numQueues blk.2.1
      (blkLoop_queueCount replies fetched (replies.virtio.getD []) conn.numQueues devices.2)
  rw [hscrape]
  refine ⟨_, blk.1, scsi.1, rfl, rfl, rfl, deviceLoop_disks fetched resp _, rfl, hblk, ?_, ?_⟩
  · rw [scsiLoop_queues]
    unfold scsiQueues
    rw [hanswered]
  · unfold lookedUp
    rw [readAll_append, deviceLoop_read, ← disks_of_labels _ _ hblk]
    simp only
    rw [blkLoop_read]

end Qmp

end LatencyExporter
