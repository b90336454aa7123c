import LatencyExporter.Core.Bpf.Block
import LatencyExporter.Core.Bpf.Nfs
import LatencyExporter.Lib.Stopwatch
import LatencyExporter.Theory.Bits

/-!
# Tracing as a Stopwatch

The block and NFS programs as instances of the keyed stopwatch. The start map
is the table of pending values, the counters of all histograms are the tally,
and a handler run is one stopwatch event (`blockView_step`, `nfsView_step`).
What a well-formed trace records then follows from `Stopwatch.run_exact`.

Well-formedness is relative to a key. For block requests the key of the start
map is the device and the sector, which is what distinguishes requests in
flight. For NFS requests it is the device, the operation and the range, but
not the file. Two files of one mount read at the same offset in the same
chunk size share a key, and the second start overwrites the first
(`not_nfsExact_two_files`).

## Main definitions

* `tallyOf`: The counters of all histograms.
* `BlockRequest`: A block request with an identity.
* `blockTracer`, `blockView`: Block tracing as a stopwatch.
* `HasOp`, `completedIn`: Operations by their letter; completed requests.
* `BlockExact`: The histograms and the start map are exact.
* `NfsRequest`: An NFS request with an identity.
* `nfsTracer`, `nfsView`: NFS tracing as a stopwatch.
* `doneIn`, `NfsExact`: The histograms are exact.

## Theorems

* `tallyOf_recordOpt`: Recording a sample is counting a label.
* `deltaNs_of_le`: The difference of ordered clock readings.
* `blockView_run`, `nfsView_run`: A traced run is a stopwatch run.
* `block_tracing_exact`: Block tracing is exact.
* `nfs_tracing_exact`: NFS tracing is exact when ranges in flight differ.
* `not_nfsExact_two_files`: It is not when two files share a range.
-/

namespace LatencyExporter

namespace Bpf

open Stopwatch

/-- The counters of all histograms. -/
def tallyOf (hists : HistMap) : HistKey × Fin maxSlots → Nat :=
  fun l => sampleCount hists l.1 l.2

/-- Recording a sample is counting its label. -/
theorem tallyOf_recordOpt (hists : HistMap) (label : Option (HistKey × Fin maxSlots)) :
    tallyOf (recordOpt hists label) = bump (tallyOf hists) label := by
  funext l
  cases label with
  | none => simp only [recordOpt, bump, reduceCtorEq, if_false, Nat.add_zero]
  | some x =>
      simp only [tallyOf, recordOpt, bump, sampleCount_recordSample, Option.some.injEq,
        Prod.ext_iff, eq_comm]

/-- The earlier of two clock readings, subtracted from the later one. -/
theorem deltaNs_of_le (now tsp : Ktime) (h : tsp.ns.toNat ≤ now.ns.toNat) :
    deltaNs now.ns tsp.ns = ((now.ns.toNat - tsp.ns.toNat : Nat) : Int) := by
  have hlt := now.lt
  have hsub : (now.ns - tsp.ns).toNat = now.ns.toNat - tsp.ns.toNat :=
    UInt64.toNat_sub_of_le _ _ (UInt64.le_iff_toNat_le.mpr h)
  rw [deltaNs, BitVec.toInt_eq_toNat_of_lt]
  · rw [UInt64.toNat_toBitVec, hsub]
  · rw [UInt64.toNat_toBitVec, hsub]
    omega

/-- The signed difference of two clock readings tells which is later. -/
theorem deltaNs_nonneg_iff (now tsp : Ktime) :
    0 ≤ deltaNs now.ns tsp.ns ↔ tsp.ns.toNat ≤ now.ns.toNat := by
  constructor
  · intro h
    by_contra hlt
    -- The other way round the subtraction wraps into the upper half.
    have hnow := now.lt
    have htsp := tsp.lt
    have hsub : (now.ns - tsp.ns).toBitVec.toNat = 2 ^ 64 - tsp.ns.toNat + now.ns.toNat := by
      rw [UInt64.toNat_toBitVec, UInt64.toNat_sub]
      omega
    rw [deltaNs, BitVec.toInt_eq_toNat_cond, hsub] at h
    omega
  · intro h
    rw [deltaNs_of_le now tsp h]
    omega

/-- A block request. The identity tells requests with the same fields apart. -/
structure BlockRequest where
  id : Nat
  rq : BlockRq
deriving DecidableEq

/-- The tracepoint event of a request being issued or completed. -/
def blockEventOf : Event BlockRequest Ktime → BlockEvent
  | .start r t => .issue r.rq t
  | .stop r t => .complete r.rq t

/-- Block tracing as a stopwatch. -/
def blockTracer : Tracer BlockRequest ReqKey UInt64 (HistKey × Fin maxSlots) Ktime where
  key r := r.rq.key
  tracked r := classifyOp r.rq.rwbs ≠ 0xff
  store _ t := t.ns
  read r t v := blockSample r.rq t v

/-- The two maps of the block program as a stopwatch table. -/
def blockView (s : BlockState) : Table ReqKey UInt64 (HistKey × Fin maxSlots) :=
  { pending := s.start, tally := tallyOf s.hists }

/-- A handler of the block program does what the stopwatch does. -/
theorem blockView_step (s : BlockState) (e : Event BlockRequest Ktime) :
    blockView (blockStep s (blockEventOf e)) = blockTracer.act (blockView s) e := by
  cases e with
  | start r t =>
      simp only [blockEventOf, blockStep, blockRqIssue, Tracer.act, blockTracer, ne_eq,
        decide_eq_true_eq, ite_not]
      split <;> rfl
  | stop r t =>
      have hpending : (blockView s).pending = s.start := rfl
      simp only [blockEventOf, blockStep, blockRqComplete, Tracer.act, blockTracer, hpending]
      cases s.start.lookup r.rq.key with
      | none => rfl
      | some v => simp only [blockView, tallyOf_recordOpt]

/-- So a traced run is a run of the stopwatch. -/
theorem blockView_run (s : BlockState) (tr : List (Event BlockRequest Ktime)) :
    blockView (blockRun s (tr.map blockEventOf)) = blockTracer.run (blockView s) tr := by
  induction tr generalizing s with
  | nil => rfl
  | cons e tr ih =>
      rw [List.map_cons, blockRun_cons, ih, blockView_step]
      rfl

/-- The clock never goes back along the trace. -/
def TimeOrdered {R : Type} (tr : List (Event R Ktime)) : Prop :=
  tr.Pairwise fun e e' => e.time.ns.toNat ≤ e'.time.ns.toNat

/-- The time from start to stop in nanoseconds. -/
def durationNs {R : Type} (x : R × Ktime × Ktime) : Nat := x.2.2.ns.toNat - x.2.1.ns.toNat

/-- The text of a request starts with the letter of the operation. -/
def HasOp (rwbs : Vector UInt8 8) (op : UInt8) : Prop :=
  (rwbs[0]? = some 'R'.toUInt8 ∧ op = 0) ∨ (rwbs[0]? = some 'W'.toUInt8 ∧ op = 1) ∨
    (rwbs[0]? = some 'D'.toUInt8 ∧ op = 2) ∨ (rwbs[0]? = some 'F'.toUInt8 ∧ op = 3)

instance (rwbs : Vector UInt8 8) (op : UInt8) : Decidable (HasOp rwbs op) :=
  inferInstanceAs (Decidable (_ ∨ _))

/-- The letters are those the program looks for. -/
theorem hasOp_iff (rwbs : Vector UInt8 8) (op : UInt8) :
    HasOp rwbs op ↔ classifyOp rwbs = op ∧ classifyOp rwbs ≠ 0xff := by
  have hRc : 'R'.toUInt8 = 82 := rfl
  have hWc : 'W'.toUInt8 = 87 := rfl
  have hDc : 'D'.toUInt8 = 68 := rfl
  have hFc : 'F'.toUInt8 = 70 := rfl
  have hfirst : rwbs[0]? = some rwbs[0] := rfl
  unfold HasOp classifyOp
  rw [hRc, hWc, hDc, hFc, hfirst]
  simp only [Option.some.injEq]
  -- One letter at a time, so the others are excluded.
  split_ifs with hR hW hD hF
  · simp [hR, eq_comm]
  · simp [hW, eq_comm]
  · simp [hD, eq_comm]
  · simp [hF, eq_comm]
  · simp [hR, hW, hD, hF]

/-- The number of requests of a device and an operation that completed with a
    duration in the slot. -/
def completedIn (tr : List (Event BlockRequest Ktime)) (dev : UInt32) (op : UInt8)
    (slot : Fin maxSlots) : Nat :=
  (finished tr).countP fun x =>
    x.1.rq.dev = dev ∧ HasOp x.1.rq.rwbs op ∧ slotIndex (durationNs x) = slot.val

/-- The counters are the numbers of completed requests by device, operation
    and slot of their own duration, and are read as such as long as they fit
    into 64 bits. The start map holds the requests in flight of a known
    operation, under their device and sector, each with its own issue time. -/
def BlockExact (tr : List (Event BlockRequest Ktime)) (s : BlockState) : Prop :=
  (∀ dev op slot, sampleCount s.hists ⟨dev, op⟩ slot = completedIn tr dev op slot) ∧
  (∀ dev op slot, completedIn tr dev op slot < 2 ^ 64 →
    (readCount s.hists ⟨dev, op⟩ slot).toNat = completedIn tr dev op slot) ∧
  (∀ dev sector v, s.start.lookup ⟨dev, sector⟩ = some v ↔ ∃ r t, InFlight tr r ∧
    r.rq.dev = dev ∧ r.rq.sector = sector ∧ (∃ op, HasOp r.rq.rwbs op) ∧
    startTime tr r = some t ∧ v = t.ns)

/-- What a completion with ordered times counts. -/
theorem blockSample_eq (ctx : BlockRq) (now tsp : Ktime) (h : tsp.ns.toNat ≤ now.ns.toNat)
    (hk : HistKey) (slot : Fin maxSlots) :
    blockSample ctx now tsp.ns = some (hk, slot) ↔
      ctx.dev = hk.dev ∧ classifyOp ctx.rwbs = hk.op ∧ classifyOp ctx.rwbs ≠ 0xff ∧
        slotIndex (now.ns.toNat - tsp.ns.toNat) = slot.val := by
  have hlt := now.lt
  have hslot := latencySlot_val (now.ns.toNat - tsp.ns.toNat) (by omega)
  have hnonneg : ¬ ((now.ns.toNat - tsp.ns.toNat : Nat) : Int) < 0 := by omega
  simp only [blockSample, deltaNs_of_le now tsp h, if_neg hnonneg]
  -- An unclassified operation is not counted, on either side.
  by_cases hop : classifyOp ctx.rwbs = 0xff
  · simp only [hop, if_true, reduceCtorEq, ne_eq, not_true_eq_false, false_and, and_false]
  · rw [if_neg hop]
    simp only [Option.some.injEq, Prod.mk.injEq, HistKey.ext_iff, Fin.ext_iff, hslot, ne_eq, hop,
      not_false_eq_true, true_and, and_assoc]

/-- Block tracing is exact for every interleaving of requests that differ in
    device or sector while they are in flight. -/
theorem block_tracing_exact (tr : List (Event BlockRequest Ktime))
    (hwf : WellFormed (fun r : BlockRequest => (r.rq.dev, r.rq.sector)) tr)
    (htime : TimeOrdered tr) :
    BlockExact tr (blockRun BlockState.empty (tr.map blockEventOf)) := by
  -- The key is made of device and sector.
  have hwf' : WellFormed blockTracer.key tr := by
    refine hwf.of_key _ _ _ fun r r' h => ?_
    rw [Prod.mk.injEq]
    exact ⟨congrArg ReqKey.dev h, congrArg ReqKey.sector h⟩
  rcases run_exact blockTracer tr hwf' with ⟨hholds, hcounts⟩
  have hview : blockTracer.run Table.empty tr
      = blockView (blockRun BlockState.empty (tr.map blockEventOf)) :=
    (blockView_run BlockState.empty tr).symm
  rw [hview] at hholds hcounts
  have hexact : ∀ dev op slot, sampleCount
      (blockRun BlockState.empty (tr.map blockEventOf)).hists ⟨dev, op⟩ slot
        = completedIn tr dev op slot := by
    intro dev op slot
    refine (hcounts (⟨dev, op⟩, slot)).trans (List.countP_congr fun x hx => ?_)
    have hle : x.2.1.ns.toNat ≤ x.2.2.ns.toNat :=
      hwf.finished_le _ (fun a b : Ktime => a.ns.toNat ≤ b.ns.toNat) tr htime x hx
    have hiff := blockSample_eq x.1.rq x.2.2 x.2.1 hle ⟨dev, op⟩ slot
    rw [Bool.and_eq_true, decide_eq_true_eq, decide_eq_true_eq]
    simp only [blockTracer, hiff, hasOp_iff, durationNs, decide_eq_true_eq, and_assoc]
    -- A counted completion is of a classified operation, hence tracked.
    exact ⟨fun h => h.2, fun h => ⟨h.2.2.1, h⟩⟩
  refine ⟨hexact, fun dev op slot hlt => ?_, fun dev sector v => ?_⟩
  · rw [← hexact] at hlt ⊢
    exact readCount_toNat _ _ slot hlt
  · refine (hholds ⟨dev, sector⟩ v).trans ?_
    simp only [blockTracer, decide_eq_true_eq, BlockRq.key, ReqKey.mk.injEq, hasOp_iff,
      exists_eq_left']
    refine exists_congr fun r => exists_congr fun t => ?_
    rw [and_left_comm (a := classifyOp r.rq.rwbs ≠ 0xff), and_assoc]

/-- Two overlapping requests, the second one still in flight. -/
def overlapTrace : List (Event BlockRequest Ktime) :=
  let r : BlockRequest := ⟨0, ⟨1, 8, rwbsOf 'R'⟩⟩
  let q : BlockRequest := ⟨1, ⟨1, 16, rwbsOf 'W'⟩⟩
  [.start r (.early 0), .start q (.early 5), .stop r (.early 9000)]

/-- The requests differ in their sectors. -/
theorem block_tracing_exact_overlap :
    BlockExact overlapTrace (blockRun BlockState.empty (overlapTrace.map blockEventOf)) := by
  refine block_tracing_exact overlapTrace ?_ ?_
  · refine .stop [_, _] _ _ (.start [_] _ _ (.start [] _ _ .nil ?_ ?_) ?_ ?_) ?_ <;>
      simp [InFlight]
  · unfold TimeOrdered
    decide

/-- The operation of an NFS request. -/
inductive NfsOp where
  | read
  | write
deriving DecidableEq

/-- The operation code the handlers use. -/
def NfsOp.code : NfsOp → UInt8
  | .read => 0
  | .write => 1

/-- An NFS request. The identity tells requests with the same fields apart. -/
structure NfsRequest where
  id : Nat
  hdr : PgioHeader
  op : NfsOp
deriving DecidableEq

/-- The key the start map has for a request. -/
def NfsRequest.key (r : NfsRequest) : NfsReqKey := nfsFillKey r.hdr r.op.code

/-- The tracepoint event of a request being initiated or done. -/
def nfsEventOf : Event NfsRequest Ktime → NfsEvent
  | .start ⟨_, hdr, .read⟩ t => .initiateRead hdr t
  | .start ⟨_, hdr, .write⟩ t => .initiateWrite hdr t
  | .stop ⟨_, hdr, .read⟩ t => .readpageDone hdr t
  | .stop ⟨_, hdr, .write⟩ t => .writebackDone hdr t

/-- NFS tracing as a stopwatch. -/
def nfsTracer : Tracer NfsRequest NfsReqKey UInt64 (HistKey × Fin maxSlots) Ktime where
  key := NfsRequest.key
  tracked _ := true
  store _ t := t.ns
  read r t v := nfsSample { dev := r.hdr.sDev, op := r.op.code } t v

/-- The two maps of the NFS program as a stopwatch table. -/
def nfsView (s : NfsState) : Table NfsReqKey UInt64 (HistKey × Fin maxSlots) :=
  { pending := s.start, tally := tallyOf s.hists }

/-- Both tracepoints for the start are one function with another operation. -/
theorem nfsStep_start (s : NfsState) (r : NfsRequest) (t : Ktime) :
    nfsStep s (nfsEventOf (.start r t)) = nfsInitiate r.op.code s r.hdr t := by
  rcases r with ⟨id, hdr, op⟩
  cases op <;> rfl

/-- So are the two for the end. -/
theorem nfsStep_stop (s : NfsState) (r : NfsRequest) (t : Ktime) :
    nfsStep s (nfsEventOf (.stop r t)) = nfsDone r.op.code s r.hdr t := by
  rcases r with ⟨id, hdr, op⟩
  cases op <;> rfl

/-- A handler of the NFS program does what the stopwatch does. -/
theorem nfsView_step (s : NfsState) (e : Event NfsRequest Ktime) :
    nfsView (nfsStep s (nfsEventOf e)) = nfsTracer.act (nfsView s) e := by
  cases e with
  | start r t =>
      rw [nfsStep_start]
      rfl
  | stop r t =>
      -- The tracer and the handler look at the same entry of the start map.
      have hpending : (nfsView s).pending = s.start := rfl
      rw [nfsStep_stop]
      simp only [nfsDone, nfsRecordLatency, Tracer.act, nfsTracer, hpending, NfsRequest.key]
      cases s.start.lookup (nfsFillKey r.hdr r.op.code) with
      | none => rfl
      | some v =>
          simp only [nfsView, tallyOf_recordOpt]
          rfl

/-- So a traced run is a run of the stopwatch. -/
theorem nfsView_run (s : NfsState) (tr : List (Event NfsRequest Ktime)) :
    nfsView (nfsRun s (tr.map nfsEventOf)) = nfsTracer.run (nfsView s) tr := by
  induction tr generalizing s with
  | nil => rfl
  | cons e tr ih =>
      change nfsView (nfsRun (nfsStep s (nfsEventOf e)) (tr.map nfsEventOf)) = _
      rw [ih, nfsView_step]
      rfl

/-- The number of requests of a device and an operation that were done with a
    duration in the slot. -/
def doneIn (tr : List (Event NfsRequest Ktime)) (hk : HistKey) (slot : Fin maxSlots) : Nat :=
  (finished tr).countP fun x =>
    x.1.hdr.sDev = hk.dev ∧ x.1.op.code = hk.op ∧ slotIndex (durationNs x) = slot.val

/-- The counters are the numbers of done requests by device, operation and
    slot of their own duration. -/
def NfsExact (tr : List (Event NfsRequest Ktime)) (s : NfsState) : Prop :=
  ∀ hk slot, sampleCount s.hists hk slot = doneIn tr hk slot

/-- What the end of a request with ordered times counts. -/
theorem nfsSample_eq (hk' : HistKey) (now tsp : Ktime) (h : tsp.ns.toNat ≤ now.ns.toNat)
    (hk : HistKey) (slot : Fin maxSlots) :
    nfsSample hk' now tsp.ns = some (hk, slot) ↔
      hk' = hk ∧ slotIndex (now.ns.toNat - tsp.ns.toNat) = slot.val := by
  have hlt := now.lt
  have hslot := latencySlot_val (now.ns.toNat - tsp.ns.toNat) (by omega)
  have hnonneg : ¬ ((now.ns.toNat - tsp.ns.toNat : Nat) : Int) < 0 := by omega
  simp only [nfsSample, deltaNs_of_le now tsp h, if_neg hnonneg, Option.some.injEq,
    Prod.mk.injEq, Fin.ext_iff, hslot]

/-- NFS tracing is exact for every interleaving of requests that differ in
    device, operation, offset or count while they are in flight, and so is what
    user space reads of it as long as the counters fit into 64 bits. -/
theorem nfs_tracing_exact (tr : List (Event NfsRequest Ktime))
    (hwf : WellFormed NfsRequest.key tr) (htime : TimeOrdered tr) :
    NfsExact tr (nfsRun NfsState.empty (tr.map nfsEventOf)) ∧
    ∀ hk slot, doneIn tr hk slot < 2 ^ 64 →
      (readCount (nfsRun NfsState.empty (tr.map nfsEventOf)).hists hk slot).toNat
        = doneIn tr hk slot := by
  have hcounts := (run_exact nfsTracer tr hwf).2
  have hview : nfsTracer.run Table.empty tr
      = nfsView (nfsRun NfsState.empty (tr.map nfsEventOf)) :=
    (nfsView_run NfsState.empty tr).symm
  rw [hview] at hcounts
  have hexact : NfsExact tr (nfsRun NfsState.empty (tr.map nfsEventOf)) := by
    intro hk slot
    refine (hcounts (hk, slot)).trans (List.countP_congr fun x hx => ?_)
    -- Time does not run backwards, so the handler drops none of the samples.
    have hle : x.2.1.ns.toNat ≤ x.2.2.ns.toNat :=
      hwf.finished_le _ (fun a b : Ktime => a.ns.toNat ≤ b.ns.toNat) tr htime x hx
    have hiff := nfsSample_eq { dev := x.1.hdr.sDev, op := x.1.op.code } x.2.2 x.2.1 hle hk slot
    rw [Bool.and_eq_true, decide_eq_true_eq, decide_eq_true_eq]
    simp only [nfsTracer, hiff, durationNs, true_and, HistKey.ext_iff, and_assoc]
  refine ⟨hexact, fun hk slot hlt => ?_⟩
  rw [← hexact hk slot] at hlt ⊢
  exact readCount_toNat _ hk slot hlt

/-- What tells NFS requests in flight apart, the file included. -/
def NfsRequest.fileKey (r : NfsRequest) : UInt32 × UInt64 × NfsOp × UInt64 × UInt32 :=
  (r.hdr.sDev, r.hdr.ino, r.op, r.hdr.offset, r.hdr.count)

/-- A read of the first page of a file. -/
def readOf (id : Nat) (ino : UInt64) : NfsRequest := ⟨id, ⟨1, ino, 0, 4096⟩, .read⟩

/-- Two files of one mount read at the same offset, each for 2 ms. -/
def twoFilesTrace : List (Event NfsRequest Ktime) :=
  [.start (readOf 0 1) (.early 0), .start (readOf 1 2) (.early 1000000),
    .stop (readOf 0 1) (.early 2000000), .stop (readOf 1 2) (.early 3000000)]

/-- The second start overwrites the first, so the first end measures the second
    read. -/
theorem not_nfsExact_two_files :
    WellFormed NfsRequest.fileKey twoFilesTrace ∧ TimeOrdered twoFilesTrace ∧
      ¬ NfsExact twoFilesTrace (nfsRun NfsState.empty (twoFilesTrace.map nfsEventOf)) := by
  refine ⟨?_, ?_, fun h => ?_⟩
  · refine .stop [_, _, _] _ _ (.stop [_, _] _ _ (.start [_] _ _ (.start [] _ _ .nil ?_ ?_)
      ?_ ?_) ?_) ?_ <;> simp [InFlight, NfsRequest.fileKey, readOf]
  · unfold TimeOrdered
    decide
  · -- Both reads take 2 ms, and slot 10 stays empty.
    have h10 := h ⟨1, 0⟩ ⟨10, by decide⟩
    revert h10
    decide +kernel

/-- The same two files read at different offsets. -/
def twoOffsetsTrace : List (Event NfsRequest Ktime) :=
  [.start (readOf 0 1) (.early 0), .start ⟨1, ⟨1, 2, 4096, 4096⟩, .read⟩ (.early 1000000),
    .stop (readOf 0 1) (.early 2000000)]

/-- The read that is done took 2 ms, which is read in slot 10. -/
theorem nfs_tracing_exact_two_offsets :
    NfsExact twoOffsetsTrace (nfsRun NfsState.empty (twoOffsetsTrace.map nfsEventOf)) ∧
    (readCount (nfsRun NfsState.empty (twoOffsetsTrace.map nfsEventOf)).hists ⟨1, 0⟩
      ⟨10, by decide⟩).toNat = 1 := by
  have hone : doneIn twoOffsetsTrace ⟨1, 0⟩ ⟨10, by decide⟩ = 1 := by decide +kernel
  refine (nfs_tracing_exact twoOffsetsTrace ?_ ?_).imp id fun hread =>
    (hread ⟨1, 0⟩ ⟨10, by decide⟩ (by rw [hone]; decide)).trans hone
  · refine .stop [_, _] _ _ (.start [_] _ _ (.start [] _ _ .nil ?_ ?_) ?_ ?_) ?_ <;>
      simp [InFlight, NfsRequest.key, nfsFillKey, readOf]
  · unfold TimeOrdered
    decide

end Bpf

end LatencyExporter
