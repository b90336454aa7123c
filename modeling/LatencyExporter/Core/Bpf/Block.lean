import LatencyExporter.Core.Bpf.Common

/-!
# Block I/O Tracing

`bpf/block_latency.c`. The issue handler stores the time under the device and
sector of the request; the completion handler looks it up, removes it and
counts the difference.

The two handlers filter by operation at different points. The issue handler
classifies the request before it touches the map. The completion handler
classifies it after the lookup and the delete.

Each handler run is one step here. `Core.Bpf.Concurrent` takes the completion
handler apart into its map operations.

## Main definitions

* `BlockRq`: The fields of a block tracepoint the handlers read.
* `rwbsOf`: The operation text of a request with one letter.
* `classifyOp`: The operation code of a request.
* `ReqKey`: The key of the start map.
* `BlockState`: The two maps.
* `blockRqIssue`, `blockRqComplete`: The two handlers.
* `BlockEvent`, `blockRun`: Traces of tracepoint events.
* `LruEvent`, `lruRun`: Traces with evictions.
-/

namespace LatencyExporter

namespace Bpf

/-- The fields both handlers read from their tracepoint record. -/
structure BlockRq where
  dev : UInt32
  sector : UInt64
  rwbs : Vector UInt8 8
deriving DecidableEq

/-- The text of a request with one letter and no flags. -/
def rwbsOf (c : Char) : Vector UInt8 8 := #v[c.toUInt8, 0, 0, 0, 0, 0, 0, 0]

/-- `classify_op`: only the first character counts. -/
def classifyOp (rwbs : Vector UInt8 8) : UInt8 :=
  if rwbs[0] = 'R'.toUInt8 then 0
  else if rwbs[0] = 'W'.toUInt8 then 1
  else if rwbs[0] = 'D'.toUInt8 then 2
  else if rwbs[0] = 'F'.toUInt8 then 3
  else 0xff

/-- `struct req_key`. -/
structure ReqKey where
  dev : UInt32
  sector : UInt64
deriving DecidableEq

/-- The key both handlers fill in. -/
def BlockRq.key (ctx : BlockRq) : ReqKey := { dev := ctx.dev, sector := ctx.sector }

/-- The maps `block_start` and `block_hists`. -/
structure BlockState where
  start : Finmap (fun _ : ReqKey => UInt64)
  hists : HistMap

/-- Both maps empty, as they are when the program is loaded. -/
def BlockState.empty : BlockState := { start := ∅, hists := ∅ }

/-- `tracepoint__block__block_rq_issue`. -/
def blockRqIssue (s : BlockState) (ctx : BlockRq) (now : Ktime) : BlockState :=
  if classifyOp ctx.rwbs = 0xff then s
  else { s with start := s.start.insert ctx.key now.ns }

/-- What the completion handler counts, from the looked-up start time on:
    nothing for a negative difference or an ignored operation. -/
def blockSample (ctx : BlockRq) (now : Ktime) (tsp : UInt64) :
    Option (HistKey × Fin maxSlots) :=
  let delta := deltaNs now.ns tsp
  if delta < 0 then none
  else
    let op := classifyOp ctx.rwbs
    -- The start time is gone by now, also for an ignored operation.
    if op = 0xff then none
    else some ({ dev := ctx.dev, op := op }, latencySlot delta)

/-- `tracepoint__block__block_rq_complete`. The entry is deleted before the
    operation is looked at. -/
def blockRqComplete (s : BlockState) (ctx : BlockRq) (now : Ktime) : BlockState :=
  match s.start.lookup ctx.key with
  | none => s
  | some tsp =>
      { start := s.start.erase ctx.key,
        hists := recordOpt s.hists (blockSample ctx now tsp) }

/-- A tracepoint fires. -/
inductive BlockEvent where
  | issue (ctx : BlockRq) (now : Ktime)
  | complete (ctx : BlockRq) (now : Ktime)

/-- The record the event carries. -/
def BlockEvent.ctx : BlockEvent → BlockRq
  | .issue ctx _ => ctx
  | .complete ctx _ => ctx

/-- Run the handler of an event. -/
def blockStep (s : BlockState) : BlockEvent → BlockState
  | .issue ctx now => blockRqIssue s ctx now
  | .complete ctx now => blockRqComplete s ctx now

/-- Run the handlers of a trace. -/
def blockRun (s : BlockState) (tr : List BlockEvent) : BlockState := tr.foldl blockStep s

theorem blockRun_cons (s : BlockState) (e : BlockEvent) (tr : List BlockEvent) :
    blockRun s (e :: tr) = blockRun (blockStep s e) tr := rfl

/-- A handler runs, or the kernel evicts an entry of one of the two maps, which
    are of type `BPF_MAP_TYPE_LRU_HASH`. -/
inductive LruEvent where
  | handler (e : BlockEvent)
  | evictStart (key : ReqKey)
  | evictHist (hk : HistKey)

/-- One handler run or eviction. -/
def lruStep (s : BlockState) : LruEvent → BlockState
  | .handler e => blockStep s e
  | .evictStart key => { s with start := s.start.erase key }
  | .evictHist hk => { s with hists := s.hists.erase hk }

/-- Handler runs with evictions in between. -/
def lruRun (s : BlockState) (tr : List LruEvent) : BlockState := tr.foldl lruStep s

end Bpf

end LatencyExporter
