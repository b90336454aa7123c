import LatencyExporter.Core.Bpf.Common

/-!
# NFS Tracing

`bpf/nfs_latency.c` and `bpf/nfs_kprobe_latency.c`, the two ways NFS latency
is measured. The first follows read and write requests through the raw
tracepoints of the NFS client and keys them by what the request header says.
The second brackets calls into the NFS file operations with entry and return
probes and keys them by thread.

`PgioHeader` carries the inode number along with the fields the handlers
read. The handlers go through the inode to the superblock and never read its
number; it is here so that a statement can tell two files apart.

## Main definitions

* `PgioHeader`: The fields of a request header.
* `NfsReqKey`: The key of the start map.
* `nfsFillKey`: The key of a request.
* `NfsState`: The two maps.
* `nfsRecordLatency`: The shared completion handler.
* `NfsEvent`, `nfsStep`, `nfsRun`: The four tracepoints.
* `KprobeStart`: What an entry probe stores.
* `KprobeState`: The two maps of the probe program.
* `recordStart`, `kretprobeNfsVfs`: The entry and return probes.
* `KprobeEvent`, `kprobeStep`, `kprobeRun`: Calls and returns of threads.
-/

namespace LatencyExporter

namespace Bpf

/-- What a `struct nfs_pgio_header` says about a request: the device number of
    the superblock of its inode, the number of the inode, and the range. -/
structure PgioHeader where
  sDev : UInt32
  ino : UInt64
  offset : UInt64
  count : UInt32
deriving DecidableEq

/-- `struct nfs_req_key`. -/
structure NfsReqKey where
  dev : UInt32
  count : UInt32
  offset : UInt64
  op : UInt8
deriving DecidableEq

/-- `nfs_fill_key`. -/
def nfsFillKey (hdr : PgioHeader) (op : UInt8) : NfsReqKey :=
  -- The inode of the header is not part of the key.
  { dev := hdr.sDev, count := hdr.count, offset := hdr.offset, op := op }

/-- The maps `nfs_start` and `nfs_hists`. -/
structure NfsState where
  start : Finmap (fun _ : NfsReqKey => UInt64)
  hists : HistMap

/-- Both maps empty, as they are when the program is loaded. -/
def NfsState.empty : NfsState := { start := ∅, hists := ∅ }

/-- What a completion counts, from the looked-up start time on: nothing for a
    negative difference. -/
def nfsSample (hk : HistKey) (now : Ktime) (tsp : UInt64) : Option (HistKey × Fin maxSlots) :=
  let delta := deltaNs now.ns tsp
  if delta < 0 then none else some (hk, latencySlot delta)

/-- `nfs_record_latency`. -/
def nfsRecordLatency (s : NfsState) (nk : NfsReqKey) (hk : HistKey) (now : Ktime) : NfsState :=
  match s.start.lookup nk with
  | none => s
  | some tsp =>
      { start := s.start.erase nk,
        hists := recordOpt s.hists (nfsSample hk now tsp) }

/-- The body shared by `raw_tp_nfs_initiate_read` and
    `raw_tp_nfs_initiate_write`. -/
def nfsInitiate (op : UInt8) (s : NfsState) (hdr : PgioHeader) (now : Ktime) : NfsState :=
  { s with start := s.start.insert (nfsFillKey hdr op) now.ns }

/-- The body shared by `raw_tp_nfs_readpage_done` and
    `raw_tp_nfs_writeback_done`. -/
def nfsDone (op : UInt8) (s : NfsState) (hdr : PgioHeader) (now : Ktime) : NfsState :=
  let nk := nfsFillKey hdr op
  nfsRecordLatency s nk { dev := nk.dev, op := op } now

/-- `raw_tp_nfs_initiate_read`. -/
def nfsInitiateRead := nfsInitiate 0

/-- `raw_tp_nfs_initiate_write`. -/
def nfsInitiateWrite := nfsInitiate 1

/-- `raw_tp_nfs_readpage_done`. -/
def nfsReadpageDone := nfsDone 0

/-- `raw_tp_nfs_writeback_done`. -/
def nfsWritebackDone := nfsDone 1

/-- A raw tracepoint fires. -/
inductive NfsEvent where
  | initiateRead (hdr : PgioHeader) (now : Ktime)
  | initiateWrite (hdr : PgioHeader) (now : Ktime)
  | readpageDone (hdr : PgioHeader) (now : Ktime)
  | writebackDone (hdr : PgioHeader) (now : Ktime)

/-- Run the handler of an event. -/
def nfsStep (s : NfsState) : NfsEvent → NfsState
  | .initiateRead hdr now => nfsInitiateRead s hdr now
  | .initiateWrite hdr now => nfsInitiateWrite s hdr now
  | .readpageDone hdr now => nfsReadpageDone s hdr now
  | .writebackDone hdr now => nfsWritebackDone s hdr now

/-- Run the handlers of a trace. -/
def nfsRun (s : NfsState) (tr : List NfsEvent) : NfsState := tr.foldl nfsStep s

/-- `struct nfs_kprobe_start_val`. -/
structure KprobeStart where
  ts : UInt64
  dev : UInt32
  op : UInt8
deriving DecidableEq

/-- The maps `nfs_kprobe_start`, keyed by `pid_tgid`, and `nfs_kprobe_hists`. -/
structure KprobeState where
  start : Finmap (fun _ : UInt64 => KprobeStart)
  hists : HistMap

/-- `record_start`, which the five entry probes call with the device they
    reach and their own operation code. -/
def recordStart (s : KprobeState) (pidTgid : UInt64) (dev : UInt32) (op : UInt8) (now : Ktime) :
    KprobeState :=
  { s with start := s.start.insert pidTgid { ts := now.ns, dev := dev, op := op } }

/-- `kprobe_nfs_file_read`. -/
def kprobeNfsFileRead (s : KprobeState) (pidTgid : UInt64) (sDev : UInt32) (now : Ktime) :
    KprobeState := recordStart s pidTgid sDev 0 now

/-- `kprobe_nfs_file_write`. -/
def kprobeNfsFileWrite (s : KprobeState) (pidTgid : UInt64) (sDev : UInt32) (now : Ktime) :
    KprobeState := recordStart s pidTgid sDev 1 now

/-- `kprobe_nfs_file_open`. -/
def kprobeNfsFileOpen (s : KprobeState) (pidTgid : UInt64) (sDev : UInt32) (now : Ktime) :
    KprobeState := recordStart s pidTgid sDev 2 now

/-- `kprobe_nfs4_file_open`. -/
def kprobeNfs4FileOpen (s : KprobeState) (pidTgid : UInt64) (sDev : UInt32) (now : Ktime) :
    KprobeState := recordStart s pidTgid sDev 2 now

/-- `kprobe_nfs_getattr`. -/
def kprobeNfsGetattr (s : KprobeState) (pidTgid : UInt64) (sDev : UInt32) (now : Ktime) :
    KprobeState := recordStart s pidTgid sDev 3 now

/-- What a return counts, from the looked-up entry on. Device and operation
    come from the entry. -/
def kprobeSample (now : Ktime) (start : KprobeStart) : Option (HistKey × Fin maxSlots) :=
  let delta := deltaNs now.ns start.ts
  if delta < 0 then none else some ({ dev := start.dev, op := start.op }, latencySlot delta)

/-- `kretprobe_nfs_vfs`. -/
def kretprobeNfsVfs (s : KprobeState) (pidTgid : UInt64) (now : Ktime) : KprobeState :=
  match s.start.lookup pidTgid with
  | none => s
  | some start =>
      { start := s.start.erase pidTgid,
        hists := recordOpt s.hists (kprobeSample now start) }

/-- Both maps empty. -/
def KprobeState.empty : KprobeState := { start := ∅, hists := ∅ }

/-- The functions with an entry probe. -/
inductive VfsFunction where
  | nfsFileRead
  | nfsFileWrite
  | nfsFileOpen
  | nfs4FileOpen
  | nfsGetattr
deriving DecidableEq

/-- A thread enters one of the functions, on a device, or returns from one. The
    return probe is the same for all of them. -/
inductive KprobeEvent where
  | entry (fn : VfsFunction) (pidTgid : UInt64) (sDev : UInt32) (now : Ktime)
  | ret (pidTgid : UInt64) (now : Ktime)

/-- Run the probe of an event. -/
def kprobeStep (s : KprobeState) : KprobeEvent → KprobeState
  | .entry .nfsFileRead pidTgid sDev now => kprobeNfsFileRead s pidTgid sDev now
  | .entry .nfsFileWrite pidTgid sDev now => kprobeNfsFileWrite s pidTgid sDev now
  | .entry .nfsFileOpen pidTgid sDev now => kprobeNfsFileOpen s pidTgid sDev now
  | .entry .nfs4FileOpen pidTgid sDev now => kprobeNfs4FileOpen s pidTgid sDev now
  | .entry .nfsGetattr pidTgid sDev now => kprobeNfsGetattr s pidTgid sDev now
  | .ret pidTgid now => kretprobeNfsVfs s pidTgid now

/-- Run the probes of a trace. -/
def kprobeRun (s : KprobeState) (tr : List KprobeEvent) : KprobeState := tr.foldl kprobeStep s

end Bpf

end LatencyExporter
