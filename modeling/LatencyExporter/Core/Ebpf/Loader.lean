import LatencyExporter.Core.Bpf.Nfs
import LatencyExporter.Lib.Handles

/-!
# Loading the Tracing Programs

`pkg/ebpf/loader.go`. Each of the three subsystems is a collection of programs
and maps that is loaded into the kernel, and links that attach the programs.
Any of the calls for this can fail; NFS, a module that may come later, is tried
again on a timer.

Collections and links are handles, each with its own number. A map belongs to
the collection it was loaded with, and is written as that collection. What the
kernel answers to a call is an error text, or none.

## Main definitions

* `Programs`: The fields of `Programs` except its lock and the map sizes.
* `BlockCalls`, `NfsCalls`, `KprobeCalls`: What the calls of a loader answer.
* `Programs.close`: `Close`.
* `loadBlock`: The loader for block devices.
* `attachLoop`: Attaching programs, with cleanup.
* `loadNFS`, `loadNFSKprobe`: The loaders for NFS.
* `loadAndAttach`, `retryTick`, `retryFailed`: Start and retries.
-/

namespace LatencyExporter

namespace Loader

open Bpf

/-- `Programs`. -/
structure Programs where
  blockObjs : Option Nat
  nfsObjs : Option Nat
  nfsKprobeObjs : Option Nat
  links : List Nat
  blockHists : Option Nat
  nfsHists : Option Nat
  nfsKprobeHists : Option Nat
  blockActive : Bool
  nfsActive : Bool
  nfsKprobeActive : Bool
  retryNFS : Bool
  retryNFSKprobe : Bool

/-- `&Programs{...}`. -/
def Programs.new : Programs :=
  { blockObjs := none, nfsObjs := none, nfsKprobeObjs := none, links := [],
    blockHists := none, nfsHists := none, nfsKprobeHists := none,
    blockActive := false, nfsActive := false, nfsKprobeActive := false,
    retryNFS := false, retryNFSKprobe := false }

/-- What the calls of `loadBlock` answer. -/
structure BlockCalls where
  spec : Option String
  loadAndAssign : Option String
  blockRqIssue : Option String
  blockRqComplete : Option String

/-- The raw tracepoints of the NFS program. -/
inductive NfsTracepoint where
  | initiateRead
  | initiateWrite
  | readpageDone
  | writebackDone

/-- The name of a raw tracepoint. -/
def NfsTracepoint.name : NfsTracepoint → String
  | .initiateRead => "nfs_initiate_read"
  | .initiateWrite => "nfs_initiate_write"
  | .readpageDone => "nfs_readpage_done"
  | .writebackDone => "nfs_writeback_done"

/-- What the calls of `loadNFS` answer. -/
structure NfsCalls where
  spec : Option String
  loadAndAssign : Option String
  attachRawTracepoint : NfsTracepoint → Option String

/-- The name of a probed function. -/
def functionName : VfsFunction → String
  | .nfsFileRead => "nfs_file_read"
  | .nfsFileWrite => "nfs_file_write"
  | .nfsFileOpen => "nfs_file_open"
  | .nfs4FileOpen => "nfs4_file_open"
  | .nfsGetattr => "nfs_getattr"

/-- What the calls of `loadNFSKprobe` answer. -/
structure KprobeCalls where
  spec : Option String
  loadAndAssign : Option String
  kprobe : VfsFunction → Option String
  kretprobe : VfsFunction → Option String

/-- The handles `Close` goes through, in its order. -/
def Programs.handles (p : Programs) : List Nat :=
  p.links ++ (p.blockObjs.toList ++ (p.nfsObjs.toList ++ p.nfsKprobeObjs.toList))

/-- `Close`. -/
def Programs.close (p : Programs) (k : Handles) : Handles := k.closeAll p.handles

/-- `loadBlock`. The fields are set before the programs are attached. -/
def loadBlock (calls : BlockCalls) (p : Programs) (k : Handles) :
    Option String × Programs × Handles :=
  match calls.spec with
  | some err => (some ("loading block spec: " ++ err), p, k)
  | none => match calls.loadAndAssign with
    | some err => (some ("loading block objects: " ++ err), p, k)
    | none =>
        let (objs, k) := k.acquire
        let p := { p with blockObjs := some objs, blockHists := some objs }
        match calls.blockRqIssue with
        -- `objs.Close()`: the fields keep what was closed.
        | some err => (some ("attaching block_rq_issue: " ++ err), p, k.close objs)
        | none =>
            let (l, k) := k.acquire
            let p := { p with links := p.links ++ [l] }
            match calls.blockRqComplete with
            -- `p.Close()`: likewise, for the collection and the first link.
            | some err => (some ("attaching block_rq_complete: " ++ err), p, p.close k)
            | none =>
                let (l, k) := k.acquire
                (none, { p with links := p.links ++ [l] }, k)

/-- The loops that attach programs of a collection. A failure that is not
    optional closes the links so far and the collection. The result has the
    links and what was attached. -/
def attachLoop {α : Type} (errorText : α → String) (optional : α → Bool)
    (attach : α → Option String) (objs : Nat) :
    List α → List Nat → List α → Handles → Except String (List Nat × List α) × Handles
  | [], links, attached, k => (.ok (links, attached), k)
  | a :: as, links, attached, k => match attach a with
      | some err =>
          -- It is logged as unavailable and left out.
          if optional a then attachLoop errorText optional attach objs as links attached k
          else (.error (errorText a ++ ": " ++ err), (k.closeAll links).close objs)
      | none =>
          let (l, k) := k.acquire
          attachLoop errorText optional attach objs as (links ++ [l]) (attached ++ [a]) k

/-- `nfsTracepoints`. -/
def nfsTracepoints : List NfsTracepoint :=
  [.initiateRead, .initiateWrite, .readpageDone, .writebackDone]

/-- The loop of `loadNFS`. -/
def attachNFS (calls : NfsCalls) (objs : Nat) (k : Handles) :
    Except String (List Nat × List NfsTracepoint) × Handles :=
  attachLoop (fun tp => "attaching raw_tracepoint/" ++ tp.name) (fun _ => false)
    calls.attachRawTracepoint objs nfsTracepoints [] [] k

/-- `loadNFS`. -/
def loadNFS (calls : NfsCalls) (p : Programs) (k : Handles) : Option String × Programs × Handles :=
  match calls.spec with
  | some err => (some ("loading NFS spec: " ++ err), p, k)
  | none => match calls.loadAndAssign with
    | some err => (some ("loading NFS objects: " ++ err), p, k)
    | none =>
        let (objs, k) := k.acquire
        match attachNFS calls objs k with
        | (.error err, k) => (some err, p, k)
        | (.ok (nfsLinks, _), k) =>
            (none, { p with nfsObjs := some objs, nfsHists := some objs,
                            links := p.links ++ nfsLinks }, k)

/-- `kprobes`, without the programs. -/
def kprobes : List VfsFunction :=
  [.nfsFileRead, .nfsFileWrite, .nfsFileOpen, .nfs4FileOpen, .nfsGetattr]

/-- The field `optional` of `kprobes`. -/
def kprobeOptional : VfsFunction → Bool
  | .nfs4FileOpen => true
  | _ => false

/-- The first loop of `loadNFSKprobe`. -/
def attachKprobes (calls : KprobeCalls) (objs : Nat) (k : Handles) :
    Except String (List Nat × List VfsFunction) × Handles :=
  attachLoop (fun fn => "attaching kprobe/" ++ functionName fn) kprobeOptional calls.kprobe objs
    kprobes [] [] k

/-- The second loop of `loadNFSKprobe`. -/
def attachKretprobes (calls : KprobeCalls) (objs : Nat) (attachedFns : List VfsFunction)
    (kprobeLinks : List Nat) (k : Handles) :
    Except String (List Nat × List VfsFunction) × Handles :=
  attachLoop (fun fn => "attaching kretprobe/" ++ functionName fn) (fun _ => false) calls.kretprobe
    objs attachedFns kprobeLinks [] k

/-- `loadNFSKprobe`. -/
def loadNFSKprobe (calls : KprobeCalls) (p : Programs) (k : Handles) :
    Option String × Programs × Handles :=
  match calls.spec with
  | some err => (some ("loading NFS kprobe spec: " ++ err), p, k)
  | none => match calls.loadAndAssign with
    | some err => (some ("loading NFS kprobe objects: " ++ err), p, k)
    | none =>
        let (objs, k) := k.acquire
        match attachKprobes calls objs k with
        | (.error err, k) => (some err, p, k)
        | (.ok (kprobeLinks, attachedFns), k) =>
            -- Only functions that could be probed on entry are probed on return.
            match attachKretprobes calls objs attachedFns kprobeLinks k with
            | (.error err, k) => (some err, p, k)
            | (.ok (kprobeLinks, _), k) =>
                (none, { p with nfsKprobeObjs := some objs, nfsKprobeHists := some objs,
                                links := p.links ++ kprobeLinks }, k)

/-- The part of `LoadAndAttach` for block devices. -/
def startBlock (enableBlock : Bool) (calls : BlockCalls) (s : Programs × Handles) :
    Programs × Handles :=
  if enableBlock then match loadBlock calls s.1 s.2 with
    -- Block is not retried.
    | (some _, p, k) => (p, k)
    | (none, p, k) => ({ p with blockActive := true }, k)
  else s

/-- The part of `LoadAndAttach` for NFS. -/
def startNFS (enableNFS : Bool) (calls : NfsCalls) (s : Programs × Handles) :
    Programs × Handles :=
  if enableNFS then match loadNFS calls s.1 s.2 with
    | (some _, p, k) => ({ p with retryNFS := true }, k)
    | (none, p, k) => ({ p with nfsActive := true }, k)
  else s

/-- The part of `LoadAndAttach` for NFS calls. -/
def startNFSKprobe (enableNFSKprobe : Bool) (calls : KprobeCalls) (s : Programs × Handles) :
    Programs × Handles :=
  if enableNFSKprobe then match loadNFSKprobe calls s.1 s.2 with
    | (some _, p, k) => ({ p with retryNFSKprobe := true }, k)
    | (none, p, k) => ({ p with nfsKprobeActive := true }, k)
  else s

/-- The flags of `LoadAndAttach`. -/
structure Enabled where
  block : Bool
  nfs : Bool
  nfsKprobe : Bool

/-- What the calls of `LoadAndAttach` answer. -/
structure StartCalls where
  block : BlockCalls
  nfs : NfsCalls
  nfsKprobe : KprobeCalls

/-- The three parts of `LoadAndAttach` one after the other. -/
def startAll (enable : Enabled) (calls : StartCalls) (k : Handles) : Programs × Handles :=
  startNFSKprobe enable.nfsKprobe calls.nfsKprobe
    (startNFS enable.nfs calls.nfs (startBlock enable.block calls.block (Programs.new, k)))

/-- `LoadAndAttach`. -/
def loadAndAttach (enable : Enabled) (calls : StartCalls) (k : Handles) :
    Except String Programs × Handles :=
  let (p, k) := startAll enable calls k
  let requested := enable.block || enable.nfs || enable.nfsKprobe
  let active := p.blockActive || p.nfsActive || p.nfsKprobeActive
  -- Subsystems that are retried count as not failed yet.
  if requested && !active && !p.retryNFS && !p.retryNFSKprobe then
    (.error "all requested eBPF subsystems failed to load", k)
  else (.ok p, k)

/-- What the calls of one tick of `RetryFailed` answer. -/
structure TickCalls where
  nfs : NfsCalls
  nfsKprobe : KprobeCalls

/-- The first half of a tick. -/
def retryTickNFS (calls : NfsCalls) (s : Programs × Handles) : Programs × Handles :=
  if s.1.retryNFS then match loadNFS calls s.1 s.2 with
    | (some _, p, k) => (p, k)
    | (none, p, k) => ({ p with nfsActive := true, retryNFS := false }, k)
  else s

/-- The second half of a tick. -/
def retryTickNFSKprobe (calls : KprobeCalls) (s : Programs × Handles) : Programs × Handles :=
  if s.1.retryNFSKprobe then match loadNFSKprobe calls s.1 s.2 with
    | (some _, p, k) => (p, k)
    | (none, p, k) => ({ p with nfsKprobeActive := true, retryNFSKprobe := false }, k)
  else s

/-- One tick of `RetryFailed`. -/
def retryTick (calls : TickCalls) (s : Programs × Handles) : Programs × Handles :=
  retryTickNFSKprobe calls.nfsKprobe (retryTickNFS calls.nfs s)

/-- `RetryFailed` up to some tick: it returns when nothing is left to retry. -/
def retryFailed : List TickCalls → Programs × Handles → Programs × Handles
  | [], s => s
  | calls :: ticks, s =>
      if !s.1.retryNFS && !s.1.retryNFSKprobe then s else retryFailed ticks (retryTick calls s)

end Loader

end LatencyExporter
