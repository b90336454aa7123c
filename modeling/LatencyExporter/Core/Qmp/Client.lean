import LatencyExporter.Core.Qmp.Collector
import LatencyExporter.Lib.Marshal
import LatencyExporter.Lib.Unmarshal

/-!
# The Monitor Client

`pkg/qmp/client.go`: the commands of the exporter to QEMU's monitor as JSON
texts, and its answers. A command goes through libvirt, which hands the text to
QEMU and the answer back, or fails.

What `encoding/json` says about a text it refuses is not modelled; it is a
function `jsonError` of the text. The locks and deadlines of the client are left
out: a command that times out is one that libvirt fails.

## Main definitions

* `Monitor`: Where commands go.
* `qmpCommand`, `QmpResponse`, `execQMP`: One command.
* `latencyHistFields`, `blockStatsFields`, `blockDevice`, `virtioDeviceFields`,
  `virtioStatusFields`, `virtQueueStatusFields`: How the answers are read.
* `Client.queryBlockStats`, `Client.enableHistogram`, `Client.queryVirtio`,
  `Client.queryVirtioStatus`, `Client.queryVirtioQueueStatus`: The commands.
* `Client.replies`: What a scrape sees of them.
* `Agent`, `Client.agentCommand`: Commands to the guest agent.
-/

namespace LatencyExporter

namespace Qmp

open Json (Decoder Number record field slice pointer text int uint rational raw)

/-- Where commands go: the answer, or the error of libvirt. -/
abbrev Monitor := List Char → Except String (List Char)

/-- An integer as it is written. -/
def intNumber (z : Int) : Number := ⟨decide (z < 0), z.natAbs, [], none⟩

/-- `qmpCommand`. Arguments that are missing are left out. -/
def qmpCommand (command : String) (arguments : Option Json.Value) : Json.Value :=
  .obj (("execute".toList, .str command.toList) ::
    arguments.toList.map fun args => ("arguments".toList, args))

/-- The field `Error` of `qmpResponse`. -/
structure QmpError where
  cls : List Char
  desc : List Char

/-- `qmpResponse`. -/
structure QmpResponse where
  ret : Option Json.Value
  error : Option QmpError

/-- How the field `Error` is read. -/
def qmpErrorFields : List (List Char × Decoder QmpError) :=
  [("class".toList, field QmpError.cls (fun e s => { e with cls := s }) text),
    ("desc".toList, field QmpError.desc (fun e s => { e with desc := s }) text)]

/-- How an answer is read. -/
def qmpResponseFields : List (List Char × Decoder QmpResponse) :=
  [("return".toList, field QmpResponse.ret (fun r v => { r with ret := v }) raw),
    ("error".toList, field QmpResponse.error (fun r e => { r with error := e })
      (pointer (record qmpErrorFields) ⟨[], []⟩))]

/-- `execQMP`. -/
def execQMP (jsonError : List Char → String) (monitor : Monitor) (command : String)
    (args : Option Json.Value) : Except String (Option Json.Value) :=
  match monitor (Json.marshal (qmpCommand command args)) with
  | .error err => .error ("QMP " ++ command ++ ": " ++ err)
  | .ok result => match Json.unmarshal (record qmpResponseFields) ⟨none, none⟩ result with
      | none => .error ("parsing QMP response for " ++ command ++ ": " ++ jsonError result)
      | some resp => match resp.error with
          -- An answer with an error is one even if it returns something.
          | some e => .error ("QMP " ++ command ++ " error: " ++ String.ofList e.cls ++ ": " ++
              String.ofList e.desc)
          | none => .ok resp.ret

section Answers

/-- A `uint64`. -/
def uint64 : Decoder UInt64 := fun x v => (uint 64 x.toNat v).map UInt64.ofNat

/-- A `uint32`. -/
def uint32 : Decoder UInt32 := fun x v => (uint 32 x.toNat v).map UInt32.ofNat

/-- A field that has to have the right type and is not used. -/
def unused {α σ : Type} (d : Decoder α) (zero : α) : Decoder σ :=
  field (fun _ => zero) (fun x _ => x) d

/-- How a `LatencyHist` is read. -/
def latencyHistFields : List (List Char × Decoder LatencyHist) :=
  [("boundaries".toList,
      field LatencyHist.boundaries (fun h bs => { h with boundaries := bs }) (slice rational 0)),
    ("bins".toList, field LatencyHist.bins (fun h bs => { h with bins := bs }) (slice uint64 0))]

/-- No statistics. -/
def BlockStats.zero : BlockStats :=
  { rdTotalTimeNs := 0, wrTotalTimeNs := 0, flushTotalTimeNs := 0, rdLatencyHistogram := none,
    wrLatencyHistogram := none, flushLatencyHistogram := none }

/-- How `BlockStats` are read. -/
def blockStatsFields : List (List Char × Decoder BlockStats) :=
  [("rd_operations".toList, unused uint64 0),
    ("wr_operations".toList, unused uint64 0),
    ("flush_operations".toList, unused uint64 0),
    ("rd_total_time_ns".toList,
      field BlockStats.rdTotalTimeNs (fun s n => { s with rdTotalTimeNs := n }) uint64),
    ("wr_total_time_ns".toList,
      field BlockStats.wrTotalTimeNs (fun s n => { s with wrTotalTimeNs := n }) uint64),
    ("flush_total_time_ns".toList,
      field BlockStats.flushTotalTimeNs (fun s n => { s with flushTotalTimeNs := n }) uint64),
    ("rd_latency_histogram".toList,
      field BlockStats.rdLatencyHistogram (fun s h => { s with rdLatencyHistogram := h })
        (pointer (record latencyHistFields) ⟨[], []⟩)),
    ("wr_latency_histogram".toList,
      field BlockStats.wrLatencyHistogram (fun s h => { s with wrLatencyHistogram := h })
        (pointer (record latencyHistFields) ⟨[], []⟩)),
    ("flush_latency_histogram".toList,
      field BlockStats.flushLatencyHistogram (fun s h => { s with flushLatencyHistogram := h })
        (pointer (record latencyHistFields) ⟨[], []⟩))]

/-- The fields of `BlockDevice`. -/
inductive BlockField where
  | qdev
  | stats
  | backing

/-- The names of the fields. -/
def blockFields : List (List Char × BlockField) :=
  [("qdev".toList, .qdev), ("stats".toList, .stats), ("backing".toList, .backing)]

/-- No device. -/
def BlockDevice.zero : BlockDevice := .mk "" .zero none

mutual

/-- How a `BlockDevice` is read. The device it is backed by is one too. -/
def blockDevice : BlockDevice → Json.Value → Option BlockDevice
  | dev, .null => some dev
  | dev, .obj ms => blockMembers dev ms
  | _, _ => none

/-- The members of a `BlockDevice`. -/
def blockMembers : BlockDevice → List (List Char × Json.Value) → Option BlockDevice
  | dev, [] => some dev
  | .mk qdev stats backing, (key, v) :: ms =>
      match Json.findField blockFields key with
      -- Names the source does not declare are ignored.
      | none => blockMembers (.mk qdev stats backing) ms
      | some .qdev => (text qdev.toList v).bind fun qdev =>
          blockMembers (.mk (String.ofList qdev) stats backing) ms
      | some .stats => (record blockStatsFields stats v).bind fun stats =>
          blockMembers (.mk qdev stats backing) ms
      | some .backing =>
          if v.isNull then blockMembers (.mk qdev stats none) ms
          else (blockDevice (backing.getD .zero) v).bind fun backing =>
            blockMembers (.mk qdev stats (some backing)) ms

end

/-- A string. -/
def string : Decoder String := fun s v => (text s.toList v).map String.ofList

/-- How a `VirtioDevice` is read. -/
def virtioDeviceFields : List (List Char × Decoder VirtioDevice) :=
  [("path".toList, field VirtioDevice.path (fun d s => { d with path := s }) string),
    ("name".toList, field VirtioDevice.name (fun d s => { d with name := s }) string)]

/-- How a `VirtioStatus` is read. -/
def virtioStatusFields : List (List Char × Decoder VirtioStatus) :=
  [("name".toList, unused text []),
    ("num-vqs".toList, field VirtioStatus.numVqs (fun s n => { s with numVqs := n }) (int 64))]

/-- How a `VirtQueueStatus` is read. -/
def virtQueueStatusFields : List (List Char × Decoder VirtQueueStatus) :=
  [("name".toList, unused text []),
    ("queue-index".toList, unused (int 64) 0),
    ("inuse".toList, field VirtQueueStatus.inuse (fun s n => { s with inuse := n }) uint32),
    ("vring-num".toList,
      field VirtQueueStatus.vringNum (fun s n => { s with vringNum := n }) uint32)]

end Answers

/-- `json.Unmarshal` of what an answer returns. An answer without it is an empty
    text. -/
def unmarshalReturn {α : Type} (d : Decoder α) (zero : α) (ret : Option Json.Value) : Option α :=
  ret.bind (d zero)

/-- A guest agent and the state of its guest. The answer to a command is an
    optional string, which is a list in Go, or the error of libvirt. -/
abbrev Agent (σ : Type) := List Char → σ → Except String (List (List Char)) × σ

/-- `Client`. -/
structure Client where
  closed : Bool

namespace Client

variable (jsonError : List Char → String) (monitor : Monitor) (c : Client)

/-- A command whose answer is read into a variable. -/
def query {α : Type} (command : String) (args : Option Json.Value) (what : String)
    (d : Decoder α) (zero : α) : Except String α :=
  if c.closed then .error "client is closed"
  else match execQMP jsonError monitor command args with
    | .error err => .error err
    | .ok result => match unmarshalReturn d zero result with
        | none => .error ("parsing " ++ what ++ " response: " ++
            jsonError (result.elim [] Json.marshal))
        | some x => .ok x

/-- `QueryBlockStats`. -/
def queryBlockStats : Except String (List BlockDevice) :=
  query jsonError monitor c "query-blockstats" none "blockstats" (slice blockDevice .zero) []

/-- The arguments of `EnableHistogram`. The keys of a Go map are written in
    order, and a list without elements is a null. -/
def histogramArgs (deviceID : String) (boundariesNs : List Int) : Json.Value :=
  .obj
    [("boundaries".toList,
        if boundariesNs = [] then .null else .arr (boundariesNs.map fun z => .num (intNumber z))),
      ("id".toList, .str deviceID.toList)]

/-- `EnableHistogram`. Whatever is returned is success. -/
def enableHistogram (deviceID : String) (boundariesNs : List Int) : Except String Unit :=
  if c.closed then .error "client is closed"
  else (execQMP jsonError monitor "block-latency-histogram-set"
    (some (histogramArgs deviceID boundariesNs))).map fun _ => ()

/-- The arguments of `QueryVirtioStatus`. -/
def statusArgs (path : String) : Json.Value := .obj [("path".toList, .str path.toList)]

/-- The arguments of `QueryVirtioQueueStatus`. -/
def queueArgs (path : String) (queue : Nat) : Json.Value :=
  .obj [("path".toList, .str path.toList), ("queue".toList, .num (intNumber queue))]

/-- `QueryVirtio`. -/
def queryVirtio : Except String (List VirtioDevice) :=
  query jsonError monitor c "x-query-virtio" none "x-query-virtio"
    (slice (record virtioDeviceFields) ⟨"", ""⟩) []

/-- `QueryVirtioStatus`. -/
def queryVirtioStatus (path : String) : Except String VirtioStatus :=
  query jsonError monitor c "x-query-virtio-status" (some (statusArgs path))
    "x-query-virtio-status" (record virtioStatusFields) ⟨0⟩

/-- `QueryVirtioQueueStatus`. -/
def queryVirtioQueueStatus (path : String) (queue : Nat) : Except String VirtQueueStatus :=
  query jsonError monitor c "x-query-virtio-queue-status" (some (queueArgs path queue))
    "x-query-virtio-queue-status" (record virtQueueStatusFields) ⟨0, 0⟩

/-- `AgentCommand`. -/
def agentCommand {σ : Type} (agent : Agent σ) (cmd : List Char) (s : σ) :
    Except String (List Char) × σ :=
  if c.closed then (.error "client is closed", s)
  else match agent cmd s with
    | (.error err, s) => (.error err, s)
    -- The optional string of libvirt is missing.
    | (.ok [], s) => (.error "empty response from guest agent", s)
    | (.ok (result :: _), s) => (.ok result, s)

/-- What a scrape sees of the commands. -/
def replies (dynClient : Option (String → String → Option Value)) : Replies :=
  { blockStats := queryBlockStats jsonError monitor c,
    enableHistogram := fun id bs => (enableHistogram jsonError monitor c id bs).isOk,
    virtio := (queryVirtio jsonError monitor c).toOption,
    virtioStatus := fun path => (queryVirtioStatus jsonError monitor c path).toOption,
    queueStatus := fun path queue =>
      (queryVirtioQueueStatus jsonError monitor c path queue).toOption,
    dynClient := dynClient }

end Client

end Qmp

end LatencyExporter
