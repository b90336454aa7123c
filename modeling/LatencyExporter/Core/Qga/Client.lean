import LatencyExporter.Core.Qga.Collector
import LatencyExporter.Core.Qga.DiskMap
import LatencyExporter.Core.Qga.Wmi
import LatencyExporter.Core.Qmp.Client
import LatencyExporter.Lib.Base64

/-!
# The Guest Agent Client

`pkg/qga/client.go`: running a program in a guest. A program is started with
one command to the guest agent, which answers with the number of a process, and
asked about with another until it has exited. What it has written comes back
in Base64.

The commands go to an agent with a state (`Qmp.Agent`), as a command changes the
guest. The state that an operation returns is that of the guest afterwards,
also when the operation fails.

The program is always the same one, which prints the counters of the disks
(`collectDiskCounters`). Sleeping between the questions is left out.

## Main definitions

* `GoTexts`: What is not modelled of Go's packages.
* `isBlacklistError`, `agentError`: Errors of the agent.
* `agentRequest`, `execRequest`, `statusRequest`: The commands.
* `ExecStatus`, `execFields`, `execStatusFields`: The answers.
* `guestExec`, `guestExecStatus`, `waitLoop`, `guestExecWait`: Running a program.
* `collectDiskCounters`: The counters of the disks.
* `parsePhysicalDriveIndex`, `parseGuestGetDisks`, `guestGetDisks`: The drives.
* `connectDiskMap`: Their volumes, as `connectVM` finds them.
-/

namespace LatencyExporter

namespace Qga

open Json (Decoder record field slice pointer text int boolean)

/-- What is not modelled of Go's packages: the texts of their errors, the
    characters of a text that is given as bytes, and lower case beyond ASCII. -/
structure GoTexts where
  jsonError : List Char → String
  base64Error : List Char → String
  wmiError : WmiError → String
  runes : List UInt8 → List Char
  table : Char → Char

/-- `isBlacklistError`, for the text of an error. -/
def isBlacklistError (msg : String) : Bool :=
  decide ("has been disabled".toList <:+: msg.toList) &&
    decide ("the command is not allowed".toList <:+: msg.toList)

/-- What becomes of an error of `AgentCommand`. -/
def agentError (command err : String) : ScrapeError :=
  if isBlacklistError err then .commandBlacklisted else .other (command ++ ": " ++ err)

section Commands

/-- A command to the agent. The keys of a Go map are written in order. -/
def agentRequest (command : String) (args : Json.Value) : Json.Value :=
  .obj [("arguments".toList, args), ("execute".toList, .str command.toList)]

/-- The command of `GuestExec`. -/
def execRequest (path : String) (args : List String) : Json.Value :=
  agentRequest "guest-exec"
    (.obj [("arg".toList, .arr (args.map fun arg => .str arg.toList)),
      ("capture-output".toList, .bool true), ("path".toList, .str path.toList)])

/-- The command of `GuestExecStatus`. -/
def statusRequest (pid : Int) : Json.Value :=
  agentRequest "guest-exec-status" (.obj [("pid".toList, .num (Qmp.intNumber pid))])

end Commands

section Answers

/-- What is in an answer is in its member `return`. -/
def responseFields {α : Type} (fields : List (List Char × Decoder α)) :
    List (List Char × Decoder α) :=
  [("return".toList, field (fun x => x) (fun _ x => x) (record fields))]

/-- How `execResponse` is read, which is a process number. -/
def execFields : List (List Char × Decoder Int) :=
  [("pid".toList, field (fun pid => pid) (fun _ pid => pid) (int 64))]

/-- `execStatusResponse`. -/
structure ExecStatus where
  exited : Bool
  exitCode : Option Int
  signal : Option Int
  outData : List Char
  errData : List Char
  outTruncated : Bool
  errTruncated : Bool

/-- Nothing known. -/
def ExecStatus.zero : ExecStatus :=
  { exited := false, exitCode := none, signal := none, outData := [], errData := [],
    outTruncated := false, errTruncated := false }

/-- How an `ExecStatus` is read. -/
def execStatusFields : List (List Char × Decoder ExecStatus) :=
  [("exited".toList, field ExecStatus.exited (fun r b => { r with exited := b }) boolean),
    ("exitcode".toList,
      field ExecStatus.exitCode (fun r n => { r with exitCode := n }) (pointer (int 64) 0)),
    ("signal".toList,
      field ExecStatus.signal (fun r n => { r with signal := n }) (pointer (int 64) 0)),
    ("out-data".toList, field ExecStatus.outData (fun r s => { r with outData := s }) text),
    ("err-data".toList, field ExecStatus.errData (fun r s => { r with errData := s }) text),
    ("out-truncated".toList,
      field ExecStatus.outTruncated (fun r b => { r with outTruncated := b }) boolean),
    ("err-truncated".toList,
      field ExecStatus.errTruncated (fun r b => { r with errTruncated := b }) boolean)]

/-- `ExecResult`. -/
structure ExecResult where
  exited : Bool
  exitCode : Int
  signal : Int
  stdout : List UInt8
  stderr : List UInt8
  outTruncated : Bool
  errTruncated : Bool

end Answers

variable {σ : Type} (g : GoTexts) (agent : Qmp.Agent σ) (c : Qmp.Client)

/-- `GuestExec`. -/
def guestExec (path : String) (args : List String) (s : σ) : Except ScrapeError Int × σ :=
  match c.agentCommand agent (Json.marshal (execRequest path args)) s with
  | (.error err, s) => (.error (agentError "guest-exec" err), s)
  | (.ok result, s) => match Json.unmarshal (record (responseFields execFields)) 0 result with
      | none => (.error (.other ("parsing guest-exec response: " ++ g.jsonError result)), s)
      | some pid =>
          -- An answer without a process number is read as zero.
          if pid = 0 then (.error (.other "guest-exec returned PID 0"), s) else (.ok pid, s)

/-- The result an answer to `guest-exec-status` stands for. -/
def execResult (resp : ExecStatus) : Except ScrapeError ExecResult :=
  match Base64.decode resp.outData, Base64.decode resp.errData with
  | none, _ => .error (.other ("decoding stdout: " ++ g.base64Error resp.outData))
  | some _, none => .error (.other ("decoding stderr: " ++ g.base64Error resp.errData))
  -- A text without characters is not decoded; it would come to no bytes.
  | some out, some err => .ok
      { exited := resp.exited, exitCode := resp.exitCode.getD 0, signal := resp.signal.getD 0,
        stdout := out, stderr := err, outTruncated := resp.outTruncated,
        errTruncated := resp.errTruncated }

/-- `GuestExecStatus`. -/
def guestExecStatus (pid : Int) (s : σ) : Except ScrapeError ExecResult × σ :=
  match c.agentCommand agent (Json.marshal (statusRequest pid)) s with
  | (.error err, s) => (.error (agentError "guest-exec-status" err), s)
  | (.ok result, s) =>
      match Json.unmarshal (record (responseFields execStatusFields)) .zero result with
      | none => (.error (.other ("parsing guest-exec-status response: " ++ g.jsonError result)), s)
      | some resp => (execResult g resp, s)

/-- `maxAttempts`. -/
def maxAttempts : Nat := 6

/-- The loop of `GuestExecWait`, with the number of attempts that are left. -/
def waitLoop (pid : Int) : Nat → σ → Except ScrapeError ExecResult × σ
  | 0, s =>
      (.error (.other ("guest-exec pid " ++ pid.repr ++ " did not exit after " ++
        maxAttempts.repr ++ " attempts")), s)
  | attempts + 1, s => match guestExecStatus g agent c pid s with
      | (.error err, s) => (.error err, s)
      | (.ok result, s) =>
          -- The output is looked at only when the program has exited.
          if result.exited then
            if result.outTruncated then
              (.error (.other ("guest-exec output truncated (pid " ++ pid.repr ++ ")")), s)
            else (.ok result, s)
          else waitLoop pid attempts s

/-- `GuestExecWait`. -/
def guestExecWait (pid : Int) (s : σ) : Except ScrapeError ExecResult × σ :=
  waitLoop g agent c pid maxAttempts s

/-- The field `Path` of `diskCounterCommand`. -/
def diskCounterPath : String := "powershell.exe"

/-- The field `Args` of `diskCounterCommand`. -/
def diskCounterArgs : List String :=
  ["-NoProfile", "-NonInteractive", "-Command",
    "Get-CimInstance Win32_PerfRawData_PerfDisk_PhysicalDisk | Select-Object " ++
      "Name,AvgDiskReadQueueLength,AvgDiskWriteQueueLength,DiskReadsPerSec,DiskWritesPerSec," ++
      "Timestamp_Sys100NS | ConvertTo-Csv -NoTypeInformation"]

/-- What `CollectDiskCounters` makes of a program that has exited. -/
def execCounters (result : ExecResult) : Except ScrapeError (List DiskCounters) :=
  -- A program that a signal ended has no exit code, which is read as zero.
  if result.exitCode ≠ 0 then
    .error (.other ("powershell exited with code " ++ result.exitCode.repr ++ ": " ++
      String.ofList (g.runes result.stderr)))
  else if result.stdout.length = 0 then .error (.other "powershell produced no output")
  else match parseWMICSV g.table (g.runes result.stdout) with
    | .error err => .error (.other (g.wmiError err))
    | .ok counters => .ok counters

/-- `CollectDiskCounters`. -/
def collectDiskCounters (s : σ) : Except ScrapeError (List DiskCounters) × σ :=
  match guestExec g agent c diskCounterPath diskCounterArgs s with
  | (.error err, s) => (.error err, s)
  | (.ok pid, s) => match guestExecWait g agent c pid s with
      | (.error err, s) => (.error err, s)
      | (.ok result, s) => (execCounters g result, s)

section Drives

/-- What follows the last occurrence of a text, `strings.LastIndex`. -/
def afterLast (pattern : List Char) : List Char → Option (List Char)
  | [] => [].dropPrefix? pattern
  | c :: cs => match afterLast pattern cs with
      -- An occurrence further to the right is preferred.
      | some rest => some rest
      | none => (c :: cs).dropPrefix? pattern

/-- `parsePhysicalDriveIndex`. -/
def parsePhysicalDriveIndex (name : List Char) : Option Int :=
  (afterLast "PhysicalDrive".toList name).bind atoi

/-- `guestDiskAddress`. The type of the bus is used by nothing and left out. -/
structure GuestDiskAddress where
  serial : List Char
  pciController : Option Qmp.PCIAddr
  bus : Int
  target : Int
  unit : Int

/-- `guestDiskEntry`. -/
structure GuestDiskEntry where
  name : List Char
  address : Option GuestDiskAddress

/-- How a `guestPCIController` is read. -/
def pciControllerFields : List (List Char × Decoder Qmp.PCIAddr) :=
  [("domain".toList, field Qmp.PCIAddr.domain (fun a n => { a with domain := n }) (int 64)),
    ("bus".toList, field Qmp.PCIAddr.bus (fun a n => { a with bus := n }) (int 64)),
    ("slot".toList, field Qmp.PCIAddr.slot (fun a n => { a with slot := n }) (int 64)),
    ("function".toList, field Qmp.PCIAddr.function (fun a n => { a with function := n }) (int 64))]

/-- How a `guestDiskAddress` is read. -/
def diskAddressFields : List (List Char × Decoder GuestDiskAddress) :=
  [("bus-type".toList, Qmp.unused text []),
    ("serial".toList, field GuestDiskAddress.serial (fun a s => { a with serial := s }) text),
    ("pci-controller".toList,
      field GuestDiskAddress.pciController (fun a pci => { a with pciController := pci })
        (pointer (record pciControllerFields) ⟨0, 0, 0, 0⟩)),
    ("bus".toList, field GuestDiskAddress.bus (fun a n => { a with bus := n }) (int 64)),
    ("target".toList, field GuestDiskAddress.target (fun a n => { a with target := n }) (int 64)),
    ("unit".toList, field GuestDiskAddress.unit (fun a n => { a with unit := n }) (int 64))]

/-- How a `guestDiskEntry` is read. -/
def diskEntryFields : List (List Char × Decoder GuestDiskEntry) :=
  [("name".toList, field GuestDiskEntry.name (fun e s => { e with name := s }) text),
    ("address".toList,
      field GuestDiskEntry.address (fun e a => { e with address := a })
        (pointer (record diskAddressFields) ⟨[], none, 0, 0, 0⟩))]

/-- How a `guestGetDisksResponse` is read. -/
def getDisksFields : List (List Char × Decoder (List GuestDiskEntry)) :=
  [("return".toList,
    field (fun x => x) (fun _ x => x) (slice (record diskEntryFields) ⟨[], none⟩))]

/-- One round of the loop of `parseGuestGetDisks`. -/
def guestDisk (entry : GuestDiskEntry) : Option GuestDisk :=
  match entry.address with
  | none => none
  | some address => match address.pciController with
      | none => none
      | some pci => (parsePhysicalDriveIndex entry.name).map fun idx =>
          { driveIndex := idx, serial := String.ofList address.serial,
            location :=
              { controller := pci, bus := address.bus, target := address.target,
                unit := address.unit } }

/-- `parseGuestGetDisks`. -/
def parseGuestGetDisks (data : List Char) : Except ScrapeError (List GuestDisk) :=
  match Json.unmarshal (record getDisksFields) [] data with
  | none => .error (.other ("parsing guest-get-disks response: " ++ g.jsonError data))
  | some entries => .ok (entries.filterMap guestDisk)

/-- The command of `GuestGetDisks`, which is a text in the source. -/
def getDisksText : List Char := "\x7b\"execute\":\"guest-get-disks\"\x7d".toList

/-- `GuestGetDisks`. -/
def guestGetDisks (s : σ) : Except ScrapeError (List GuestDisk) × σ :=
  match c.agentCommand agent getDisksText s with
  | (.error err, s) => (.error (agentError "guest-get-disks" err), s)
  | (.ok result, s) => (parseGuestGetDisks g result, s)

/-- The volumes of the drives as `connectVM` finds them. There are none if
    anything fails, and the guest is not asked if libvirt has no domain. -/
def connectDiskMap (domainXML : Except String (Except String Qmp.XmlDomain)) (s : σ) :
    (Int → Option String) × σ :=
  match domainXML with
  | .error _ => (fun _ => none, s)
  | .ok domainXML => match guestGetDisks g agent c s with
      | (.error _, s) => (fun _ => none, s)
      | (.ok guestDisks, s) => match buildDiskMapping domainXML guestDisks with
          | .error _ => (fun _ => none, s)
          | .ok diskMap => (diskMap, s)

end Drives

end Qga

end LatencyExporter
