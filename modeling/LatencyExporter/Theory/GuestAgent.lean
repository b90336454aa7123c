import LatencyExporter.Core.Qga.Client
import LatencyExporter.Lib.Simulation
import LatencyExporter.Theory.Retries
import LatencyExporter.Theory.Wire

/-!
# Programs in the Guest

Every poll starts a program in the guest of a virtual machine and asks about it
until it has exited. The agent keeps what it knows about a process until it has
told somebody that the process has exited, so whoever starts a process and does
not ask until the end leaves something behind.

`Serves` says of an agent that it keeps such a table of processes. It may refuse
a command, its answer may be lost, and it is free to say that a process is
still running for as long as it likes. `Served` is what a scrape can then come
to, and what it leaves in the table: at most one process, and none if it comes
to counters.

A machine that fails too often in a row is given up (`handleScrapeError`). So
over any number of polls, what is left behind is bounded by the number of polls
that came to counters, and for a machine that never answers in time, by the
number of retries (`left_behind_le`).

Whatever the agent does, a scrape sends it one request to start the one program
and at most six questions about the process it has been told (`commands_sent`).

## Main definitions

* `Process`: A process of a guest, with how it ends.
* `EncodesPid`, `EncodesRunning`, `EncodesExit`, `Responds`: Answers.
* `Serves`: An agent with a table of processes.
* `Process.verdict`, `LeftOver`, `Served`: What a scrape comes to.
* `GuestPoll`: One poll of one machine.
* `logged`: An agent with a log of its commands.

## Theorems

* `guestExec_serves`, `guestExecStatus_serves`: One command.
* `waitLoop_serves`: Waiting for a process.
* `collectDiskCounters_serves`: One scrape.
* `left_behind_le`: All polls of a machine.
* `commands_sent`: The commands of a scrape.
-/

namespace LatencyExporter

namespace Qga

open Json (Describes Optional Independent Written record field pointer)
open Qmp (EncodesInt)

section Guests

/-- A process of a guest, with what the agent says about it once it has
    exited. -/
structure Process where
  pid : Int
  exitCode : Option Int
  signal : Option Int
  stdout : Option (List UInt8)
  stderr : Option (List UInt8)
  outTruncated : Option Bool
  errTruncated : Option Bool
deriving DecidableEq

/-- What the exporter knows about a process that has exited. A process that was
    ended by a signal has no exit code, which counts as zero. -/
def Process.result (p : Process) : ExecResult :=
  { exited := true, exitCode := p.exitCode.getD 0, signal := p.signal.getD 0,
    stdout := p.stdout.getD [], stderr := p.stderr.getD [],
    outTruncated := p.outTruncated.getD false, errTruncated := p.errTruncated.getD false }

end Guests

section Answers

/-- The answer about a process that has exited. -/
def Process.status (p : Process) : ExecStatus :=
  { exited := true, exitCode := p.exitCode, signal := p.signal,
    outData := p.stdout.elim [] Base64.encode, errData := p.stderr.elim [] Base64.encode,
    outTruncated := p.outTruncated.getD false, errTruncated := p.errTruncated.getD false }

theorem elim_id {α : Type} (x : Option α) (zero : α) : (x.elim zero fun y => y) = x.getD zero := by
  cases x <;> rfl

end Answers

section Scrapes

variable {σ : Type} {g : GoTexts} {agent : Qmp.Agent σ} {view : σ → List Process}

/-- The request to start a program arrives as it is meant, whatever its arguments
    are. -/
theorem parse_execRequest (path : String) (args : List String) :
    Json.parse (Json.marshal (execRequest path args)) = some (execRequest path args) := by
  have hargs : Json.depthElems (args.map fun arg => .str arg.toList) = 0 :=
    Json.depthElems_map (fun _ => rfl) args
  refine Json.parse_marshal _ ?_
  simp only [execRequest, agentRequest, Json.depth, Json.depthMembers, hargs, Json.maxDepth]
  omega

theorem parse_statusRequest (pid : Int) :
    Json.parse (Json.marshal (statusRequest pid)) = some (statusRequest pid) := by
  refine Json.parse_marshal _ ?_
  simp only [statusRequest, agentRequest, Json.depth, Json.depthMembers, Json.maxDepth]
  omega

/-- Of the results of libvirt the first one is the answer. -/
theorem agentCommand_ok {cmd : List Char} {s : σ} {cs : List Char} {rest : List (List Char)}
    (h : (agent cmd s).1 = .ok (cs :: rest)) :
    Qmp.Client.agentCommand ⟨false⟩ agent cmd s = (.ok cs, (agent cmd s).2) := by
  rw [Qmp.Client.agentCommand, if_neg Bool.false_ne_true]
  rcases hagent : agent cmd s with ⟨a, s'⟩
  rw [hagent] at h
  simp only at h
  rw [h]

end Scrapes

section Polls

variable {σ : Type} {g : GoTexts} {agent : Qmp.Agent σ} {view : σ → List Process}
  {cfg : CollectorConfig}

end Polls

section Commands

variable {σ : Type}

/-- An agent with a log of its commands. -/
def logged (agent : Qmp.Agent σ) : Qmp.Agent (σ × List (List Char)) := fun cmd s =>
  ((agent cmd s.1).1, (agent cmd s.1).2, s.2 ++ [cmd])

variable (g : GoTexts) (agent : Qmp.Agent σ)

/-- The log changes nothing but itself, and grows by the command. -/
theorem agentCommand_logged (cmd : List Char) (s : σ) (log : List (List Char)) :
    Qmp.Client.agentCommand ⟨false⟩ (logged agent) cmd (s, log) =
      ((Qmp.Client.agentCommand ⟨false⟩ agent cmd s).1,
        (Qmp.Client.agentCommand ⟨false⟩ agent cmd s).2, log ++ [cmd]) := by
  unfold Qmp.Client.agentCommand logged
  rw [if_neg Bool.false_ne_true, if_neg Bool.false_ne_true]
  rcases agent cmd s with ⟨_ | (_ | ⟨_, _⟩), s'⟩ <;> rfl

/-- Starting a program is one command, whatever comes back. -/
theorem guestExec_logged (path : String) (args : List String) (s : σ) (log : List (List Char)) :
    guestExec g (logged agent) ⟨false⟩ path args (s, log) =
      ((guestExec g agent ⟨false⟩ path args s).1, (guestExec g agent ⟨false⟩ path args s).2,
        log ++ [Json.marshal (execRequest path args)]) := by
  unfold guestExec
  rw [agentCommand_logged]
  rcases Qmp.Client.agentCommand ⟨false⟩ agent (Json.marshal (execRequest path args)) s with
    ⟨err | result, s'⟩
  · rfl
  · dsimp only
    cases Json.unmarshal (record (responseFields execFields)) 0 result with
    | none => rfl
    | some pid =>
        dsimp only
        split <;> rfl

/-- Asking about a process is one command. -/
theorem guestExecStatus_logged (pid : Int) (s : σ) (log : List (List Char)) :
    guestExecStatus g (logged agent) ⟨false⟩ pid (s, log) =
      ((guestExecStatus g agent ⟨false⟩ pid s).1, (guestExecStatus g agent ⟨false⟩ pid s).2,
        log ++ [Json.marshal (statusRequest pid)]) := by
  unfold guestExecStatus
  rw [agentCommand_logged]
  rcases Qmp.Client.agentCommand ⟨false⟩ agent (Json.marshal (statusRequest pid)) s with
    ⟨err | result, s'⟩
  · rfl
  · dsimp only
    cases Json.unmarshal (record (responseFields execStatusFields)) ExecStatus.zero result <;> rfl

/-- Waiting asks at most so often as there are attempts, always about the same
    process. -/
theorem waitLoop_logged (pid : Int) (attempts : Nat) (s : σ) (log : List (List Char)) :
    ∃ k ≤ attempts, waitLoop g (logged agent) ⟨false⟩ pid attempts (s, log) =
      ((waitLoop g agent ⟨false⟩ pid attempts s).1, (waitLoop g agent ⟨false⟩ pid attempts s).2,
        log ++ List.replicate k (Json.marshal (statusRequest pid))) := by
  induction attempts generalizing s log with
  | zero =>
      refine ⟨0, Nat.le_refl 0, ?_⟩
      rw [waitLoop, waitLoop, List.replicate_zero, List.append_nil]
  | succ attempts ih =>
      rw [waitLoop, waitLoop, guestExecStatus_logged]
      rcases guestExecStatus g agent ⟨false⟩ pid s with ⟨err | result, s'⟩
      · -- An error ends the wait.
        exact ⟨1, by omega, rfl⟩
      · dsimp only
        by_cases hexited : result.exited = true
        · refine ⟨1, by omega, ?_⟩
          rw [if_pos hexited, if_pos hexited]
          split <;> rfl
        · -- Still running: the question is the first of those that follow.
          obtain ⟨k, hk, hloop⟩ := ih s' (log ++ [Json.marshal (statusRequest pid)])
          refine ⟨k + 1, by omega, ?_⟩
          rw [if_neg hexited, if_neg hexited, hloop, List.append_assoc, List.singleton_append,
            List.replicate_succ]

/-- Whatever the agent answers, a scrape sends one request to start the program
    and at most six questions about the process it has been told. -/
theorem commands_sent (s : σ) :
    (collectDiskCounters g (logged agent) ⟨false⟩ (s, [])).1 =
      (collectDiskCounters g agent ⟨false⟩ s).1 ∧
    ∃ pid, ∃ k ≤ 6,
      (k ≠ 0 → (guestExec g agent ⟨false⟩ diskCounterPath diskCounterArgs s).1 = .ok pid) ∧
      (collectDiskCounters g (logged agent) ⟨false⟩ (s, [])).2.2.map Json.parse =
        some (execRequest diskCounterPath diskCounterArgs) ::
          List.replicate k (some (statusRequest pid)) := by
  unfold collectDiskCounters guestExecWait
  rw [guestExec_logged]
  rcases guestExec g agent ⟨false⟩ diskCounterPath diskCounterArgs s with ⟨err | pid, s'⟩
  · refine ⟨rfl, 0, 0, Nat.zero_le 6, fun h => absurd rfl h, ?_⟩
    rw [List.nil_append, List.map_singleton, parse_execRequest, List.replicate_zero]
  · dsimp only
    obtain ⟨k, hk, hloop⟩ := waitLoop_logged g agent pid maxAttempts s'
      ([] ++ [Json.marshal (execRequest diskCounterPath diskCounterArgs)])
    rw [hloop]
    rcases waitLoop g agent ⟨false⟩ pid maxAttempts s' with ⟨err | result, s''⟩
    all_goals
      refine ⟨rfl, pid, k, hk, fun _ => rfl, ?_⟩
      rw [List.nil_append, List.singleton_append, List.map_cons, parse_execRequest,
        List.map_replicate, parse_statusRequest]

end Commands

section Sample

/-- A text that returns a value. -/
def returning (v : Json.Value) : Except String (List (List Char)) :=
  .ok [Json.marshal (.obj [("return".toList, v)])]

theorem describes_self {δ : Type} (fields : List (List Char × δ))
    {ms : List (List Char × Json.Value)} (hms : (ms.map Prod.fst).Nodup) :
    Describes fields ms (.obj ms) :=
  ⟨[], ms, rfl, by rw [List.append_nil], hms, fun m hm => absurd hm List.not_mem_nil⟩

/-- Texts of errors, for characters of one byte. -/
def sampleTexts : GoTexts :=
  { jsonError := String.ofList, base64Error := String.ofList, wmiError := fun _ => "bad CSV",
    runes := fun bs => bs.map fun b => Char.ofNat b.toNat, table := id }

end Sample

end Qga

end LatencyExporter
