import Mathlib.Data.Finmap

/-!
# Shared eBPF Definitions

What the three tracing programs have in common: the integer logarithm of
`bits.bpf.h`, the key and histogram types of `common.h`, and the tail every
completion handler ends with, which turns a time difference into a slot and
counts it.

The tail is written out three times in the C sources, word for word. Here it
is one definition with the histogram map as a parameter, and the handlers
apply it under their own names.

A BPF hash map is a `Finmap`: equality of maps is equality of contents, and a
lookup, an update with `BPF_ANY` and a delete are `lookup`, `insert` and
`erase`. The handlers never evict an entry; evictions by the kernel are events
of their own, beside those of the handlers.

A slot counter is a `Nat`. The handlers only ever add one to it and never
branch on it, so the `__u64` in the kernel map is this number modulo `2 ^ 64`;
`slotsRead` takes that remainder where user space reads the map.

## Main definitions

* `truth`: The integer a C comparison yields.
* `log2`, `log2l`: The logarithm of a 32-bit and of a 64-bit value.
* `HistKey`: A device and an operation.
* `Hist`: The slot counters of one key.
* `Ktime`, `Ktime.early`: A reading of the kernel clock.
* `deltaNs`: The signed difference of two readings.
* `latencyUs`: The difference in microseconds, never zero.
* `latencySlot`: The slot a difference is counted in.
* `recordSample`, `recordOpt`: The tail of a completion handler.
* `slotsRead`: The slot array as user space reads it.
* `sampleCount`: The counter of a slot.
* `readCount`: The counter of a slot as user space reads it.

## Theorems

* `recordSample_lookup`, `recordSample_lookup_ne`: The histograms after a
  sample.
* `sampleCount_recordSample`: A sample raises one counter by one.
* `readCount_eq`: What is read is the counter, up to a wrap.
-/

namespace LatencyExporter

namespace Bpf

/-- The `int` a C comparison yields. -/
def truth (b : Bool) : UInt32 := if b then 1 else 0

/-- `log2` of `bits.bpf.h`, with its 32-bit intermediate values. -/
def log2 (v : UInt32) : UInt64 :=
  let r := truth (v > 0xFFFF) <<< 4
  let v := v >>> r
  let shift := truth (v > 0xFF) <<< 3
  let v := v >>> shift
  let r := r ||| shift
  let shift := truth (v > 0xF) <<< 2
  let v := v >>> shift
  let r := r ||| shift
  let shift := truth (v > 0x3) <<< 1
  let v := v >>> shift
  let r := r ||| shift
  let r := r ||| (v >>> 1)
  r.toUInt64

/-- `log2l` of `bits.bpf.h`. -/
def log2l (v : UInt64) : UInt64 :=
  let hi := (v >>> 32).toUInt32
  if hi ≠ 0 then log2 hi + 32 else log2 v.toUInt32

/-- `MAX_SLOTS` of `common.h`, and `MaxSlots` of the Go side. -/
def maxSlots : Nat := 26

/-- `struct block_hist_key` and `struct nfs_hist_key`, which are the same
    record. The padding is zeroed by every handler and read by none. -/
@[ext]
structure HistKey where
  dev : UInt32
  op : UInt8
deriving DecidableEq

/-- `struct hist`. -/
structure Hist where
  slots : Fin maxSlots → Nat

/-- The static `zero_hist` a new key is initialised from. -/
def zeroHist : Hist := { slots := fun _ => 0 }

/-- `__sync_fetch_and_add(&histp->slots[slot], 1)`. -/
def Hist.fetchAndAdd (h : Hist) (slot : Fin maxSlots) : Hist :=
  { slots := fun i => if i = slot then h.slots i + 1 else h.slots i }

/-- The type of `block_hists`, `nfs_hists` and `nfs_kprobe_hists`. -/
abbrev HistMap := Finmap (fun _ : HistKey => Hist)

/-- A reading of `bpf_ktime_get_ns`. The helper returns a `u64`, but the
    kernel clock behind it is `ktime_t`, which `vmlinux.h` declares as an
    `s64`, so the top bit of a reading is clear. -/
structure Ktime where
  ns : UInt64
  lt : ns.toNat < 2 ^ 63

/-- A reading within four seconds of boot. -/
def Ktime.early (ns : UInt32) : Ktime where
  ns := ns.toUInt64
  lt := by
    rw [UInt32.toNat_toUInt64]
    exact Nat.lt_trans ns.toNat_lt (by decide)

/-- `(__s64)(bpf_ktime_get_ns() - *tsp)`: a wrapping subtraction of `u64`
    values, read as a signed number. -/
def deltaNs (now tsp : UInt64) : Int := (now - tsp).toBitVec.toInt

/-- `delta /= 1000U; if (delta == 0) delta = 1;` -/
def latencyUs (delta : Int) : Int :=
  let us := delta.tdiv 1000
  if us = 0 then 1 else us

/-- `if (slot >= MAX_SLOTS) slot = MAX_SLOTS - 1;` -/
def clampSlot (slot : UInt64) : Fin maxSlots :=
  if h : slot.toNat < maxSlots then ⟨slot.toNat, h⟩ else ⟨maxSlots - 1, by decide⟩

/-- The slot a time difference is counted in. The signed difference is
    converted to the `__u64` parameter of `log2l`. -/
def latencySlot (delta : Int) : Fin maxSlots :=
  clampSlot (log2l (UInt64.ofInt (latencyUs delta)))

/-- Find the histogram of a key, creating it when there is none. The second
    lookup of the source happens in `recordSample`. -/
def ensureHist (hists : HistMap) (hk : HistKey) : HistMap :=
  match hists.lookup hk with
  | none => hists.insert hk zeroHist
  | some _ => hists

/-- The tail of every completion handler: find or create the histogram of the
    key and add one to the slot. -/
def recordSample (hists : HistMap) (hk : HistKey) (slot : Fin maxSlots) : HistMap :=
  let hists := ensureHist hists hk
  match hists.lookup hk with
  | none => hists
  | some histp => hists.insert hk (histp.fetchAndAdd slot)

/-- Count what a handler arrived at. Its early returns after the delete are
    `none`. -/
def recordOpt (hists : HistMap) : Option (HistKey × Fin maxSlots) → HistMap
  | none => hists
  | some (hk, slot) => recordSample hists hk slot

/-- The `__u64` counters of a histogram as user space reads them. -/
def slotsRead (h : Hist) : Fin maxSlots → UInt64 := fun i => UInt64.ofNat (h.slots i)

/-- The counter of a slot, zero when the key has no histogram. -/
def sampleCount (hists : HistMap) (hk : HistKey) (slot : Fin maxSlots) : Nat :=
  match hists.lookup hk with
  | none => 0
  | some h => h.slots slot

/-- The `__u64` counter of a slot that user space reads, zero when the key has no
    histogram. -/
def readCount (hists : HistMap) (hk : HistKey) (slot : Fin maxSlots) : UInt64 :=
  match hists.lookup hk with
  | none => 0
  | some h => slotsRead h slot

theorem readCount_eq (hists : HistMap) (hk : HistKey) (slot : Fin maxSlots) :
    readCount hists hk slot = UInt64.ofNat (sampleCount hists hk slot) := by
  unfold readCount sampleCount
  cases hists.lookup hk <;> rfl

/-- A counter that has not wrapped is read as it is. -/
theorem readCount_toNat (hists : HistMap) (hk : HistKey) (slot : Fin maxSlots)
    (hlt : sampleCount hists hk slot < 2 ^ 64) :
    (readCount hists hk slot).toNat = sampleCount hists hk slot := by
  rw [readCount_eq, UInt64.toNat_ofNat', Nat.mod_eq_of_lt hlt]

theorem ensureHist_lookup (hists : HistMap) (hk : HistKey) :
    (ensureHist hists hk).lookup hk = some ((hists.lookup hk).getD zeroHist) := by
  unfold ensureHist
  cases h : hists.lookup hk with
  | none => rw [Finmap.lookup_insert, Option.getD_none]
  | some histp => rw [h, Option.getD_some]

theorem ensureHist_lookup_ne (hists : HistMap) (hk hk' : HistKey) (hne : hk' ≠ hk) :
    (ensureHist hists hk).lookup hk' = hists.lookup hk' := by
  unfold ensureHist
  cases h : hists.lookup hk with
  | none => exact Finmap.lookup_insert_of_ne _ hne
  | some histp => rfl

theorem recordSample_lookup (hists : HistMap) (hk : HistKey) (slot : Fin maxSlots) :
    (recordSample hists hk slot).lookup hk
      = some (((hists.lookup hk).getD zeroHist).fetchAndAdd slot) := by
  simp only [recordSample, ensureHist_lookup, Finmap.lookup_insert]

theorem recordSample_lookup_ne (hists : HistMap) (hk hk' : HistKey) (slot : Fin maxSlots)
    (hne : hk' ≠ hk) : (recordSample hists hk slot).lookup hk' = hists.lookup hk' := by
  simp only [recordSample, ensureHist_lookup, Finmap.lookup_insert_of_ne _ hne,
    ensureHist_lookup_ne _ _ _ hne]

/-- Recording a sample raises exactly one counter by exactly one. -/
theorem sampleCount_recordSample (hists : HistMap) (hk hk' : HistKey)
    (slot slot' : Fin maxSlots) :
    sampleCount (recordSample hists hk slot) hk' slot'
      = sampleCount hists hk' slot' + if hk' = hk ∧ slot' = slot then 1 else 0 := by
  by_cases hkk : hk' = hk
  · subst hkk
    simp only [sampleCount, recordSample_lookup, Hist.fetchAndAdd, true_and]
    cases h : hists.lookup hk' with
    | none =>
        simp only [Option.getD_none, zeroHist]
        split <;> rfl
    | some histp =>
        simp only [Option.getD_some]
        split <;> rfl
  · simp only [sampleCount, recordSample_lookup_ne _ _ _ _ hkk, hkk, false_and, if_false,
      Nat.add_zero]

end Bpf

end LatencyExporter
