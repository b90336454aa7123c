import LatencyExporter.Core.Startup
import LatencyExporter.Theory.Boundaries

/-!
# Configurations That Start

A configuration is checked in one place and used in several. The check covers
the name of the node, the boundaries and the scan interval of the eBPF programs.
It does not cover the intervals and the concurrency of the two collectors, which
make them panic or get stuck, nor numbers that are too large for what they are
converted to. `startsSafely_iff` has the list: with these conditions added to the
check, every configuration that passes starts.

## Main definitions

* `StartsSafely`: Every subsystem that is enabled starts and can work.
* `Working`, `Tracks`: What is needed of the collectors and of the eBPF programs.
* `Honoured`, `Fits`: Sizes of maps that are kept, and that can be.
* `Sound`: All that has to be checked.

## Theorems

* `validate_ok_iff`: What is checked.
* `startPoller_iff`, `startEBPF_iff`: Starting a collector and the eBPF programs.
* `seconds_iff`, `mapEntries_iff`, `toInt32_iff`: The conversions.
* `startsSafely_iff`: When a configuration that passes the check starts.
* `default_sound`: The defaults do.
-/

namespace LatencyExporter

namespace Settings

/-- A collector starts with a ticker and room for a scrape. -/
def Working (started : Except Panic Poller) : Prop :=
  ∃ poller, started = .ok poller ∧ 0 < poller.interval ∧ 1 ≤ poller.slots

/-- A map is as large as it was asked to be. -/
def Honoured (entries : Option (Option UInt32)) (mapSize : Int64) : Prop :=
  ∀ n, entries = some (some n) → (n.toNat : Int) = mapSize.toInt

/-- The eBPF programs start with a ticker of as many seconds as configured, and
    with maps of the configured sizes. -/
def Tracks (c : Config) (started : Except Panic Tracing) : Prop :=
  ∃ tracing, started = .ok tracing ∧
    tracing.interval.toInt = c.ebpfScanInterval.toInt * 1000000000 ∧ 0 < tracing.interval ∧
    Honoured tracing.blockEntries c.ebpfBlockMapSize ∧
    Honoured tracing.nfsEntries c.ebpfNFSMapSize ∧
    Honoured tracing.nfsKprobeEntries c.ebpfNFSKprobeMapSize

/-- Every subsystem that is enabled starts and can work, and the timeout of the
    guest agent is the one that was given. -/
def StartsSafely (parser : FloatParser) (f : Flags) : Prop :=
  ((parse parser f).enableQMP = true → Working (startQMP (parse parser f))) ∧
  ((parse parser f).enableQGA = true → Working (startQGA (parse parser f))) ∧
  ((parse parser f).enableEBPF = true → Tracks (parse parser f) (startEBPF (parse parser f))) ∧
  (parse parser f).qgaTimeout.toInt = f.qgaTimeout.toInt

/-- A size that fits into 32 bits. -/
def Fits (mapSize : Int64) : Prop := mapSize.toInt < 2 ^ 32

/-- What would have to be checked besides. -/
structure Sound (f : Flags) : Prop where
  qmp : f.enableQMP = true → 0 < f.qmpPollInterval ∧ 1 ≤ f.qmpConcurrency
  qga : f.enableQGA = true → 0 < f.qgaPollInterval ∧ 1 ≤ f.qgaConcurrency
  scanInterval : f.enableEBPF = true → f.ebpfScanInterval.toInt * 1000000000 < 2 ^ 63
  block : f.enableEBPF = true → f.enableEBPFBlock = true → Fits f.ebpfBlockMapSize
  nfs : f.enableEBPF = true → f.enableEBPFNFS = true → Fits f.ebpfNFSMapSize
  nfsKprobe : f.enableEBPF = true → f.enableEBPFNFSKprobe = true → Fits f.ebpfNFSKprobeMapSize
  timeout : -2 ^ 31 ≤ f.qgaTimeout.toInt ∧ f.qgaTimeout.toInt < 2 ^ 31

theorem validate_ok_iff (c : Config) :
    c.validate = .ok () ↔ c.nodeName ≠ "" ∧ c.boundariesNs ≠ [] ∧
      (c.enableEBPF = true → 0 < c.ebpfScanInterval) := by
  unfold Config.validate
  -- The checks in the order of the source, each after those before it have passed.
  by_cases hnode : c.nodeName = ""
  · simp [hnode]
  · by_cases hempty : c.boundariesNs = []
    · simp [hnode, hempty]
    · by_cases hscan : c.enableEBPF = true ∧ c.ebpfScanInterval ≤ 0
      · simp [hnode, hempty, hscan]
      · simp only [hnode, if_false, List.length_eq_zero_iff, hempty, hscan, not_false_eq_true,
          ne_eq, true_and, true_iff]
        intro henabled
        exact Int64.not_le.mp fun hle => hscan ⟨henabled, hle⟩

theorem startPoller_iff (interval concurrency : Int64) :
    Working (startPoller interval concurrency) ↔ 0 < interval ∧ 1 ≤ concurrency := by
  constructor
  · rintro ⟨poller, hstart, hinterval, hslots⟩
    simp only [startPoller, makeSemaphore, newTicker] at hstart
    -- First a negative capacity panics, then an interval that is not positive.
    split at hstart
    · exact absurd hstart (by simp [bind, Except.bind])
    · split at hstart
      · exact absurd hstart (by simp [bind, Except.bind])
      · simp only [bind, Except.bind, Except.ok.injEq] at hstart
        rw [← hstart] at hinterval hslots
        refine ⟨hinterval, Int64.le_iff_toInt_le.mpr ?_⟩
        rw [Int64.toInt_one]
        dsimp only at hslots
        omega
  · rintro ⟨hinterval, hslots⟩
    have hcap := Int64.le_iff_toInt_le.mp hslots
    rw [Int64.toInt_one] at hcap
    have hnonneg : ¬ concurrency < 0 := by
      rw [Int64.lt_iff_toInt_lt, Int64.toInt_zero]
      omega
    refine ⟨{ interval := interval, slots := concurrency.toInt.toNat }, ?_, hinterval, ?_⟩
    · simp only [startPoller, makeSemaphore, newTicker, if_neg hnonneg,
        if_neg (Int64.not_le.mpr hinterval)]
      rfl
    · dsimp only
      omega

/-- A number of seconds is a duration if it fits into one. -/
theorem seconds_iff (n : Int64) (hpos : 0 < n) :
    ((n * 1000000000).toInt = n.toInt * 1000000000 ∧ 0 < n * 1000000000) ↔
      n.toInt * 1000000000 < 2 ^ 63 := by
  have hsecond : (1000000000 : Int64).toInt = 1000000000 := rfl
  have hn := Int64.lt_iff_toInt_lt.mp hpos
  rw [Int64.toInt_zero] at hn
  constructor
  · rintro ⟨hexact, _⟩
    -- A product that does not wrap is that of the integers, which bounds it.
    rw [← hexact]
    exact Int64.toInt_lt _
  · intro hfits
    have hexact : (n * 1000000000).toInt = n.toInt * 1000000000 := by
      rw [Int64.toInt_mul, hsecond]
      exact Int.bmod_eq_of_le (by omega) (by omega)
    refine ⟨hexact, Int64.lt_iff_toInt_lt.mpr ?_⟩
    rw [hexact, Int64.toInt_zero]
    omega

/-- A size that is set is the one asked for if that fits into 32 bits. -/
theorem mapEntries_iff (mapSize : Int64) (enabled : Bool) :
    Honoured (if enabled then some (mapEntries mapSize) else none) mapSize ↔
      (enabled = true → Fits mapSize) := by
  cases enabled with
  | false =>
      refine iff_of_true (fun n hn => ?_) fun hc => absurd hc Bool.false_ne_true
      exact absurd hn (by simp only [Bool.false_eq_true, if_false, reduceCtorEq, not_false_eq_true])
  | true =>
      simp only [if_true, Honoured, mapEntries, Option.some.injEq, true_implies, Fits]
      by_cases hpos : mapSize > 0
      · have hnat := Int64.lt_iff_toInt_lt.mp hpos
        rw [Int64.toInt_zero] at hnat
        have hvalue : ((UInt32.ofInt mapSize.toInt).toNat : Int) = mapSize.toInt % 2 ^ 32 := by
          rw [UInt32.ofInt, UInt32.toNat_ofNat']
          omega
        simp only [if_pos hpos, Option.some.injEq, forall_eq', hvalue]
        omega
      · have hnat := Int64.le_iff_toInt_le.mp (Int64.not_lt.mp hpos)
        rw [Int64.toInt_zero] at hnat
        -- A size that is not positive is not set at all.
        rw [if_neg hpos]
        refine iff_of_true (fun n hn => ?_) (by omega)
        exact absurd hn (by simp only [reduceCtorEq, not_false_eq_true])

theorem toInt32_iff (n : Int64) :
    n.toInt32.toInt = n.toInt ↔ -2 ^ 31 ≤ n.toInt ∧ n.toInt < 2 ^ 31 := by
  rw [Int64.toInt_toInt32]
  constructor
  · intro h
    have hle := n.toInt32.le_toInt
    have hlt := n.toInt32.toInt_lt
    rw [Int64.toInt_toInt32, h] at hle hlt
    exact ⟨hle, hlt⟩
  · rintro ⟨hle, hlt⟩
    exact Int.bmod_eq_of_le (by omega) (by omega)

/-- Starting the eBPF programs, with a scan interval that is positive. -/
theorem startEBPF_iff (c : Config) (hpos : 0 < c.ebpfScanInterval) :
    Tracks c (startEBPF c) ↔ c.ebpfScanInterval.toInt * 1000000000 < 2 ^ 63 ∧
      (c.enableEBPFBlock = true → Fits c.ebpfBlockMapSize) ∧
      (c.enableEBPFNFS = true → Fits c.ebpfNFSMapSize) ∧
      (c.enableEBPFNFSKprobe = true → Fits c.ebpfNFSKprobeMapSize) := by
  rw [← seconds_iff _ hpos, ← mapEntries_iff, ← mapEntries_iff, ← mapEntries_iff]
  unfold Tracks startEBPF newTicker
  by_cases hticks : c.ebpfScanInterval * 1000000000 ≤ 0
  · -- The interval is positive, but the product has wrapped and the ticker panics.
    rw [if_pos hticks]
    refine iff_of_false ?_ fun h => absurd h.1.2 (Int64.not_lt.mpr hticks)
    rintro ⟨tracing, hstart, _⟩
    exact absurd hstart (by simp [bind, Except.bind])
  · rw [if_neg hticks]
    simp only [bind, Except.bind, Except.ok.injEq, exists_eq_left', and_assoc]

/-- A configuration that passes the check starts safely exactly if it meets the
    conditions that are not checked. -/
theorem startsSafely_iff (parser : FloatParser) (f : Flags)
    (hvalid : (parse parser f).validate = .ok ()) : StartsSafely parser f ↔ Sound f := by
  have hscan := ((validate_ok_iff _).mp hvalid).2.2
  have hqmp := startPoller_iff f.qmpPollInterval f.qmpConcurrency
  have hqga := startPoller_iff f.qgaPollInterval f.qgaConcurrency
  have hebpf := fun henabled => startEBPF_iff (parse parser f) (hscan henabled)
  have htimeout := toInt32_iff f.qgaTimeout
  constructor
  · rintro ⟨h1, h2, h3, h4⟩
    exact
      { qmp := fun h => hqmp.mp (h1 h)
        qga := fun h => hqga.mp (h2 h)
        scanInterval := fun h => ((hebpf h).mp (h3 h)).1
        block := fun h => ((hebpf h).mp (h3 h)).2.1
        nfs := fun h => ((hebpf h).mp (h3 h)).2.2.1
        nfsKprobe := fun h => ((hebpf h).mp (h3 h)).2.2.2
        timeout := htimeout.mp h4 }
  · intro h
    refine ⟨fun he => hqmp.mpr (h.qmp he), fun he => hqga.mpr (h.qga he), fun he => ?_,
      htimeout.mpr h.timeout⟩
    exact (hebpf he).mpr ⟨h.scanInterval he, h.block he, h.nfs he, h.nfsKprobe he⟩

/-- The flags left at their defaults are sound. -/
theorem default_sound (node : String) : Sound { nodeName := node } := by
  have hpoller : (0 : Int64) < 60000000000 ∧ (1 : Int64) ≤ 8 := by decide
  have hscan : (30 : Int64).toInt * 1000000000 < 2 ^ 63 := by decide
  have hsize : (10240 : Int64).toInt < 2 ^ 32 := by decide
  have htimeout : -2 ^ 31 ≤ (10 : Int64).toInt ∧ (10 : Int64).toInt < 2 ^ 31 := by decide
  exact
    { qmp := fun _ => hpoller
      qga := fun _ => hpoller
      scanInterval := fun _ => hscan
      block := fun _ _ => hsize
      nfs := fun _ _ => hsize
      nfsKprobe := fun _ _ => hsize
      timeout := htimeout }

theorem default_starts :
    (parse integerParser { nodeName := "node" }).validate = .ok () ∧
      StartsSafely integerParser { nodeName := "node" } := by
  have hvalid : (parse integerParser { nodeName := "node" }).validate = .ok () := by
    refine (validate_ok_iff _).mpr ⟨by decide, by decide, fun _ => by decide⟩
  exact ⟨hvalid, (startsSafely_iff _ _ hvalid).mpr (default_sound "node")⟩

/-- A concurrency of zero is accepted, and no scrape ever gets its turn. -/
theorem zero_concurrency_accepted :
    (parse integerParser { nodeName := "node", qmpConcurrency := 0 }).validate = .ok () ∧
      startQMP (parse integerParser { nodeName := "node", qmpConcurrency := 0 })
        = .ok { interval := 60000000000, slots := 0 } ∧
      ¬ StartsSafely integerParser { nodeName := "node", qmpConcurrency := 0 } := by
  refine ⟨(validate_ok_iff _).mpr ⟨by decide, by decide, fun _ => by decide⟩, by rfl, ?_⟩
  intro h
  -- The semaphore has no slot.
  have hpoller := (startPoller_iff _ _).mp (h.1 rfl)
  exact absurd hpoller.2 (by decide)

end Settings

end LatencyExporter
