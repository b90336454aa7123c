import LatencyExporter.Theory.Scrape

/-!
# Armed Histograms

Whether the latency histograms of QEMU end up with the configured boundaries.
A scrape enables a histogram when QEMU reports none and the connection does not
remember to have dealt with the device already. The memory goes by device
identifiers and is never cleared, so a disk that is unplugged and plugged in
again under its old identifier is taken to be armed and is left without a
histogram. And a histogram somebody else has enabled is taken as it is,
whatever its boundaries are. These are the only two ways to miss
(`armed_as_configured_iff`).

QEMU is modelled by what it reports for its disks. A disk that is plugged in
has no histograms, and `block-latency-histogram-set` replaces those of the
device it names.

## Main definitions

* `deviceID`: The identifier of an accepted device.
* `BlockDevice.withHistograms`, `histogramSet`: Enabling histograms in QEMU.
* `Session`, `SessionEvent`, `Session.step`, `Session.run`: A connection, the
  disks behind it, and what happens to them.
* `Configured`, `AllConfigured`: Histograms with the configured boundaries.
* `Armable`: A scrape is going to get there.

## Theorems

* `mem_enabled_iff`: The devices a scrape enables histograms for.
* `foldl_histogramSet`: Enabling several devices.
* `allConfigured_iff`: The histograms after enabling.
* `allConfigured_scrape_iff`: One scrape.
* `armed_as_configured_iff`: When a scrape leaves all histograms configured.
* `plugged_configured`, `replugged_not_configured`: A disk that is plugged in
  once, and one that is plugged in twice.
-/

namespace LatencyExporter

namespace Qmp

/-- The identifier of a device, if it is accepted. -/
def deviceID (dev : BlockDevice) : Option String :=
  (extractDiskInfo dev.effectiveQDev).map Prod.snd

/-- The device with new, empty histograms for all operations. -/
def BlockDevice.withHistograms (boundaries : List Int) : BlockDevice → BlockDevice
  | .mk qdev stats backing =>
      let hist : LatencyHist :=
        { boundaries := boundaries.map fun b => (b : ℚ),
          bins := List.replicate (boundaries.length + 1) 0 }
      .mk qdev
        { stats with
          rdLatencyHistogram := some hist,
          wrLatencyHistogram := some hist,
          flushLatencyHistogram := some hist } backing

/-- The device without histograms. -/
def BlockDevice.withoutHistograms : BlockDevice → BlockDevice
  | .mk qdev stats backing =>
      .mk qdev
        { stats with
          rdLatencyHistogram := none, wrLatencyHistogram := none, flushLatencyHistogram := none }
        backing

/-- `block-latency-histogram-set`. -/
def histogramSet (boundaries : List Int) (disks : List BlockDevice) (id : String) :
    List BlockDevice :=
  disks.map fun dev => if deviceID dev = some id then dev.withHistograms boundaries else dev

/-- A connection and the disks QEMU reports on it. -/
structure Session where
  conn : VmConnection
  disks : List BlockDevice

/-- What can happen: a disk is plugged in at some place of the list, a disk is
    unplugged, another client sets histograms, or the exporter scrapes. -/
inductive SessionEvent where
  | plug (dev : BlockDevice) (place : Nat)
  | unplug (id : String)
  | histogramSet (id : String) (boundaries : List Int)
  | scrape (replies : Replies)

/-- One event. A scrape is told about the disks as they are, and QEMU carries
    out the commands it accepts. -/
def Session.step (cfg : PollerConfig) (s : Session) : SessionEvent → Session
  | .plug dev place =>
      { s with disks := s.disks.take place ++ dev.withoutHistograms :: s.disks.drop place }
  | .unplug id => { s with disks := s.disks.filter fun dev => deviceID dev ≠ some id }
  | .histogramSet id boundaries => { s with disks := Qmp.histogramSet boundaries s.disks id }
  | .scrape replies =>
      let scrape := scrapeVM cfg s.conn { replies with blockStats := .ok s.disks }
      { conn := scrape.conn,
        disks := scrape.enabled.foldl (Qmp.histogramSet cfg.boundariesNs) s.disks }

/-- A run of events. -/
def Session.run (cfg : PollerConfig) (s : Session) (events : List SessionEvent) : Session :=
  events.foldl (Session.step cfg) s

/-- The histograms of a device are enabled with exactly these boundaries. -/
def Configured (boundaries : List Int) (dev : BlockDevice) : Prop :=
  ∀ hist ∈ [dev.stats.rdLatencyHistogram, dev.stats.wrLatencyHistogram,
      dev.stats.flushLatencyHistogram],
    hist.map LatencyHist.boundaries = some (boundaries.map fun b => (b : ℚ))

/-- All accepted devices have their histograms as configured. -/
def AllConfigured (boundaries : List Int) (disks : List BlockDevice) : Prop :=
  ∀ dev ∈ disks, (deviceID dev).isSome → Configured boundaries dev

/-- The first device reported under an identifier. -/
def firstWithID (disks : List BlockDevice) (id : String) : Option BlockDevice :=
  disks.find? fun dev => deviceID dev = some id

/-- An accepted device that is not configured yet is not remembered as armed
    either, and the first device reported under its identifier, which is the
    device itself when identifiers are unique, has no histogram. -/
def Armable (boundaries : List Int) (s : Session) : Prop :=
  ∀ dev ∈ s.disks, ∀ id, deviceID dev = some id → ¬ Configured boundaries dev →
    s.conn.armed id = false ∧ ∃ first, firstWithID s.disks id = some first ∧
      hasHistograms first = false

/-- The connection is open and QEMU accepts every command to enable
    histograms. -/
def AllSucceed (s : Session) (replies : Replies) : Prop :=
  s.conn.closed = false ∧ ∀ id boundaries, replies.enableHistogram id boundaries = true

/-- Histograms do not change what a device is called. -/
theorem deviceID_withHistograms (boundaries : List Int) (dev : BlockDevice) :
    deviceID (dev.withHistograms boundaries) = deviceID dev := by
  cases dev with
  | mk qdev stats backing => cases backing <;> rfl

/-- Newly enabled histograms have the boundaries they were enabled with. -/
theorem configured_withHistograms (boundaries : List Int) (dev : BlockDevice) :
    Configured boundaries (dev.withHistograms boundaries) := by
  cases dev with
  | mk qdev stats backing =>
      intro hist hhist
      simp only [BlockDevice.withHistograms, BlockDevice.stats, List.mem_cons, List.not_mem_nil,
        or_false, or_self] at hhist
      rw [hhist, Option.map_some]

/-- A device that is not accepted is skipped. -/
theorem armLoop_none (cfg : PollerConfig) (replies : Replies) (dev : BlockDevice)
    (devs : List BlockDevice) (armed : String → Bool) (hid : deviceID dev = none) :
    armLoop cfg replies (dev :: devs) armed = armLoop cfg replies devs armed := by
  rw [deviceID, Option.map_eq_none_iff] at hid
  rw [armLoop, hid]

/-- A round of the loop over an accepted device, when QEMU accepts commands. -/
theorem armLoop_some (cfg : PollerConfig) (replies : Replies) (dev : BlockDevice)
    (devs : List BlockDevice) (armed : String → Bool) (id : String) (hid : deviceID dev = some id)
    (hok : ∀ id boundaries, replies.enableHistogram id boundaries = true) :
    (armLoop cfg replies (dev :: devs) armed).2
      = if armed id then (armLoop cfg replies devs armed).2
        else if hasHistograms dev then (armLoop cfg replies devs (Function.update armed id true)).2
        else id :: (armLoop cfg replies devs (Function.update armed id true)).2 := by
  rw [deviceID, Option.map_eq_some_iff] at hid
  rcases hid with ⟨info, hinfo, rfl⟩
  rw [armLoop, hinfo]
  simp only [hok, if_true]
  split
  · rfl
  · split <;> rfl

/-- A scrape enables the histograms of an identifier it does not remember, if
    the first device under it has none. -/
theorem mem_enabled_iff (cfg : PollerConfig) (replies : Replies) (disks : List BlockDevice)
    (armed : String → Bool) (id : String)
    (hok : ∀ id boundaries, replies.enableHistogram id boundaries = true) :
    id ∈ (armLoop cfg replies disks armed).2
      ↔ armed id = false ∧ ∃ first, firstWithID disks id = some first ∧
        hasHistograms first = false := by
  unfold firstWithID
  induction disks generalizing armed with
  | nil => simp [armLoop]
  | cons dev devs ih =>
      by_cases hsame : deviceID dev = some id
      · -- This device decides, and the identifier is remembered afterwards.
        rw [armLoop_some cfg replies dev devs armed id hsame hok,
          List.find?_cons_of_pos (by simpa using hsame)]
        by_cases harmed : armed id = true
        · rw [if_pos harmed, ih]
          simp [harmed]
        · rw [if_neg harmed]
          by_cases hhist : hasHistograms dev = true
          · rw [if_pos hhist, ih]
            simp [hhist, Function.update_self]
          · rw [if_neg hhist]
            simp [Bool.eq_false_of_not_eq_true harmed, Bool.eq_false_of_not_eq_true hhist]
      · -- A device under another identifier changes nothing for this one.
        rw [List.find?_cons_of_neg (by simpa using hsame)]
        cases hid : deviceID dev with
        | none => rw [armLoop_none cfg replies dev devs armed hid, ih]
        | some id' =>
            have hne : id ≠ id' := by
              intro heq
              rw [hid, heq] at hsame
              exact hsame rfl
            rw [armLoop_some cfg replies dev devs armed id' hid hok]
            have hupdate : Function.update armed id' true id = armed id :=
              Function.update_of_ne hne _ _
            split
            · rw [ih]
            · split
              · rw [ih, hupdate]
              · rw [List.mem_cons, ih, hupdate]
                exact or_iff_right hne

/-- Enabling the same histograms twice is enabling them once. -/
theorem withHistograms_idem (boundaries : List Int) (dev : BlockDevice) :
    (dev.withHistograms boundaries).withHistograms boundaries = dev.withHistograms boundaries := by
  cases dev
  rfl

/-- Enabling several devices one after another, device by device. -/
theorem foldl_histogramSet (boundaries : List Int) (ids : List String)
    (disks : List BlockDevice) :
    ids.foldl (histogramSet boundaries) disks
      = disks.map fun dev =>
          if ∃ id ∈ ids, deviceID dev = some id then dev.withHistograms boundaries else dev := by
  induction ids generalizing disks with
  | nil => simp
  | cons id ids ih =>
      rw [List.foldl_cons, ih, histogramSet, List.map_map]
      refine List.map_congr_left fun dev _ => ?_
      simp only [Function.comp_apply, List.mem_cons, exists_eq_or_imp]
      by_cases hid : deviceID dev = some id
      · -- Enabling the device again does not change it.
        rw [if_pos hid, deviceID_withHistograms, withHistograms_idem, ite_self,
          if_pos (Or.inl hid)]
      · simp only [hid, if_false, false_or]

/-- Enabling has to reach every accepted device that is not configured. -/
theorem allConfigured_iff (boundaries : List Int) (ids : List String) (disks : List BlockDevice) :
    AllConfigured boundaries (ids.foldl (histogramSet boundaries) disks)
      ↔ ∀ dev ∈ disks, ∀ id, deviceID dev = some id → ¬ Configured boundaries dev → id ∈ ids := by
  rw [foldl_histogramSet]
  constructor
  · intro h dev hdev id hid hnot
    by_contra hids
    -- The device is not among the enabled ones, so it is still the same.
    have hno : ¬ ∃ id' ∈ ids, deviceID dev = some id' := by
      intro ⟨id', hid', heq⟩
      rw [hid, Option.some.injEq] at heq
      rw [heq] at hids
      exact hids hid'
    refine hnot (h dev (List.mem_map.mpr ⟨dev, hdev, if_neg hno⟩) ?_)
    rw [hid]
    rfl
  · intro h dev' hdev' hsome
    rcases List.mem_map.mp hdev' with ⟨dev, hdev, heq⟩
    by_cases hids : ∃ id ∈ ids, deviceID dev = some id
    · rw [if_pos hids] at heq
      rw [← heq]
      exact configured_withHistograms boundaries dev
    · rw [if_neg hids] at heq
      rw [← heq] at hsome ⊢
      rcases Option.isSome_iff_exists.mp hsome with ⟨id, hid⟩
      by_contra hnot
      exact hids ⟨id, h dev hdev id hid hnot, hid⟩

/-- What a scrape of an open connection enables. -/
theorem scrapeVM_enabled (cfg : PollerConfig) (conn : VmConnection) (replies : Replies)
    (resp : List BlockDevice) (hopen : conn.closed = false)
    (hresp : replies.blockStats = .ok resp) :
    (scrapeVM cfg conn replies).enabled = (armLoop cfg replies resp conn.armed).2 := by
  unfold scrapeVM
  simp only [hopen, hresp, Bool.false_eq_true, if_false]

theorem Session.run_concat (cfg : PollerConfig) (s : Session) (events : List SessionEvent)
    (e : SessionEvent) : s.run cfg (events ++ [e]) = (s.run cfg events).step cfg e :=
  List.foldl_concat ..

/-- What a scrape of an open connection does to the disks. -/
theorem step_scrape_disks (cfg : PollerConfig) (s : Session) (replies : Replies)
    (hopen : s.conn.closed = false) :
    (s.step cfg (.scrape replies)).disks
      = (armLoop cfg { replies with blockStats := .ok s.disks } s.disks s.conn.armed).2.foldl
          (histogramSet cfg.boundariesNs) s.disks := by
  have henabled := scrapeVM_enabled cfg s.conn { replies with blockStats := .ok s.disks } s.disks
    hopen rfl
  rw [← henabled]
  rfl

/-- One scrape leaves all histograms configured exactly from an armable state. -/
theorem allConfigured_scrape_iff (cfg : PollerConfig) (s : Session) (replies : Replies)
    (hok : AllSucceed s replies) :
    AllConfigured cfg.boundariesNs (s.step cfg (.scrape replies)).disks
      ↔ Armable cfg.boundariesNs s := by
  rcases hok with ⟨hopen, henable⟩
  rw [step_scrape_disks cfg s replies hopen, allConfigured_iff]
  simp only [mem_enabled_iff cfg { replies with blockStats := .ok s.disks } s.disks s.conn.armed _
    henable, Armable]

/-- After a scrape in which all commands succeed, every accepted device has its
    histograms as configured if and only if, before the scrape, each device that
    had not was neither remembered as armed nor reported with a histogram. -/
theorem armed_as_configured_iff (cfg : PollerConfig) (s₀ : Session) (before : List SessionEvent)
    (replies : Replies) (hok : AllSucceed (s₀.run cfg before) replies) :
    AllConfigured cfg.boundariesNs (s₀.run cfg (before ++ [.scrape replies])).disks
      ↔ Armable cfg.boundariesNs (s₀.run cfg before) := by
  -- How the state was reached does not matter; `Theory.Replugging` goes into that.
  rw [Session.run_concat]
  exact allConfigured_scrape_iff cfg (s₀.run cfg before) replies hok

/-- A disk as it is plugged in. -/
def vdb : BlockDevice :=
  .mk "ua-vdb"
    { rdTotalTimeNs := 0, wrTotalTimeNs := 0, flushTotalTimeNs := 0, rdLatencyHistogram := none,
      wrLatencyHistogram := none, flushLatencyHistogram := none } none

/-- A new connection to a machine without disks. -/
def newSession : Session where
  conn :=
    { ns := "default", vmi := "vm", podName := "virt-launcher-vm", armed := fun _ => false,
      numQueues := fun _ => none, pvcMap := .empty, closed := false }
  disks := []

/-- QEMU accepts every command, and there are no virtio devices. -/
def allAccepted : Replies :=
  { blockStats := .ok [], enableHistogram := fun _ _ => true, virtio := some [],
    virtioStatus := fun _ => none, queueStatus := fun _ _ => none, dynClient := none }

/-- Nothing is remembered of a disk that comes for the first time. -/
theorem plugged_configured :
    AllConfigured [1000, 2000]
      (newSession.run ⟨"node", [1000, 2000]⟩ [.plug vdb 0, .scrape allAccepted]).disks := by
  refine (armed_as_configured_iff ⟨"node", [1000, 2000]⟩ newSession [.plug vdb 0] allAccepted
    ⟨rfl, fun _ _ => rfl⟩).mpr ?_
  intro dev hdev id hid _
  have hdisk : (newSession.run ⟨"node", [1000, 2000]⟩ [.plug vdb 0]).disks
      = [vdb.withoutHistograms] := rfl
  rw [hdisk] at hdev ⊢
  rw [List.mem_singleton] at hdev
  refine ⟨rfl, vdb.withoutHistograms, ?_, rfl⟩
  rw [firstWithID, List.find?_cons_of_pos]
  rw [← hdev]
  simpa using hid

/-- The connection remembers the disk as armed, and QEMU has forgotten it. -/
theorem replugged_not_configured :
    let events : List SessionEvent :=
      [.plug vdb 0, .scrape allAccepted, .unplug "ua-vdb", .plug vdb 0]
    AllSucceed (newSession.run ⟨"node", [1000, 2000]⟩ events) allAccepted ∧
      ¬ AllConfigured [1000, 2000]
        (newSession.run ⟨"node", [1000, 2000]⟩ (events ++ [.scrape allAccepted])).disks := by
  refine ⟨⟨rfl, fun _ _ => rfl⟩, ?_⟩
  intro hall
  -- The disk is reported, and the scrape leaves it as it found it.
  have hdisk : (newSession.run ⟨"node", [1000, 2000]⟩
      [.plug vdb 0, .scrape allAccepted, .unplug "ua-vdb", .plug vdb 0,
        .scrape allAccepted]).disks = [vdb.withoutHistograms] := by
    rfl
  have hconf := hall vdb.withoutHistograms (by rw [List.cons_append]; simp [hdisk]) (by decide)
  exact absurd (hconf none (by simp [vdb, BlockDevice.withoutHistograms, BlockDevice.stats]))
    (by simp)

end Qmp

end LatencyExporter
