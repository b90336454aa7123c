import LatencyExporter.Theory.Armed

/-!
# Disks That Come Back

Which histories of plugging and unplugging leave all histograms configured. The
connection remembers the identifiers it has armed, QEMU the histograms, and the
two are told apart only by an event the exporter does not see: a disk that goes
and another that comes under its identifier.

For a new connection, and as long as nobody else sets histograms, the answer is
exact. An identifier is armed from the first scrape that sees it, and the disk
behind it has histograms from then on, unless it was plugged in later than that
(`inStep_run`). So after a scrape everything is as configured if and only if no
disk is there whose identifier an earlier scrape had seen when the disk was
plugged in (`configured_iff_not_replugged`). Such a disk stays without
histograms until it is unplugged, since nothing but unplugging ends
`Replugged`.

## Main definitions

* `PluggedSince`: The disk of an identifier, and what was before it came.
* `PluggedIn`, `Seen`, `Replugged`: The identifiers that are there, that a scrape
  has seen, and that came back after that.
* `PlugHistory`: Disks come and go, and scrapes succeed.
* `InStep`: What the connection and QEMU remember of a history.

## Theorems

* `pluggedSince_plug`, `pluggedSince_unplug`, `pluggedSince_scrape`: One event.
* `armLoop_armed`: The identifiers a scrape remembers.
* `disks_scrape`, `InStep.mem_disks_scrape`: The disks after a scrape.
* `InStep.plug`, `InStep.unplug`, `InStep.scrape`: One event.
* `inStep_run`: A history.
* `configured_iff_not_replugged`: The histories that are safe.
-/

namespace LatencyExporter

namespace Qmp

/-- A disk was plugged in under the identifier and not unplugged since, and
    something holds of what had happened before. -/
def PluggedSince (P : List SessionEvent → Prop) (events : List SessionEvent) (id : String) :
    Prop :=
  ∃ pre dev place post, events = pre ++ .plug dev place :: post ∧ deviceID dev = some id ∧
    (∀ e ∈ post, e ≠ .unplug id) ∧ P pre

/-- There is a disk under the identifier. -/
def PluggedIn (events : List SessionEvent) (id : String) : Prop :=
  PluggedSince (fun _ => True) events id

/-- There was a disk under the identifier at some scrape. -/
def Seen (events : List SessionEvent) (id : String) : Prop :=
  ∃ pre replies post, events = pre ++ .scrape replies :: post ∧ PluggedIn pre id

/-- There is a disk under the identifier that came when a scrape had seen the
    identifier already. -/
def Replugged (events : List SessionEvent) (id : String) : Prop :=
  PluggedSince (fun pre => Seen pre id) events id

/-- Disks come, under identifiers that are not taken, and go. Scrapes succeed,
    and no other client sets histograms. -/
inductive PlugHistory : List SessionEvent → Prop where
  | nil : PlugHistory []
  | plug (events : List SessionEvent) (dev : BlockDevice) (place : Nat) : PlugHistory events →
      (∀ id, deviceID dev = some id → ¬ PluggedIn events id) →
      PlugHistory (events ++ [.plug dev place])
  | unplug (events : List SessionEvent) (id : String) : PlugHistory events →
      PlugHistory (events ++ [.unplug id])
  | scrape (events : List SessionEvent) (replies : Replies) : PlugHistory events →
      (∀ id boundaries, replies.enableHistogram id boundaries = true) →
      PlugHistory (events ++ [.scrape replies])

/-- A list with one more element, split at some element. -/
theorem concat_eq_append_cons {α : Type} {l pre post : List α} {e x : α}
    (h : l ++ [e] = pre ++ x :: post) :
    (l = pre ∧ e = x ∧ post = []) ∨ ∃ post', post = post' ++ [e] ∧ l = pre ++ x :: post' := by
  -- The split is at the new element or before it.
  rcases List.eq_nil_or_concat' post with rfl | ⟨post', y, rfl⟩
  · rcases List.append_inj' h rfl with ⟨rfl, he⟩
    exact Or.inl ⟨rfl, List.singleton_inj.mp he, rfl⟩
  · rw [← List.cons_append, ← List.append_assoc] at h
    rcases List.append_inj' h rfl with ⟨rfl, he⟩
    rw [List.singleton_inj.mp he]
    exact Or.inr ⟨post', rfl, rfl⟩

theorem not_pluggedSince_nil (P : List SessionEvent → Prop) (id : String) :
    ¬ PluggedSince P [] id := by
  rintro ⟨pre, dev, place, post, hevents, _⟩
  exact absurd hevents.symm (by simp only [List.append_eq_nil_iff, reduceCtorEq, and_false,
    not_false_eq_true])

/-- A disk that comes is there, and those that were there stay. -/
theorem pluggedSince_plug (P : List SessionEvent → Prop) (events : List SessionEvent)
    (dev : BlockDevice) (place : Nat) (id : String) :
    PluggedSince P (events ++ [.plug dev place]) id
      ↔ (deviceID dev = some id ∧ P events) ∨ PluggedSince P events id := by
  constructor
  · rintro ⟨pre, dev', place', post, hevents, hid, hpost, hP⟩
    rcases concat_eq_append_cons hevents with ⟨rfl, he, _⟩ | ⟨post', rfl, rfl⟩
    · rw [SessionEvent.plug.injEq] at he
      exact Or.inl ⟨he.1 ▸ hid, hP⟩
    · exact Or.inr ⟨pre, dev', place', post', rfl, hid,
        fun e he => hpost e (List.mem_append_left _ he), hP⟩
  · rintro (⟨hid, hP⟩ | ⟨pre, dev', place', post, rfl, hid, hpost, hP⟩)
    · exact ⟨events, dev, place, [], rfl, hid, fun e he => absurd he List.not_mem_nil, hP⟩
    · refine ⟨pre, dev', place', post ++ [.plug dev place], List.append_assoc .., hid, ?_, hP⟩
      refine List.forall_mem_append.mpr ⟨hpost, List.forall_mem_singleton.mpr ?_⟩
      simp only [ne_eq, reduceCtorEq, not_false_eq_true]

/-- An event that plugs in no disk keeps what is there, unless it unplugs it. -/
theorem pluggedSince_concat (P : List SessionEvent → Prop) (events : List SessionEvent)
    (e : SessionEvent) (id : String) (hplug : ∀ dev place, e ≠ .plug dev place) :
    PluggedSince P (events ++ [e]) id ↔ e ≠ .unplug id ∧ PluggedSince P events id := by
  constructor
  · rintro ⟨pre, dev, place, post, hevents, hid, hpost, hP⟩
    rcases concat_eq_append_cons hevents with ⟨_, he, _⟩ | ⟨post', rfl, rfl⟩
    · exact absurd he (hplug dev place)
    · exact ⟨hpost e (List.mem_append_right _ List.mem_cons_self), pre, dev, place, post', rfl, hid,
        fun e' he' => hpost e' (List.mem_append_left _ he'), hP⟩
  · rintro ⟨hne, pre, dev, place, post, rfl, hid, hpost, hP⟩
    exact ⟨pre, dev, place, post ++ [e], List.append_assoc .., hid,
      List.forall_mem_append.mpr ⟨hpost, List.forall_mem_singleton.mpr hne⟩, hP⟩

/-- Unplugging takes away the disk of one identifier. -/
theorem pluggedSince_unplug (P : List SessionEvent → Prop) (events : List SessionEvent)
    (id id' : String) :
    PluggedSince P (events ++ [.unplug id']) id ↔ id' ≠ id ∧ PluggedSince P events id := by
  rw [pluggedSince_concat P events (.unplug id') id
    (by simp only [ne_eq, reduceCtorEq, not_false_eq_true, implies_true]), ne_eq,
    SessionEvent.unplug.injEq]

/-- A scrape neither brings nor takes a disk. -/
theorem pluggedSince_scrape (P : List SessionEvent → Prop) (events : List SessionEvent)
    (replies : Replies) (id : String) :
    PluggedSince P (events ++ [.scrape replies]) id ↔ PluggedSince P events id := by
  rw [pluggedSince_concat P events (.scrape replies) id
    (by simp only [ne_eq, reduceCtorEq, not_false_eq_true, implies_true])]
  exact and_iff_right (by simp only [ne_eq, reduceCtorEq, not_false_eq_true])

theorem not_seen_nil (id : String) : ¬ Seen [] id := by
  rintro ⟨pre, replies, post, hevents, _⟩
  exact absurd hevents.symm (by simp only [List.append_eq_nil_iff, reduceCtorEq, and_false,
    not_false_eq_true])

/-- What a longer history has seen. -/
theorem seen_concat (events : List SessionEvent) (e : SessionEvent) (id : String) :
    Seen (events ++ [e]) id ↔ Seen events id ∨ (∃ replies, e = .scrape replies) ∧
      PluggedIn events id := by
  constructor
  · rintro ⟨pre, replies, post, hevents, hin⟩
    rcases concat_eq_append_cons hevents with ⟨rfl, he, _⟩ | ⟨post', _, rfl⟩
    · exact Or.inr ⟨⟨replies, he⟩, hin⟩
    · exact Or.inl ⟨pre, replies, post', rfl, hin⟩
  · rintro (⟨pre, replies, post, rfl, hin⟩ | ⟨⟨replies, rfl⟩, hin⟩)
    · exact ⟨pre, replies, post ++ [e], List.append_assoc .., hin⟩
    · exact ⟨events, replies, [], rfl, hin⟩

/-- Only a scrape sees anything. -/
theorem seen_of_not_scrape (events : List SessionEvent) (e : SessionEvent) (id : String)
    (he : ∀ replies, e ≠ .scrape replies) : Seen (events ++ [e]) id ↔ Seen events id := by
  rw [seen_concat]
  exact or_iff_left fun h => h.1.elim he

/-- A disk that came back is there, and its identifier was seen. -/
theorem Replugged.seen {events : List SessionEvent} {id : String} (h : Replugged events id) :
    PluggedIn events id ∧ Seen events id := by
  rcases h with ⟨pre, dev, place, post, rfl, hid, hpost, pre', replies, post', rfl, hin⟩
  refine ⟨⟨_, dev, place, post, rfl, hid, hpost, trivial⟩, pre', replies,
    post' ++ .plug dev place :: post, ?_, hin⟩
  rw [List.append_assoc, List.cons_append]

/-- When QEMU accepts commands, a scrape remembers every identifier it is told,
    and forgets none. -/
theorem armLoop_armed (cfg : PollerConfig) (replies : Replies) (disks : List BlockDevice)
    (armed : String → Bool) (id : String)
    (hok : ∀ id boundaries, replies.enableHistogram id boundaries = true) :
    (armLoop cfg replies disks armed).1 id = true
      ↔ armed id = true ∨ ∃ dev ∈ disks, deviceID dev = some id := by
  induction disks generalizing armed with
  | nil => simp only [armLoop, List.not_mem_nil, false_and, exists_false, or_false]
  | cons dev devs ih =>
      simp only [List.mem_cons, exists_eq_or_imp]
      cases hid : deviceID dev with
      | none =>
          rw [armLoop_none cfg replies dev devs armed hid, ih]
          simp only [reduceCtorEq, false_or]
      | some id' =>
          -- Whatever the branch, the identifier of the device is remembered.
          have hfirst : (armLoop cfg replies (dev :: devs) armed).1
              = (armLoop cfg replies devs (Function.update armed id' true)).1 := by
            rw [deviceID, Option.map_eq_some_iff] at hid
            rcases hid with ⟨info, hinfo, rfl⟩
            rw [armLoop, hinfo]
            simp only [hok, if_true]
            by_cases harmed : armed info.2 = true
            · rw [if_pos harmed, ← harmed, Function.update_eq_self]
            · rw [if_neg harmed]
              split <;> rfl
          rw [hfirst, ih, Option.some.injEq]
          by_cases hsame : id = id'
          · rw [hsame, Function.update_self]
            simp only [true_or, or_true]
          · rw [Function.update_of_ne hsame]
            simp only [Ne.symm hsame, false_or]

/-- A disk without histograms is not as configured. -/
theorem not_configured_of_hasHistograms (boundaries : List Int) (dev : BlockDevice)
    (h : hasHistograms dev = false) : ¬ Configured boundaries dev := by
  intro hconf
  have hrd := hconf dev.stats.rdLatencyHistogram List.mem_cons_self
  rw [hasHistograms, Option.isSome_eq_false_iff, Option.isNone_iff_eq_none] at h
  rw [h, Option.map_none] at hrd
  exact absurd hrd (by simp only [reduceCtorEq, not_false_eq_true])

/-- What the connection and QEMU remember of a history: the connection the
    identifiers that a scrape has seen, QEMU the histograms of those that did
    not come back afterwards. -/
structure InStep (boundaries : List Int) (s : Session) (events : List SessionEvent) : Prop where
  opened : s.conn.closed = false
  plugged : ∀ id, (∃ dev ∈ s.disks, deviceID dev = some id) ↔ PluggedIn events id
  armed : ∀ id, s.conn.armed id = true ↔ Seen events id
  bare : ∀ dev ∈ s.disks, ∀ id, deviceID dev = some id → (Seen events id → Replugged events id) →
    hasHistograms dev = false
  configured : ∀ dev ∈ s.disks, ∀ id, deviceID dev = some id → Seen events id →
    ¬ Replugged events id → Configured boundaries dev

section Steps

variable {cfg : PollerConfig} {s : Session} {events : List SessionEvent}

/-- The identifier does not depend on the histograms. -/
theorem deviceID_withoutHistograms (dev : BlockDevice) :
    deviceID dev.withoutHistograms = deviceID dev := by
  cases dev with
  | mk qdev stats backing => cases backing <;> rfl

/-- A new disk has no histograms, and the connection does not learn of it. -/
theorem InStep.plug (h : InStep cfg.boundariesNs s events) (dev : BlockDevice) (place : Nat)
    (hfree : ∀ id, deviceID dev = some id → ¬ PluggedIn events id) :
    InStep cfg.boundariesNs (s.step cfg (.plug dev place)) (events ++ [.plug dev place]) := by
  have hmem : ∀ dev', dev' ∈ (s.step cfg (.plug dev place)).disks
      ↔ dev' = dev.withoutHistograms ∨ dev' ∈ s.disks := by
    intro dev'
    have hsplit : dev' ∈ s.disks ↔ dev' ∈ s.disks.take place ∨ dev' ∈ s.disks.drop place := by
      rw [← List.mem_append, List.take_append_drop]
    simp only [Session.step, List.mem_append, List.mem_cons, hsplit]
    exact or_left_comm
  have hseen : ∀ id, Seen (events ++ [.plug dev place]) id ↔ Seen events id := fun id =>
    seen_of_not_scrape events _ id (by simp only [ne_eq, reduceCtorEq, not_false_eq_true,
      implies_true])
  -- For the disks that were there nothing changes, since their identifiers differ.
  have hother : ∀ dev' ∈ s.disks, ∀ id, deviceID dev' = some id →
      (Replugged (events ++ [.plug dev place]) id ↔ Replugged events id) := by
    intro dev' hdev' id hid
    rw [Replugged, pluggedSince_plug]
    exact or_iff_right fun hc => hfree id hc.1 ((h.plugged id).mp ⟨dev', hdev', hid⟩)
  refine ⟨h.opened, fun id => ?_, fun id => (h.armed id).trans (hseen id).symm, ?_, ?_⟩
  · rw [PluggedIn, pluggedSince_plug, and_true, ← PluggedIn, ← h.plugged id]
    simp only [hmem, or_and_right, exists_or, exists_eq_left, deviceID_withoutHistograms]
  · intro dev' hdev' id hid hbare
    rcases (hmem dev').mp hdev' with rfl | hdev'
    · cases dev
      rfl
    · rw [hseen, hother dev' hdev' id hid] at hbare
      exact h.bare dev' hdev' id hid hbare
  · intro dev' hdev' id hid hsaw hnot
    rw [hseen] at hsaw
    rcases (hmem dev').mp hdev' with rfl | hdev'
    · -- A new disk under an identifier that was seen has come back.
      rw [deviceID_withoutHistograms] at hid
      refine absurd ?_ hnot
      rw [Replugged, pluggedSince_plug]
      exact Or.inl ⟨hid, hsaw⟩
    · rw [hother dev' hdev' id hid] at hnot
      exact h.configured dev' hdev' id hid hsaw hnot

/-- The connection does not learn either that a disk has gone. -/
theorem InStep.unplug (h : InStep cfg.boundariesNs s events) (id' : String) :
    InStep cfg.boundariesNs (s.step cfg (.unplug id')) (events ++ [.unplug id']) := by
  have hmem : ∀ dev, dev ∈ (s.step cfg (.unplug id')).disks
      ↔ dev ∈ s.disks ∧ deviceID dev ≠ some id' := by
    intro dev
    simp only [Session.step, List.mem_filter, decide_eq_true_eq]
  have hseen : ∀ id, Seen (events ++ [.unplug id']) id ↔ Seen events id := fun id =>
    seen_of_not_scrape events _ id (by simp only [ne_eq, reduceCtorEq, not_false_eq_true,
      implies_true])
  -- The disks that stay have other identifiers.
  have hother : ∀ dev id, deviceID dev = some id → deviceID dev ≠ some id' →
      (Replugged (events ++ [.unplug id']) id ↔ Replugged events id) := by
    intro dev id hid hne
    rw [Replugged, pluggedSince_unplug]
    refine and_iff_right fun hc => hne ?_
    rw [hid, hc]
  refine ⟨h.opened, fun id => ?_, fun id => (h.armed id).trans (hseen id).symm, ?_, ?_⟩
  · rw [PluggedIn, pluggedSince_unplug, ← PluggedIn, ← h.plugged id]
    constructor
    · rintro ⟨dev, hdev, hid⟩
      rcases (hmem dev).mp hdev with ⟨hdev, hne⟩
      exact ⟨fun hc => hne (hc ▸ hid), dev, hdev, hid⟩
    · rintro ⟨hne, dev, hdev, hid⟩
      refine ⟨dev, (hmem dev).mpr ⟨hdev, fun hc => hne ?_⟩, hid⟩
      rw [hid, Option.some.injEq] at hc
      exact hc.symm
  · intro dev hdev id hid hbare
    rcases (hmem dev).mp hdev with ⟨hdev, hne⟩
    rw [hseen, hother dev id hid hne] at hbare
    exact h.bare dev hdev id hid hbare
  · intro dev hdev id hid hsaw hnot
    rcases (hmem dev).mp hdev with ⟨hdev, hne⟩
    rw [hseen] at hsaw
    rw [hother dev id hid hne] at hnot
    exact h.configured dev hdev id hid hsaw hnot

/-- A scrape enables what no earlier scrape has seen. -/
theorem InStep.mem_enabled_iff (h : InStep cfg.boundariesNs s events) (replies : Replies)
    (hok : ∀ id boundaries, replies.enableHistogram id boundaries = true) (id : String) :
    id ∈ (armLoop cfg { replies with blockStats := .ok s.disks } s.disks s.conn.armed).2
      ↔ PluggedIn events id ∧ ¬ Seen events id := by
  rw [Qmp.mem_enabled_iff cfg { replies with blockStats := .ok s.disks } s.disks s.conn.armed id
    hok, ← h.armed id, Bool.not_eq_true, and_comm]
  refine and_congr_left fun hunseen => ?_
  constructor
  · rintro ⟨first, hfirst, _⟩
    exact (h.plugged id).mp ⟨first, List.mem_of_find?_eq_some hfirst,
      by simpa using List.find?_some hfirst⟩
  · intro hin
    rcases (h.plugged id).mpr hin with ⟨dev, hdev, hid⟩
    cases hfirst : firstWithID s.disks id with
    | none =>
        exact absurd hid (by simpa using List.find?_eq_none.mp hfirst dev hdev)
    | some first =>
        -- The disk came before any scrape saw it, so it has no histograms yet.
        refine ⟨first, rfl, h.bare first (List.mem_of_find?_eq_some hfirst) id
          (by simpa using List.find?_some hfirst) fun hsaw => ?_⟩
        rw [← h.armed id, hunseen] at hsaw
        exact absurd hsaw Bool.false_ne_true

/-- The disks after a scrape. A scrape changes histograms only. -/
theorem disks_scrape (hopen : s.conn.closed = false) (replies : Replies) :
    (s.step cfg (.scrape replies)).disks = s.disks.map fun dev =>
      if ∃ id ∈ (armLoop cfg { replies with blockStats := .ok s.disks } s.disks s.conn.armed).2,
          deviceID dev = some id then
        dev.withHistograms cfg.boundariesNs
      else dev := by
  rw [step_scrape_disks cfg s replies hopen, foldl_histogramSet]

/-- A disk after a scrape, as it was and as it is. -/
theorem InStep.mem_disks_scrape (h : InStep cfg.boundariesNs s events) (replies : Replies)
    (hok : ∀ id boundaries, replies.enableHistogram id boundaries = true) {dev' : BlockDevice}
    (hdev' : dev' ∈ (s.step cfg (.scrape replies)).disks) {id : String}
    (hid : deviceID dev' = some id) :
    ∃ dev ∈ s.disks, deviceID dev = some id ∧ PluggedIn events id ∧
      (Seen events id → dev' = dev) ∧ (¬ Seen events id → Configured cfg.boundariesNs dev') := by
  rw [disks_scrape h.opened] at hdev'
  rcases List.mem_map.mp hdev' with ⟨dev, hdev, rfl⟩
  have hid' : deviceID dev = some id := by
    rw [← hid]
    split
    · rw [deviceID_withHistograms]
    · rfl
  have hin : PluggedIn events id := (h.plugged id).mp ⟨dev, hdev, hid'⟩
  refine ⟨dev, hdev, hid', hin, fun hsaw => if_neg ?_, fun hunseen => ?_⟩
  · rintro ⟨id'', henabled, hid''⟩
    rw [hid', Option.some.injEq] at hid''
    rw [← hid'', h.mem_enabled_iff replies hok] at henabled
    exact henabled.2 hsaw
  · rw [if_pos ⟨id, (h.mem_enabled_iff replies hok id).mpr ⟨hin, hunseen⟩, hid'⟩]
    exact configured_withHistograms cfg.boundariesNs dev

/-- A scrape remembers all disks that are there and configures those it had not
    seen. -/
theorem InStep.scrape (h : InStep cfg.boundariesNs s events) (replies : Replies)
    (hok : ∀ id boundaries, replies.enableHistogram id boundaries = true) :
    InStep cfg.boundariesNs (s.step cfg (.scrape replies)) (events ++ [.scrape replies]) := by
  have harmed : ∀ id, (s.step cfg (.scrape replies)).conn.armed id
      = (armLoop cfg { replies with blockStats := .ok s.disks } s.disks s.conn.armed).1 id := by
    intro id
    simp only [Session.step, scrapeVM, h.opened, Bool.false_eq_true, if_false]
  have hseen : ∀ id, Seen (events ++ [.scrape replies]) id
      ↔ Seen events id ∨ PluggedIn events id := by
    intro id
    rw [seen_concat]
    exact or_congr_right (and_iff_right ⟨replies, rfl⟩)
  refine ⟨?_, fun id => ?_, fun id => ?_, ?_, ?_⟩
  · simp only [Session.step, scrapeVM, h.opened, Bool.false_eq_true, if_false]
  · rw [PluggedIn, pluggedSince_scrape, ← PluggedIn, ← h.plugged id, disks_scrape h.opened]
    simp only [List.mem_map, exists_exists_and_eq_and]
    refine exists_congr fun dev => and_congr_right fun _ => ?_
    split
    · rw [deviceID_withHistograms]
    · exact Iff.rfl
  · rw [harmed, armLoop_armed cfg { replies with blockStats := .ok s.disks } s.disks s.conn.armed id
      hok, h.armed id, h.plugged id, hseen]
  · -- A disk that was seen now is bare only if it came back, and then the scrape left it alone.
    intro dev' hdev' id hid hbare
    rcases h.mem_disks_scrape replies hok hdev' hid with ⟨dev, hdev, hid', hin, hsame, _⟩
    rw [hseen, Replugged, pluggedSince_scrape, ← Replugged] at hbare
    have hback := hbare (Or.inr hin)
    rw [hsame hback.seen.2]
    exact h.bare dev hdev id hid' fun _ => hback
  · intro dev' hdev' id hid _ hnot
    rcases h.mem_disks_scrape replies hok hdev' hid with ⟨dev, hdev, hid', _, hsame, hnew⟩
    rw [Replugged, pluggedSince_scrape, ← Replugged] at hnot
    by_cases hsaw : Seen events id
    · rw [hsame hsaw]
      exact h.configured dev hdev id hid' hsaw hnot
    · exact hnew hsaw

end Steps

/-- A connection that has armed nothing yet, to a machine that has no disks
    yet. -/
structure NewSession (s : Session) : Prop where
  opened : s.conn.closed = false
  disks : s.disks = []
  armed : ∀ id, s.conn.armed id = false

/-- The connection and QEMU after any history. -/
theorem inStep_run (cfg : PollerConfig) (s₀ : Session) (hnew : NewSession s₀)
    (events : List SessionEvent) (hhist : PlugHistory events) :
    InStep cfg.boundariesNs (s₀.run cfg events) events := by
  -- By induction on the history, one lemma for each kind of event.
  induction hhist with
  | nil =>
      have hdisks : ∀ dev, dev ∉ (s₀.run cfg []).disks := by
        intro dev hdev
        change dev ∈ s₀.disks at hdev
        rw [hnew.disks] at hdev
        exact absurd hdev List.not_mem_nil
      refine ⟨hnew.opened, fun id => iff_of_false ?_ (not_pluggedSince_nil _ id),
        fun id => iff_of_false ?_ (not_seen_nil id), fun dev hdev => absurd hdev (hdisks dev),
        fun dev hdev => absurd hdev (hdisks dev)⟩
      · rintro ⟨dev, hdev, _⟩
        exact hdisks dev hdev
      · rw [Bool.not_eq_true]
        exact hnew.armed id
  | plug events dev place _ hfree ih =>
      rw [Session.run_concat]
      exact ih.plug dev place hfree
  | unplug events id _ ih =>
      rw [Session.run_concat]
      exact ih.unplug id
  | scrape events replies _ hok ih =>
      rw [Session.run_concat]
      exact ih.scrape replies hok

/-- After a scrape at the end of a history of plugging, unplugging and scrapes
    that succeed, all histograms are as configured if and only if no disk came
    under an identifier that an earlier scrape had seen. -/
theorem configured_iff_not_replugged (cfg : PollerConfig) (s₀ : Session) (hnew : NewSession s₀)
    (events : List SessionEvent) (hhist : PlugHistory events) (replies : Replies)
    (hok : ∀ id boundaries, replies.enableHistogram id boundaries = true) :
    AllConfigured cfg.boundariesNs (s₀.run cfg (events ++ [.scrape replies])).disks
      ↔ ∀ id, ¬ Replugged events id := by
  have hstep := inStep_run cfg s₀ hnew events hhist
  rw [Session.run_concat, allConfigured_scrape_iff cfg _ replies ⟨hstep.opened, hok⟩]
  constructor
  · -- A disk that came back has no histogram, and the cache says it has.
    intro harmable id hback
    rcases hback.seen with ⟨hin, hsaw⟩
    rcases (hstep.plugged id).mpr hin with ⟨dev, hdev, hid⟩
    have hbare := hstep.bare dev hdev id hid fun _ => hback
    have hunarmed := (harmable dev hdev id hid
      (not_configured_of_hasHistograms cfg.boundariesNs dev hbare)).1
    rw [(hstep.armed id).mpr hsaw] at hunarmed
    exact absurd hunarmed.symm Bool.false_ne_true
  · intro hnone dev hdev id hid hnot
    have hunseen : ¬ Seen events id := fun hsaw =>
      hnot (hstep.configured dev hdev id hid hsaw (hnone id))
    -- The scrape is going to enable it, which is what `Armable` asks for.
    have henabled := (hstep.mem_enabled_iff replies hok id).mpr
      ⟨(hstep.plugged id).mp ⟨dev, hdev, hid⟩, hunseen⟩
    exact (mem_enabled_iff cfg { replies with blockStats := .ok (s₀.run cfg events).disks } _ _ id
      hok).mp henabled

/-- A disk goes and another comes. -/
def swapped (dev : BlockDevice) : List SessionEvent :=
  [] ++ [.plug vdb 0] ++ [.scrape allAccepted] ++ [.unplug "ua-vdb"] ++ [.plug dev 0]

/-- A disk with another identifier. -/
def vdc : BlockDevice :=
  .mk "ua-vdc"
    { rdTotalTimeNs := 0, wrTotalTimeNs := 0, flushTotalTimeNs := 0, rdLatencyHistogram := none,
      wrLatencyHistogram := none, flushLatencyHistogram := none } none

/-- Under another identifier the new disk is configured, under the old one it is
    not. -/
theorem configured_iff_not_replugged_swapped :
    AllConfigured [1000, 2000] (newSession.run ⟨"node", [1000, 2000]⟩
      (swapped vdc ++ [.scrape allAccepted])).disks ∧
    ¬ AllConfigured [1000, 2000] (newSession.run ⟨"node", [1000, 2000]⟩
      (swapped vdb ++ [.scrape allAccepted])).disks := by
  have hvdb : deviceID vdb = some "ua-vdb" := by decide
  have hvdc : deviceID vdc = some "ua-vdc" := by decide
  have hplugged : ∀ P id, PluggedSince P ([] ++ [.plug vdb 0]) id ↔ "ua-vdb" = id ∧ P [] := by
    intro P id
    rw [pluggedSince_plug, hvdb, Option.some.injEq]
    exact or_iff_left (not_pluggedSince_nil P id)
  -- Before the second disk comes, the first one is gone.
  have hgone : ∀ P id, ¬ PluggedSince P
      ([] ++ [.plug vdb 0] ++ [.scrape allAccepted] ++ [.unplug "ua-vdb"]) id := by
    intro P id h
    rw [pluggedSince_unplug, pluggedSince_scrape] at h
    exact h.1 ((hplugged P id).mp h.2).1
  have hsaw : ∀ id, Seen ([] ++ [.plug vdb 0] ++ [.scrape allAccepted] ++ [.unplug "ua-vdb"]) id
      ↔ "ua-vdb" = id := by
    intro id
    have hfirst : ¬ Seen ([] ++ [.plug vdb 0]) id := by
      rw [seen_of_not_scrape _ _ _ (by simp only [ne_eq, reduceCtorEq, not_false_eq_true,
        implies_true])]
      exact not_seen_nil id
    rw [seen_of_not_scrape _ _ _ (by simp only [ne_eq, reduceCtorEq, not_false_eq_true,
      implies_true]), seen_concat, or_iff_right hfirst, and_iff_right ⟨allAccepted, rfl⟩]
    exact (hplugged _ id).trans (and_iff_left trivial)
  have hhist : ∀ dev, PlugHistory (swapped dev) := by
    intro dev
    refine .plug _ dev 0 (.unplug _ _ (.scrape _ _ (.plug [] vdb 0 .nil ?_) fun _ _ => rfl)) ?_
    · exact fun id _ => not_pluggedSince_nil _ id
    · exact fun id _ => hgone _ id
  have hnew : NewSession newSession := ⟨rfl, rfl, fun _ => rfl⟩
  -- The two histories differ in the identifier of the second disk.
  refine ⟨(configured_iff_not_replugged ⟨"node", [1000, 2000]⟩ newSession hnew (swapped vdc)
    (hhist vdc) allAccepted fun _ _ => rfl).mpr ?_, fun hall => ?_⟩
  · intro id hback
    rw [Replugged, swapped, pluggedSince_plug, hvdc, hsaw, Option.some.injEq] at hback
    rcases hback with ⟨rfl, hc⟩ | hback
    · exact absurd hc (by decide)
    · exact hgone _ id hback
  · refine (configured_iff_not_replugged ⟨"node", [1000, 2000]⟩ newSession hnew (swapped vdb)
      (hhist vdb) allAccepted fun _ _ => rfl).mp hall "ua-vdb" ?_
    rw [Replugged, swapped, pluggedSince_plug]
    exact Or.inl ⟨hvdb, (hsaw "ua-vdb").mpr rfl⟩

end Qmp

end LatencyExporter
