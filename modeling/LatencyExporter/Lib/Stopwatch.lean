import Mathlib.Data.Finmap
import Mathlib.Data.List.Basic

/-!
# Keyed Stopwatches

Measuring how long requests take with a table of start values and a tally of
labels. When a request starts, a value is stored under the request's key; when
it stops, the value is looked up and removed, and whatever label it gives is
counted. Keys are all the table knows about a request, so two requests with
one key are the same to it.

A `Tracer` says which key a request has, whether its start is stored at all,
what is stored, and which label a stop reads off the stored value. A stop may
give no label; the entry is removed all the same.

`WellFormed` is the discipline under which keys are enough: a request starts
once, stops at most once and after its start, and while it is in flight no
other request with its key is. Keys may be used again once the first request
has stopped. `run_exact` is the result: in such a trace the tally counts
exactly the stopped requests under their own labels, and the table holds
exactly the requests in flight.

## Main definitions

* `Event`: A request starts or stops.
* `Tracer`: How requests are keyed, stored and labelled.
* `Table`: The pending start values and the tally.
* `Tracer.act`, `Tracer.run`: One event, and a trace of them.
* `InFlight`: Started and not stopped.
* `WellFormed`: The discipline on traces.
* `startTime`: When a request started.
* `finished`: The stopped requests with both their times.

## Theorems

* `inFlight_start`, `inFlight_stop`: What an event does to the requests in
  flight.
* `WellFormed.of_key`: Keys that tell the same requests apart.
* `WellFormed.key_inj`: Requests in flight have different keys.
* `WellFormed.startTime_of_mem`: The start time of a started request.
* `finished_start`, `finished_stop`: What an event does to the stopped ones.
* `WellFormed.finished_le`: In an ordered trace a request stops no earlier
  than it starts.
* `holds_start`, `holds_stop`, `counts_stop`: One event of a well-formed
  trace.
* `run_exact`: The tally and the table after a well-formed trace.
-/

namespace Stopwatch

variable {R K V L T : Type}

/-- A request starts or stops at a time. -/
inductive Event (R T : Type) where
  | start (r : R) (t : T)
  | stop (r : R) (t : T)

/-- The time of an event. -/
def Event.time : Event R T → T
  | .start _ t => t
  | .stop _ t => t

/-- How requests are keyed, stored and labelled. -/
structure Tracer (R K V L T : Type) where
  key : R → K
  tracked : R → Bool
  store : R → T → V
  read : R → T → V → Option L

/-- The values of the requests in flight, by key, and the labels counted. -/
structure Table (K V L : Type) where
  pending : Finmap (fun _ : K => V)
  tally : L → Nat

/-- Nothing in flight and nothing counted. -/
def Table.empty : Table K V L := { pending := ∅, tally := fun _ => 0 }

section Run

variable [DecidableEq K] [DecidableEq L]

/-- Count a label, if there is one. -/
def bump (tally : L → Nat) (label : Option L) : L → Nat :=
  fun l => tally l + if label = some l then 1 else 0

/-- One event. -/
def Tracer.act (w : Tracer R K V L T) (s : Table K V L) : Event R T → Table K V L
  | .start r t =>
      if w.tracked r then { s with pending := s.pending.insert (w.key r) (w.store r t) } else s
  | .stop r t => match s.pending.lookup (w.key r) with
      | none => s
      | some v => { pending := s.pending.erase (w.key r), tally := bump s.tally (w.read r t v) }

/-- A trace of events. -/
def Tracer.run (w : Tracer R K V L T) (s : Table K V L) (tr : List (Event R T)) : Table K V L :=
  tr.foldl w.act s

theorem run_concat (w : Tracer R K V L T) (s : Table K V L) (tr : List (Event R T))
    (e : Event R T) : w.run s (tr ++ [e]) = w.act (w.run s tr) e := List.foldl_concat ..

end Run

/-- The request has started and has not stopped. -/
def InFlight (tr : List (Event R T)) (r : R) : Prop :=
  (∃ t, Event.start r t ∈ tr) ∧ ∀ t, Event.stop r t ∉ tr

/-- Every request starts once, stops at most once and only when in flight, and
    shares its key with no other request in flight. -/
inductive WellFormed (key : R → K) : List (Event R T) → Prop where
  | nil : WellFormed key []
  | start (tr : List (Event R T)) (r : R) (t : T) : WellFormed key tr →
      (∀ t', Event.start r t' ∉ tr) → (∀ r', InFlight tr r' → key r' ≠ key r) →
      WellFormed key (tr ++ [.start r t])
  | stop (tr : List (Event R T)) (r : R) (t : T) : WellFormed key tr → InFlight tr r →
      WellFormed key (tr ++ [.stop r t])

/-- Well-formedness depends only on which requests have one key. -/
theorem WellFormed.of_key {K' : Type} (key : R → K) (key' : R → K') (tr : List (Event R T))
    (hkey : ∀ r r', key' r = key' r' → key r = key r') (h : WellFormed key tr) :
    WellFormed key' tr := by
  induction h with
  | nil => exact .nil
  | start tr r t _ hnew hdiff ih =>
      exact .start tr r t ih hnew fun r' hr' hc => hdiff r' hr' (hkey r' r hc)
  | stop tr r t _ hin ih => exact .stop tr r t ih hin

/-- A request that was never started was never stopped either. -/
theorem WellFormed.stop_started (key : R → K) (tr : List (Event R T)) (h : WellFormed key tr) :
    ∀ r t, Event.stop r t ∈ tr → ∃ t', Event.start r t' ∈ tr := by
  induction h with
  | nil => exact fun r t hm => absurd hm List.not_mem_nil
  | start tr r t _ _ _ ih =>
      intro r' t' hm
      rcases List.mem_append.mp hm with hm | hm
      · rcases ih r' t' hm with ⟨t'', h⟩
        exact ⟨t'', List.mem_append_left _ h⟩
      · exact absurd (List.mem_singleton.mp hm) (by simp only [reduceCtorEq, not_false_eq_true])
  | stop tr r t _ hin ih =>
      intro r' t' hm
      rcases List.mem_append.mp hm with hm | hm
      · rcases ih r' t' hm with ⟨t'', h⟩
        exact ⟨t'', List.mem_append_left _ h⟩
      · rw [List.mem_singleton, Event.stop.injEq] at hm
        -- The request that stops is in flight.
        rcases hin.1 with ⟨t'', h⟩
        rw [hm.1]
        exact ⟨t'', List.mem_append_left _ h⟩

theorem inFlight_start (tr : List (Event R T)) (r r' : R) (t : T)
    (hnew : ∀ t', Event.stop r t' ∉ tr) :
    InFlight (tr ++ [.start r t]) r' ↔ r' = r ∨ InFlight tr r' := by
  unfold InFlight
  simp only [List.mem_append, List.mem_singleton, Event.start.injEq, reduceCtorEq, or_false]
  constructor
  · rintro ⟨⟨t', h | ⟨rfl, _⟩⟩, hstop⟩
    · exact Or.inr ⟨⟨t', h⟩, hstop⟩
    · exact Or.inl rfl
  · rintro (rfl | ⟨⟨t', h⟩, hstop⟩)
    · exact ⟨⟨t, Or.inr ⟨rfl, rfl⟩⟩, hnew⟩
    · exact ⟨⟨t', Or.inl h⟩, hstop⟩

theorem inFlight_stop (tr : List (Event R T)) (r r' : R) (t : T) :
    InFlight (tr ++ [.stop r t]) r' ↔ r' ≠ r ∧ InFlight tr r' := by
  unfold InFlight
  simp only [List.mem_append, List.mem_singleton, Event.stop.injEq, reduceCtorEq, or_false,
    not_or, not_and]
  constructor
  · rintro ⟨hstart, hstop⟩
    exact ⟨fun hr => (hstop t).2 hr rfl, hstart, fun t' => (hstop t').1⟩
  · rintro ⟨hr, hstart, hstop⟩
    exact ⟨hstart, fun t' => ⟨hstop t', fun h => absurd h hr⟩⟩

/-- Requests in flight at the same time have different keys. -/
theorem WellFormed.key_inj (key : R → K) (tr : List (Event R T)) (h : WellFormed key tr) :
    ∀ r r', InFlight tr r → InFlight tr r' → key r = key r' → r = r' := by
  induction h with
  | nil => exact fun r _ hr => absurd hr.1.choose_spec List.not_mem_nil
  | start tr r t hwf hnew hkey ih =>
      have hns : ∀ t', Event.stop r t' ∉ tr := fun t' hm =>
        absurd (hwf.stop_started key tr r t' hm).choose_spec (hnew _)
      intro a b ha hb hab
      rw [inFlight_start tr r _ t hns] at ha hb
      -- Only a pair with the new request is not covered by the hypothesis, and
      -- no key in flight is the new one.
      rcases ha with rfl | ha <;> rcases hb with rfl | hb
      · rfl
      · exact absurd hab.symm (hkey b hb)
      · exact absurd hab (hkey a ha)
      · exact ih a b ha hb hab
  | stop tr r t _ _ ih =>
      intro a b ha hb hab
      rw [inFlight_stop] at ha hb
      exact ih a b ha.2 hb.2 hab

section Times

variable [DecidableEq R]

/-- The start time an event gives a request. -/
def startOf (r : R) : Event R T → Option T
  | .start r' t => if r' = r then some t else none
  | .stop _ _ => none

/-- When a request started. -/
def startTime (tr : List (Event R T)) (r : R) : Option T := tr.findSome? (startOf r)

/-- The stopped request of an event with its start and stop times. -/
def finishOf (tr : List (Event R T)) : Event R T → Option (R × T × T)
  | .start _ _ => none
  | .stop r t₁ => (startTime tr r).map fun t₀ => (r, t₀, t₁)

/-- The stopped requests, each with its start and stop times. -/
def finished (tr : List (Event R T)) : List (R × T × T) := tr.filterMap (finishOf tr)

theorem startTime_eq_none (tr : List (Event R T)) (r : R) (h : ∀ t, Event.start r t ∉ tr) :
    startTime tr r = none := by
  refine List.findSome?_eq_none_iff.mpr fun e he => ?_
  cases e with
  | start r' t =>
      have hr : r' ≠ r := by
        rintro rfl
        exact h t he
      simp only [startOf, if_neg hr]
  | stop r' t => rfl

/-- The start time of a started request. A request starts once, so any start
    event of it is the one that counts. -/
theorem WellFormed.startTime_of_mem (key : R → K) (tr : List (Event R T))
    (h : WellFormed key tr) : ∀ r t, Event.start r t ∈ tr → startTime tr r = some t := by
  induction h with
  | nil => exact fun r t hm => absurd hm List.not_mem_nil
  | start tr r t _ hnew _ ih =>
      intro r' t' hm
      rw [startTime, List.findSome?_append]
      rcases List.mem_append.mp hm with hm | hm
      · rw [← startTime, ih r' t' hm]
        rfl
      · -- The first search finds nothing, since the request is new.
        rw [List.mem_singleton, Event.start.injEq] at hm
        rw [← startTime, hm.1, hm.2, startTime_eq_none tr r hnew]
        simp only [List.findSome?_cons, startOf, if_true, Option.none_or]
  | stop tr r t _ _ ih =>
      intro r' t' hm
      rw [startTime, List.findSome?_append]
      rcases List.mem_append.mp hm with hm | hm
      · rw [← startTime, ih r' t' hm]
        rfl
      · exact absurd (List.mem_singleton.mp hm) (by simp only [reduceCtorEq, not_false_eq_true])

/-- A later event does not move the start of a request that has started. -/
theorem startTime_concat (tr : List (Event R T)) (e : Event R T) (r : R) (t : T)
    (h : startTime tr r = some t) : startTime (tr ++ [e]) r = some t := by
  rw [startTime, List.findSome?_append, ← startTime, h]
  rfl

/-- Looking up start times in a longer trace leaves the stopped requests of a
    well-formed trace as they were. -/
theorem WellFormed.filterMap_finishOf (key : R → K) (tr : List (Event R T))
    (h : WellFormed key tr) (e : Event R T) :
    tr.filterMap (finishOf (tr ++ [e])) = finished tr := by
  refine List.filterMap_congr fun e' he' => ?_
  cases e' with
  | start r t => rfl
  | stop r t =>
      -- What stops has started before, and that start is found first in both traces.
      rcases h.stop_started key tr r t he' with ⟨t', hs⟩
      have hst := h.startTime_of_mem key tr r t' hs
      simp only [finishOf, hst, startTime_concat tr e r t' hst]

theorem finished_start (key : R → K) (tr : List (Event R T)) (h : WellFormed key tr) (r : R)
    (t : T) : finished (tr ++ [.start r t]) = finished tr := by
  rw [finished, List.filterMap_append, h.filterMap_finishOf key tr]
  simp only [List.filterMap_cons, finishOf, List.filterMap_nil, List.append_nil]

theorem finished_stop (key : R → K) (tr : List (Event R T)) (h : WellFormed key tr) (r : R)
    (t₀ t₁ : T) (hs : startTime tr r = some t₀) :
    finished (tr ++ [.stop r t₁]) = finished tr ++ [(r, t₀, t₁)] := by
  rw [finished, List.filterMap_append, h.filterMap_finishOf key tr]
  simp only [List.filterMap_cons, finishOf, startTime_concat tr _ r t₀ hs, Option.map_some,
    List.filterMap_nil]

/-- In a trace whose times never step back, a request stops no earlier than it
    starts. -/
theorem WellFormed.finished_le (key : R → K) (le : T → T → Prop) (tr : List (Event R T))
    (h : WellFormed key tr) (hle : tr.Pairwise fun e e' => le e.time e'.time) :
    ∀ x ∈ finished tr, le x.2.1 x.2.2 := by
  induction h with
  | nil => exact fun x hx => absurd hx List.not_mem_nil
  | start tr r t hwf _ _ ih =>
      rw [finished_start key tr hwf]
      exact ih (List.pairwise_append.mp hle).1
  | stop tr r t hwf hin ih =>
      rcases hin.1 with ⟨t₀, hs⟩
      rw [finished_stop key tr hwf r t₀ t (hwf.startTime_of_mem key tr r t₀ hs)]
      rw [List.pairwise_append] at hle
      intro x hx
      rcases List.mem_append.mp hx with hx | hx
      · exact ih hle.1 x hx
      · -- The start event stands before the stop event just appended.
        rw [List.mem_singleton.mp hx]
        exact hle.2.2 _ hs _ List.mem_cons_self

/-- An event does not move the start of a request in flight. -/
theorem WellFormed.startTime_inFlight (key : R → K) (tr : List (Event R T))
    (h : WellFormed key tr) (e : Event R T) (r : R) (hr : InFlight tr r) :
    startTime (tr ++ [e]) r = startTime tr r := by
  rcases hr.1 with ⟨t, ht⟩
  have hst := h.startTime_of_mem key tr r t ht
  rw [hst, startTime_concat tr e r t hst]

end Times

section Exact

variable [DecidableEq R] [DecidableEq K] [DecidableEq L]

/-- The table holds the tracked requests in flight, each under its key. -/
def Holds (w : Tracer R K V L T) (tr : List (Event R T)) (s : Table K V L) : Prop :=
  ∀ k v, s.pending.lookup k = some v ↔
    ∃ r t, InFlight tr r ∧ w.tracked r = true ∧ w.key r = k ∧ startTime tr r = some t ∧
      v = w.store r t

/-- The tally counts every stopped request that was tracked, under the label
    its own start and stop give. -/
def Counts (w : Tracer R K V L T) (tr : List (Event R T)) (s : Table K V L) : Prop :=
  ∀ l, s.tally l = (finished tr).countP fun x =>
    w.tracked x.1 && decide (w.read x.1 x.2.2 (w.store x.1 x.2.1) = some l)

theorem holds_start (w : Tracer R K V L T) (tr : List (Event R T)) (s : Table K V L) (r : R)
    (t : T) (hwf : WellFormed w.key tr) (hnew : ∀ t', Event.start r t' ∉ tr)
    (hkey : ∀ r', InFlight tr r' → w.key r' ≠ w.key r) (hs : Holds w tr s) :
    Holds w (tr ++ [.start r t]) (w.act s (.start r t)) := by
  have hns : ∀ t', Event.stop r t' ∉ tr := fun t' hm =>
    absurd (hwf.stop_started w.key tr r t' hm).choose_spec (hnew _)
  have hst : startTime (tr ++ [.start r t]) r = some t :=
    (WellFormed.start tr r t hwf hnew hkey).startTime_of_mem w.key _ r t
      (List.mem_append_right _ List.mem_cons_self)
  have hold := hwf.startTime_inFlight w.key tr (.start r t)
  intro k v
  simp only [inFlight_start tr r _ t hns]
  by_cases htr : w.tracked r
  · simp only [Tracer.act, if_pos htr]
    by_cases hk : k = w.key r
    · -- The new request is the only one in flight under its key.
      rw [hk, Finmap.lookup_insert, Option.some.injEq]
      constructor
      · rintro rfl
        exact ⟨r, t, Or.inl rfl, htr, rfl, hst, rfl⟩
      · rintro ⟨r', t', rfl | hin, _, hk', hst', hv⟩
        · rw [hst, Option.some.injEq] at hst'
          rw [hv, hst']
        · exact absurd hk' (hkey r' hin)
    · rw [Finmap.lookup_insert_of_ne _ hk, hs k v]
      constructor
      · rintro ⟨r', t', hin, htr', hk', hst', hv⟩
        exact ⟨r', t', Or.inr hin, htr', hk', by rw [hold r' hin, hst'], hv⟩
      · rintro ⟨r', t', rfl | hin, htr', hk', hst', hv⟩
        · exact absurd hk'.symm hk
        · exact ⟨r', t', hin, htr', hk', by rw [← hold r' hin, hst'], hv⟩
  · -- A request that is not tracked is in flight, and the table has no entry for it.
    simp only [Tracer.act, if_neg htr]
    rw [hs k v]
    constructor
    · rintro ⟨r', t', hin, htr', hk', hst', hv⟩
      exact ⟨r', t', Or.inr hin, htr', hk', by rw [hold r' hin, hst'], hv⟩
    · rintro ⟨r', t', rfl | hin, htr', hk', hst', hv⟩
      · exact absurd htr' htr
      · exact ⟨r', t', hin, htr', hk', by rw [← hold r' hin, hst'], hv⟩

omit [DecidableEq L] in
/-- What the table holds for a request in flight: its own value when it is
    tracked, and nothing when it is not. -/
theorem lookup_inFlight (w : Tracer R K V L T) (tr : List (Event R T)) (s : Table K V L) (r : R)
    (t₀ : T) (hwf : WellFormed w.key tr) (hin : InFlight tr r)
    (hst : startTime tr r = some t₀) (hs : Holds w tr s) :
    s.pending.lookup (w.key r) = if w.tracked r then some (w.store r t₀) else none := by
  by_cases htr : w.tracked r
  · rw [if_pos htr]
    exact (hs _ _).mpr ⟨r, t₀, hin, htr, rfl, hst, rfl⟩
  · rw [if_neg htr]
    -- An entry under this key would be that of another request in flight.
    refine Option.eq_none_iff_forall_ne_some.mpr fun v hv => ?_
    rcases (hs _ v).mp hv with ⟨r', t', hin', htr', hk', _⟩
    rw [hwf.key_inj w.key tr r' r hin' hin hk'] at htr'
    exact htr htr'

theorem holds_stop (w : Tracer R K V L T) (tr : List (Event R T)) (s : Table K V L) (r : R)
    (t₀ t : T) (hwf : WellFormed w.key tr) (hin : InFlight tr r)
    (hst : startTime tr r = some t₀) (hs : Holds w tr s) :
    Holds w (tr ++ [.stop r t]) (w.act s (.stop r t)) := by
  have hold := hwf.startTime_inFlight w.key tr (.stop r t)
  have hlook := lookup_inFlight w tr s r t₀ hwf hin hst hs
  have hinj := hwf.key_inj w.key tr
  intro k v
  simp only [inFlight_stop]
  -- Requests other than the stopped one are where they were.
  have hrest : (∃ r' t', (r' ≠ r ∧ InFlight tr r') ∧ w.tracked r' = true ∧ w.key r' = k ∧
      startTime (tr ++ [.stop r t]) r' = some t' ∧ v = w.store r' t') ↔
      ∃ r' t', r' ≠ r ∧ InFlight tr r' ∧ w.tracked r' = true ∧ w.key r' = k ∧
        startTime tr r' = some t' ∧ v = w.store r' t' := by
    constructor
    · rintro ⟨r', t', ⟨hne, hin'⟩, htr', hk', hst', hv⟩
      exact ⟨r', t', hne, hin', htr', hk', by rw [← hold r' hin', hst'], hv⟩
    · rintro ⟨r', t', hne, hin', htr', hk', hst', hv⟩
      exact ⟨r', t', ⟨hne, hin'⟩, htr', hk', by rw [hold r' hin', hst'], hv⟩
  rw [hrest]
  by_cases htr : w.tracked r
  · rw [if_pos htr] at hlook
    simp only [Tracer.act, hlook]
    by_cases hk : k = w.key r
    · -- No other request in flight has the key that was erased.
      rw [hk, Finmap.lookup_erase]
      refine iff_of_false (by simp only [reduceCtorEq, not_false_eq_true]) ?_
      rintro ⟨r', t', hne, hin', _, hk', _⟩
      exact hne (hinj r' r hin' hin hk')
    · rw [Finmap.lookup_erase_ne hk, hs k v]
      constructor
      · rintro ⟨r', t', hin', htr', hk', hrest'⟩
        refine ⟨r', t', ?_, hin', htr', hk', hrest'⟩
        rintro rfl
        exact hk hk'.symm
      · rintro ⟨r', t', _, hin', hrest'⟩
        exact ⟨r', t', hin', hrest'⟩
  · rw [if_neg htr] at hlook
    simp only [Tracer.act, hlook]
    rw [hs k v]
    constructor
    · rintro ⟨r', t', hin', htr', hrest'⟩
      refine ⟨r', t', ?_, hin', htr', hrest'⟩
      rintro rfl
      exact htr htr'
    · rintro ⟨r', t', _, hin', hrest'⟩
      exact ⟨r', t', hin', hrest'⟩

theorem counts_stop (w : Tracer R K V L T) (tr : List (Event R T)) (s : Table K V L) (r : R)
    (t₀ t : T) (hwf : WellFormed w.key tr) (hin : InFlight tr r)
    (hst : startTime tr r = some t₀) (hs : Holds w tr s) (hc : Counts w tr s) :
    Counts w (tr ++ [.stop r t]) (w.act s (.stop r t)) := by
  have hlook := lookup_inFlight w tr s r t₀ hwf hin hst hs
  intro l
  rw [finished_stop w.key tr hwf r t₀ t hst, List.countP_append, List.countP_singleton, ← hc l]
  by_cases htr : w.tracked r
  · rw [if_pos htr] at hlook
    simp only [Tracer.act, hlook, bump, htr, Bool.true_and, decide_eq_true_eq]
  · rw [if_neg htr] at hlook
    simp only [Tracer.act, hlook, htr, Bool.false_and, Bool.false_eq_true, if_false, Nat.add_zero]

/-- After a well-formed trace the table holds exactly the tracked requests in
    flight, and the tally counts exactly the stopped ones. -/
theorem run_exact (w : Tracer R K V L T) (tr : List (Event R T)) (h : WellFormed w.key tr) :
    Holds w tr (w.run Table.empty tr) ∧ Counts w tr (w.run Table.empty tr) := by
  -- Both invariants at once: a stop counts what the table holds.
  induction h with
  | nil =>
      refine ⟨fun k v => iff_of_false ?_ ?_, fun l => rfl⟩
      · simp only [Tracer.run, List.foldl_nil, Table.empty, Finmap.lookup_empty, reduceCtorEq,
          not_false_eq_true]
      · rintro ⟨r, _, hin, _⟩
        exact absurd hin.1.choose_spec List.not_mem_nil
  | start tr r t hwf hnew hkey ih =>
      -- A start finishes no request and counts none.
      rw [run_concat]
      refine ⟨holds_start w tr _ r t hwf hnew hkey ih.1, fun l => ?_⟩
      rw [finished_start w.key tr hwf, ← ih.2 l]
      simp only [Tracer.act]
      split <;> rfl
  | stop tr r t hwf hin ih =>
      rcases hin.1 with ⟨t₀, hs⟩
      have hst := hwf.startTime_of_mem w.key tr r t₀ hs
      rw [run_concat]
      exact ⟨holds_stop w tr _ r t₀ t hwf hin hst ih.1,
        counts_stop w tr _ r t₀ t hwf hin hst ih.1 ih.2⟩

end Exact

end Stopwatch
