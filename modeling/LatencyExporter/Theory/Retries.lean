import LatencyExporter.Lib.Retry
import LatencyExporter.Theory.Exclusion

/-!
# When a Machine Is Given Up On

The guest agent collector counts the scrapes of a machine that fail. The count
is raised where the error is handled, cleared at the end of a scrape that
succeeds, and looked at by the next poll. Put together over a run of polls,
these three places are the counter of `Retry`, for as long as the machine keeps
its entry in the table (`retries_run`).

So a machine is given up on exactly when its guest refuses the command, or the
scrapes fail as often as configured with no success in between. Afterwards it is
not asked again, and its entry stays as it is.

## Main definitions

* `outcomeOf`: What a scrape ends in.
* `VmState.retries`: The counter of a machine.
* `scrapeOutcomes`: The scrapes of a machine in a run.

## Theorems

* `scrapeTask_retries`: One scrape.
* `poll_of_going`: One poll of a machine that has not been given up on.
* `retries_run`: A run of polls.
* `stopped_iff_givesUp`: When a machine is given up on.
-/

namespace LatencyExporter

namespace Qga

variable (filters : Poll.Filters) (cfg : CollectorConfig)

/-- What a scrape of an open connection ends in. -/
def outcomeOf (reply : GuestReply) : Retry.Outcome :=
  match reply.counters with
  | .ok _ => .success
  | .error .commandBlacklisted => .fatal
  | .error (.other _) => .failure

/-- The counter in the state of a machine. -/
def VmState.retries (vs : VmState) : Retry.State :=
  { count := vs.retryCount, stopped := vs.stopped }

/-- The outcomes of the scrapes of a container in a run of polls. -/
def scrapeOutcomes (id : String) : Collector → List World → List Retry.Outcome
  | _, [] => []
  | c, w :: ws =>
      (if id ∈ (poll filters cfg c w).guestExecs then [outcomeOf (w.replies id)] else [])
        ++ scrapeOutcomes id (poll filters cfg c w) ws

theorem scrapeTask_retries (vs : VmState) (reply : GuestReply) (hopen : vs.closed = false)
    (hgoing : vs.stopped = false) :
    (scrapeTask cfg vs reply).vm.retries
      = Retry.step cfg.maxRetries vs.retries (outcomeOf reply) := by
  simp only [scrapeTask, scrapeVM, hopen, Bool.false_eq_true, if_false, outcomeOf]
  cases reply.counters with
  | ok counters => simp only [VmState.retries, hgoing, Retry.step]
  | error err =>
      -- A refused command stops at once; any other error is counted against the limit.
      cases err with
      | commandBlacklisted => rfl
      | other msg =>
          simp only [handleScrapeError, VmState.retries, Retry.step]
          split
          · next hlimit => simp only [hlimit, decide_true]
          · next hlimit => simp only [hlimit, hgoing, decide_false]

theorem scrapeOutcomes_concat (id : String) (c : Collector) (ws : List World) (w : World) :
    scrapeOutcomes filters cfg id c (ws ++ [w])
      = scrapeOutcomes filters cfg id c ws
        ++ if id ∈ (poll filters cfg (ws.foldl (poll filters cfg) c) w).guestExecs
            then [outcomeOf (w.replies id)] else [] := by
  induction ws generalizing c with
  | nil => exact List.append_nil _
  | cons w' ws ih =>
      rw [List.cons_append, scrapeOutcomes, scrapeOutcomes, ih, List.foldl_cons, List.append_assoc]

variable (c : Collector) (w : World) {id : String}

theorem scrapeOutcome_drop (vs : VmState) : (scrapeOutcome cfg w id vs).drop = false := by
  simp only [scrapeOutcome]
  split <;> rfl

/-- An entry of a container that is reported is there when the scrapes start. -/
theorem mem_refreshTable_of_reports {conn : Poll.Conn VmState} (hmem : (id, conn) ∈ c.vms)
    (hreports : Reports filters w id) :
    (id, conn) ∈ (Poll.refreshTable pollOps filters (w.env cfg) c.vms c.handles).1 :=
  Poll.mem_refreshTable_of_mem filters hmem ((Poll.mem_activeIDs filters).mpr hreports)

/-- A machine that has an entry when the scrapes start, and has not been given
    up on, is scraped and keeps the entry. -/
theorem poll_of_going {conn : Poll.Conn VmState}
    (hmem : (id, conn) ∈ (Poll.refreshTable pollOps filters (w.env cfg) c.vms c.handles).1)
    (hopen : conn.state.closed = false) (hgoing : conn.state.stopped = false) :
    id ∈ (poll filters cfg c w).guestExecs ∧ ∃ conn', (id, conn') ∈ (poll filters cfg c w).vms ∧
      conn'.state = (scrapeTask cfg conn.state (w.replies id)).vm := by
  refine ⟨(mem_guestExecs_iff filters cfg c w).mpr ⟨conn, hmem, hgoing, hopen⟩, ?_⟩
  have hskip : pollOps.skip conn.state = false := by
    simp only [pollOps, hgoing, hopen, Bool.or_self]
  refine ⟨{ conn with state := (scrapeOutcome cfg w id conn.state).state },
    (Poll.mem_poll filters).mpr ⟨_, hmem, ?_⟩, scrapeOutcome_state cfg w id conn.state⟩
  simp only [Poll.survivor, hskip, World.env, scrapeOutcome_drop, Bool.false_eq_true, if_false]

/-- The poll that makes the entry of a machine also scrapes it. -/
theorem poll_of_readmits (habsent : id ∉ Poll.keys c.vms) (hreadmits : Readmits filters w id) :
    id ∈ (poll filters cfg c w).guestExecs ∧ ∃ conn, (id, conn) ∈ (poll filters cfg c w).vms ∧
      conn.state.closed = false ∧
      conn.state.retries = Retry.step cfg.maxRetries .start (outcomeOf (w.replies id)) := by
  have hexec := mem_guestExecs_of_readmits filters cfg c w habsent hreadmits
  refine ⟨hexec, ?_⟩
  rcases (mem_guestExecs_iff filters cfg c w).mp hexec with ⟨conn, hmem, hgoing, hopen⟩
  -- The entry is not an old one, so its counter is at the start.
  have hstart : conn.state.retries = .start := by
    rcases Poll.mem_refreshTable filters hmem with ⟨hold, _⟩ | ⟨_, pod, hadmits⟩
    · exact absurd (Poll.mem_keys_of_mem hold) habsent
    · rcases (admits_iff filters cfg w _ pod).mp hadmits with ⟨_, _, _, _, _, hfresh⟩
      rw [hfresh]
      rfl
  rcases poll_of_going filters cfg c w hmem hopen hgoing with ⟨_, conn', hmem', hstate⟩
  refine ⟨conn', hmem', ?_, ?_⟩
  · rw [hstate, (scrapeTask_frame cfg _ _).2.2, hopen]
  · rw [hstate, scrapeTask_retries cfg _ _ hopen hgoing, hstart]

/-- From the poll that makes its entry on, and for as long as the entry stays,
    the counter of a machine is that of its scrapes. -/
theorem retries_run (hmap : (Poll.keys c.vms).Nodup) (habsent : id ∉ Poll.keys c.vms)
    (hreadmits : Readmits filters w id) (ws : List World)
    (hstays : ∀ w' ∈ ws, Reports filters w' id) :
    let c' := (w :: ws).foldl (poll filters cfg) c
    (Poll.keys c'.vms).Nodup ∧ ∃ conn, (id, conn) ∈ c'.vms ∧ conn.state.closed = false ∧
      conn.state.retries
        = Retry.run cfg.maxRetries (scrapeOutcomes filters cfg id c (w :: ws)) := by
  -- By the last poll, since the counter after it depends on the counter before it.
  induction ws using List.reverseRecOn with
  | nil =>
      rcases poll_of_readmits filters cfg c w habsent hreadmits
        with ⟨hexec, conn, hmem, hopen, hretries⟩
      refine ⟨Poll.poll_keys_nodup filters hmap, conn, hmem, hopen, ?_⟩
      rw [hretries, scrapeOutcomes, if_pos hexec]
      rfl
  | append_singleton ws w' ih =>
      rcases ih fun w'' hw'' => hstays w'' (List.mem_append_left _ hw'')
        with ⟨hmap', conn, hmem, hopen, hretries⟩
      have hreports : Reports filters w' id :=
        hstays w' (List.mem_append_right _ List.mem_cons_self)
      rw [← List.cons_append, List.foldl_concat, scrapeOutcomes_concat]
      generalize (w :: ws).foldl (poll filters cfg) c = c' at hmap' hmem ⊢
      refine ⟨Poll.poll_keys_nodup filters hmap', ?_⟩
      by_cases hstopped : conn.state.stopped = true
      · -- The poll passes over the machine.
        rcases stopped_of_reports filters cfg c' w' hmap' hmem hstopped hreports
          with ⟨hnone, hmem'⟩
        rw [if_neg hnone, List.append_nil]
        exact ⟨conn, hmem', hopen, hretries⟩
      · have hgoing : conn.state.stopped = false := Bool.eq_false_iff.mpr hstopped
        rcases poll_of_going filters cfg c' w'
          (mem_refreshTable_of_reports filters cfg c' w' hmem hreports) hopen hgoing
          with ⟨hexec, conn', hmem', hstate⟩
        -- The machine is still going, so its scrape counts.
        have hrun : (Retry.run cfg.maxRetries (scrapeOutcomes filters cfg id c (w :: ws))).stopped
            = false := by
          rw [← hretries]
          exact hgoing
        refine ⟨conn', hmem', ?_, ?_⟩
        · rw [hstate, (scrapeTask_frame cfg _ _).2.2, hopen]
        · rw [if_pos hexec, Retry.run_concat, hrun, if_neg Bool.false_ne_true, ← hretries, hstate,
            scrapeTask_retries cfg _ _ hopen hgoing]

/-- From the poll that makes its entry on, and for as long as the entry stays, a
    machine is stopped exactly if one of its scrapes was refused or enough of
    them failed with no success in between. Until then its count is the number
    of failures since the last success and every poll scrapes it; afterwards no
    poll does, and the entry does not change. -/
theorem stopped_iff_givesUp (hmap : (Poll.keys c.vms).Nodup) (habsent : id ∉ Poll.keys c.vms)
    (hreadmits : Readmits filters w id) (ws : List World)
    (hstays : ∀ w' ∈ ws, Reports filters w' id) :
    let c' := (w :: ws).foldl (poll filters cfg) c
    let outcomes := scrapeOutcomes filters cfg id c (w :: ws)
    ∃ conn, (id, conn) ∈ c'.vms ∧
      (conn.state.stopped = true ↔ Retry.GivesUp cfg.maxRetries outcomes) ∧
      (conn.state.stopped = false → conn.state.retryCount = (Retry.sinceSuccess outcomes : Int)) ∧
      ∀ w', Reports filters w' id →
        (conn.state.stopped = false → id ∈ (poll filters cfg c' w').guestExecs) ∧
        (conn.state.stopped = true → id ∉ (poll filters cfg c' w').guestExecs ∧
          (id, conn) ∈ (poll filters cfg c' w').vms) := by
  dsimp only
  rcases retries_run filters cfg c w hmap habsent hreadmits ws hstays
    with ⟨hmap', conn, hmem, hopen, hretries⟩
  have hspec := Retry.run_spec cfg.maxRetries (scrapeOutcomes filters cfg id c (w :: ws))
  rw [← hretries] at hspec
  refine ⟨conn, hmem, hspec.1, hspec.2, fun w' hreports => ⟨fun hgoing => ?_, fun hstopped => ?_⟩⟩
  · exact (poll_of_going filters cfg _ w'
      (mem_refreshTable_of_reports filters cfg _ w' hmem hreports) hopen hgoing).1
  · exact stopped_of_reports filters cfg _ w' hmap' hmem hstopped hreports

/-- A guest whose agent does not answer. -/
def timingOut : World :=
  { found with
    replies := fun _ =>
      { counters := .error (.other "deadline exceeded"), order := [], order_nodup := List.nodup_nil,
        mem_order := fun _ hcs => absurd hcs (by simp only [reduceCtorEq, not_false_eq_true]),
        dynClient := none } }

theorem stopped_after_two_timeouts :
    ∃ conn, ("c1", conn) ∈ ([timingOut, timingOut].foldl
      (poll Poll.noFilters { nodeName := "node", maxRetries := 2 }) .new).vms ∧
      conn.state.stopped = true := by
  have hpod : { ns := "ns", podName := "pod", vmiName := "vm" }
      ∈ Poll.selectPods Poll.noFilters timingOut.podStore := by
    rw [timingOut, found, refusingWorld, Poll.selectPods_onePodStore, List.mem_singleton]
  have hreports : ∀ w ∈ [timingOut], Reports Poll.noFilters w "c1" := by
    intro w hw
    rw [List.mem_singleton.mp hw]
    exact ⟨_, hpod, _, rfl, rfl⟩
  rcases stopped_iff_givesUp Poll.noFilters { nodeName := "node", maxRetries := 2 } .new timingOut
    List.nodup_nil List.not_mem_nil ⟨_, hpod, ⟨_, rfl, rfl⟩, _, rfl, rfl, rfl⟩ [timingOut] hreports
    with ⟨conn, hmem, hstopped, _⟩
  refine ⟨conn, hmem, hstopped.mpr (.inr ⟨[.failure, .failure], ?_, by decide, by decide⟩)⟩
  have hscrapes : scrapeOutcomes Poll.noFilters { nodeName := "node", maxRetries := 2 } "c1" .new
      [timingOut, timingOut] = [.failure, .failure] := by decide +kernel
  rw [hscrapes]

end Qga

end LatencyExporter
