import LatencyExporter.Lib.Simulation
import LatencyExporter.Theory.Goroutines
import LatencyExporter.Theory.Lifecycle
import LatencyExporter.Theory.PollErrors
import LatencyExporter.Theory.Retries

/-!
# Histories of Polls with Goroutines

Polls of a collector one after the other, each with goroutines that are
interleaved in some way of their own. Each history is one of the polls of
`Core.Poll`, in which the scrapes come one after the other; the worlds are the
same but for the order of the scrapes (`Reordered`), and so is the collector but
for the order of its table (`Same`).

Since the handles are part of what is the same, no connection is closed twice or
left open in any history either.

## Main definitions

* `Qmp.Same`, `Qga.Same`: Collectors up to the order of the table.
* `Qmp.Reordered`, `Qga.Reordered`: Worlds up to the order of the scrapes.

## Theorems

* `Qmp.goroutine_agrees`, `Qga.goroutine_agrees`: A goroutine is a round of the
  loop.
* `Qmp.poll_simulates`, `Qga.poll_simulates`: One poll.
* `Qmp.history_reordered`, `Qga.history_in_some_order`: Whole histories.
* `Qmp.exists_history`, `Qga.exists_history`: No history gets stuck.
* `Qmp.tableOk_of_history`, `Qga.tableOk_of_history`: The invariant of the table.
* `goroutines_close_once`: The handles of a history.
-/

namespace LatencyExporter

namespace Qmp

open Poll

/-- A goroutine that fails closes its connection as the round does, and deletes
    its own entry. -/
theorem goroutine_agrees (cfg : PollerConfig) (w : World) :
    Agrees pollOps (scrapeOutcome cfg w) (goroutine cfg w) := by
  intro id conn sh
  simp only [Goroutine.serve, goroutine, scrapeOutcome]
  cases (scrapeVM cfg conn.state (w.replies id)).result with
  | error err =>
      refine ⟨?_, fun hdrop => absurd hdrop.symm Bool.false_ne_true⟩
      simp only [Workers.Job.runAll, List.foldl_cons, List.foldl_nil, countError, closeOwn,
        deleteEntry, settle, closeConn, if_true, Option.toList_none, List.append_nil]
      -- A connection that is closed already is not closed again.
      by_cases hclosed :
          pollOps.closed (scrapeVM cfg conn.state (w.replies id)).conn = true
      · simp only [hclosed, if_true]
      · simp only [hclosed, if_false, Bool.false_eq_true]
  | ok result => exact ⟨rfl, fun _ => rfl⟩

/-- The collector with its table in another order. -/
structure Same (c d : Poller) : Prop where
  collector_eq : c.collector = d.collector
  handles_eq : c.handles = d.handles
  connections_perm : c.connections.Perm d.connections
  keys_nodup : (keys c.connections).Nodup

theorem same_new : Same .new .new := ⟨rfl, rfl, List.Perm.refl _, List.nodup_nil⟩

/-- The world with its scrapes in another order. -/
def Reordered (w w' : World) : Prop :=
  ∃ arrange harrange, w' = { w with arrange := arrange, arrange_perm := harrange }

/-- A poll with goroutines, from a collector with its table in another order. -/
theorem poll_simulates (concurrency : Nat) (filters : Filters) (cfg : PollerConfig) :
    Simulates (poll filters cfg) Reordered Same (PollsTo concurrency filters cfg) := by
  rintro c d w c' hsame ⟨s, hpolls, rfl⟩
  rw [hsame.handles_eq] at hpolls
  -- The poll of the goroutines is one in which the scrapes come in some order.
  rcases polls_poll (goroutine_agrees cfg w) hsame.keys_nodup hsame.connections_perm hpolls with
    ⟨arrange, harrange, hscraped, hkeys⟩
  refine ⟨_, ⟨arrange, harrange, rfl⟩, ?_, hscraped.handles_eq, hscraped.table_perm, hkeys⟩
  rw [hscraped.results_eq, hscraped.scrapeErrors_eq, hsame.collector_eq]
  rfl

/-- Whatever the goroutines of each poll are scheduled like, a history of polls
    ends as one in which the scrapes of each poll come one after the other, in
    some order. -/
theorem history_reordered (concurrency : Nat) (filters : Filters) (cfg : PollerConfig)
    (ws : List World) (c : Poller)
    (hsteps : Steps (PollsTo concurrency filters cfg) .new ws c) :
    ∃ ws', List.Forall₂ Reordered ws ws' ∧ Same c (ws'.foldl (poll filters cfg) .new) :=
  hsteps.simulated (poll_simulates concurrency filters cfg) same_new

/-- With a place in the channel no history gets stuck. -/
theorem exists_history {concurrency : Nat} (hcap : 0 < concurrency) (filters : Filters)
    (cfg : PollerConfig) (c : Poller) (ws : List World) :
    ∃ c', Steps (PollsTo concurrency filters cfg) c ws c' := by
  refine exists_steps (fun c w => ?_) c ws
  rcases exists_polls pollOps hcap (goroutine cfg w) filters (w.env cfg) c.connections c.handles
    with ⟨s, hpolls⟩
  exact ⟨_, s, hpolls, rfl⟩

/-- A poll with one pod and two polls with three. -/
def threePolls : List World := [onePodWorld byName, threePodWorld, threePodWorld]

theorem history_reordered_three_polls :
    ∃ c, Steps (PollsTo 2 noFilters { nodeName := "node", boundariesNs := [] }) .new threePolls c ∧
      ∃ ws', List.Forall₂ Reordered threePolls ws' ∧
        Same c (ws'.foldl (poll noFilters { nodeName := "node", boundariesNs := [] }) .new) := by
  rcases exists_history Nat.two_pos noFilters { nodeName := "node", boundariesNs := [] } .new
    threePolls with ⟨c, hsteps⟩
  exact ⟨c, hsteps, history_reordered 2 noFilters _ _ _ hsteps⟩

/-- The table and the handles of a history. -/
theorem tableOk_of_history {concurrency : Nat} {filters : Filters} {cfg : PollerConfig}
    {ws : List World} {c : Poller} (hsteps : Steps (PollsTo concurrency filters cfg) .new ws c) :
    TableOk pollOps c.connections c.handles := by
  rcases hsteps.simulated (poll_simulates concurrency filters cfg) same_new with ⟨ws', _, hsame⟩
  rw [hsame.handles_eq]
  exact (tableOk_run filters cfg ws').perm hsame.connections_perm

end Qmp

namespace Qga

open Poll

/-- A goroutine that fails handles the error on its own machine. -/
theorem goroutine_agrees (cfg : CollectorConfig) (w : World) :
    Agrees pollOps (scrapeOutcome cfg w) (goroutine cfg w) := by
  intro id conn sh
  simp only [Goroutine.serve, goroutine, scrapeOutcome, scrapeTask]
  cases hresult : (scrapeVM cfg conn.state (w.replies id)).result with
  | error err =>
      refine ⟨?_, fun _ => rfl⟩
      simp only [Workers.Job.runAll, List.foldl_cons, List.foldl_nil, countError, updateOwn, settle,
        if_true, Bool.false_eq_true, if_false, Option.toList_none, List.append_nil]
  | ok result =>
      simp only [hresult]
      -- The first scrape of a machine has no result, and is no failure either.
      cases result with
      | none =>
          refine ⟨?_, fun _ => rfl⟩
          simp only [Workers.Job.runAll, List.foldl_nil, settle, Bool.false_eq_true, if_false,
            Option.toList_none, List.append_nil, Nat.add_zero]
      | some result => exact ⟨rfl, fun _ => rfl⟩

/-- The collector with its table in another order. -/
structure Same (c d : Collector) : Prop where
  results_eq : c.results = d.results
  scrapeErrors_eq : c.scrapeErrors = d.scrapeErrors
  lastPollTS_eq : c.lastPollTS = d.lastPollTS
  guestExecs_eq : c.guestExecs = d.guestExecs
  handles_eq : c.handles = d.handles
  vms_perm : c.vms.Perm d.vms
  keys_nodup : (keys c.vms).Nodup

theorem same_new : Same .new .new :=
  ⟨rfl, rfl, rfl, rfl, rfl, List.Perm.refl _, List.nodup_nil⟩

/-- The world with its scrapes in another order. -/
def Reordered (w w' : World) : Prop :=
  ∃ arrange harrange, w' = { w with arrange := arrange, arrange_perm := harrange }

theorem poll_simulates (concurrency : Nat) (filters : Filters) (cfg : CollectorConfig) :
    Simulates (poll filters cfg) Reordered Same (PollsTo concurrency filters cfg) := by
  rintro c d w c' hsame ⟨s, hpolls, rfl⟩
  rw [hsame.handles_eq] at hpolls
  rcases polls_poll (goroutine_agrees cfg w) hsame.keys_nodup hsame.vms_perm hpolls with
    ⟨arrange, harrange, hscraped, hkeys⟩
  refine ⟨_, ⟨arrange, harrange, rfl⟩, hscraped.results_eq, ?_, rfl, hscraped.scraped_eq,
    hscraped.handles_eq, hscraped.table_perm, hkeys⟩
  rw [hscraped.scrapeErrors_eq, hsame.scrapeErrors_eq]
  rfl

/-- Whatever the goroutines of each poll are scheduled like, a history of polls
    ends as one in which the scrapes of each poll come one after the other, in
    some order. -/
theorem history_in_some_order (concurrency : Nat) (filters : Filters) (cfg : CollectorConfig)
    (ws : List World) (c : Collector)
    (hsteps : Steps (PollsTo concurrency filters cfg) .new ws c) :
    ∃ ws', List.Forall₂ Reordered ws ws' ∧ Same c (ws'.foldl (poll filters cfg) .new) :=
  hsteps.simulated (poll_simulates concurrency filters cfg) same_new

/-- With a place in the channel no history gets stuck. -/
theorem exists_history {concurrency : Nat} (hcap : 0 < concurrency) (filters : Filters)
    (cfg : CollectorConfig) (c : Collector) (ws : List World) :
    ∃ c', Steps (PollsTo concurrency filters cfg) c ws c' := by
  refine exists_steps (fun c w => ?_) c ws
  rcases exists_polls pollOps hcap (goroutine cfg w) filters (w.env cfg) c.vms c.handles with
    ⟨s, hpolls⟩
  exact ⟨_, s, hpolls, rfl⟩

theorem history_in_some_order_timing_out :
    ∃ c, Steps (PollsTo 2 noFilters { nodeName := "node", maxRetries := 2 }) .new
        [timingOut, timingOut] c ∧
      ∃ ws', List.Forall₂ Reordered [timingOut, timingOut] ws' ∧
        Same c (ws'.foldl (poll noFilters { nodeName := "node", maxRetries := 2 }) .new) := by
  rcases exists_history Nat.two_pos noFilters { nodeName := "node", maxRetries := 2 } .new
    [timingOut, timingOut] with ⟨c, hsteps⟩
  exact ⟨c, hsteps, history_in_some_order 2 noFilters _ _ _ hsteps⟩

/-- The table and the handles of a history. -/
theorem tableOk_of_history {concurrency : Nat} {filters : Filters} {cfg : CollectorConfig}
    {ws : List World} {c : Collector} (hsteps : Steps (PollsTo concurrency filters cfg) .new ws c) :
    TableOk pollOps c.vms c.handles := by
  rcases hsteps.simulated (poll_simulates concurrency filters cfg) same_new with ⟨ws', _, hsame⟩
  rw [hsame.handles_eq]
  exact (tableOk_run filters cfg ws').perm hsame.vms_perm

end Qga

namespace Poll

/-- In every history of polls with goroutines of either collector, every
    connection is in the table under one container ID and open, or not in the
    table and closed once; after the shutdown every connection was closed
    once. -/
theorem goroutines_close_once (concurrency : Nat) (filters : Filters) :
    (∀ cfg ws c, Steps (Qmp.PollsTo concurrency filters cfg) .new ws c →
      Tracked Qmp.pollOps c.connections c.handles ∧
      (Qmp.closeAll c).connections = [] ∧ (Qmp.closeAll c).handles.ClosedOnce) ∧
    ∀ cfg ws c, Steps (Qga.PollsTo concurrency filters cfg) .new ws c →
      Tracked Qga.pollOps c.vms c.handles ∧
      (Qga.closeAll c).vms = [] ∧ (Qga.closeAll c).handles.ClosedOnce := by
  -- Both collectors close what is left in the table.
  refine ⟨fun cfg ws c hsteps => ?_, fun cfg ws c hsteps => ?_⟩
  · have hok := Qmp.tableOk_of_history hsteps
    exact ⟨hok.tracked, hok.closeAll⟩
  · have hok := Qga.tableOk_of_history hsteps
    exact ⟨hok.tracked, hok.closeAll⟩

theorem goroutines_close_once_three_polls :
    ∃ c, Steps (Qmp.PollsTo 2 noFilters { nodeName := "node", boundariesNs := [] }) .new
        Qmp.threePolls c ∧
      Tracked Qmp.pollOps c.connections c.handles ∧ (Qmp.closeAll c).handles.ClosedOnce := by
  rcases Qmp.exists_history Nat.two_pos noFilters { nodeName := "node", boundariesNs := [] } .new
    Qmp.threePolls with ⟨c, hsteps⟩
  rcases (goroutines_close_once 2 noFilters).1 _ _ c hsteps with ⟨htracked, _, hclosed⟩
  exact ⟨c, hsteps, htracked, hclosed⟩

end Poll

end LatencyExporter
