import LatencyExporter.Core.Scrapes
import LatencyExporter.Theory.Histories

/-!
# What Scrapes See

Scrapes of the QMP and the QGA collector while the collector polls. `Collect`
goes through three statements and a poll ends with three assignments, and the
schedule puts them in any order the lock allows. A scrape then shows what
`collect` makes of the collector after a whole number of polls: the error
counter, the time stamp and the results are of the same poll. Of two scrapes,
one after the other, the second one is not behind, so the error counter does
not fall.

The polls themselves are those of `Core.Goroutines`, with goroutines interleaved
in ways of their own.

## Main definitions

* `ScrapesSee`: Scrapes of a collector that goes through some states.

## Theorems

* `stateAt_visits`: The versions are the states of the collector.
* `scrapesSee_of_visits`: Scrapes of any collector with such fields.
* `scrapes_see_polls`: Both collectors.
-/

namespace LatencyExporter

namespace Poll

open RwLock

variable {ρ V C I : Type}

/-- What scrapes see of a collector that goes through some states, for all
    schedules of the scrapes and of the ends of the polls. -/
structure ScrapesSee (prog : List (Cached ρ → List V → List V)) (s₀ : Cached ρ)
    (sections : List (List (Cached ρ → Cached ρ))) (states : List C) (collect : C → List V)
    (scrapeErrors : C → ℚ) : Prop where
  /-- A scrape shows the state after the polls that had ended when it began. -/
  seen : ∀ sched (m : Memory Nat (Cached ρ) (List V)),
    run prog [] (.start s₀ sections) sched = some m → ∀ i v ch, m.readers i = .done v ch →
      ∃ c, states[v]? = some c ∧ v ≤ m.version ∧ ch = collect c
  /-- A scrape that begins when another one is over is not behind it. -/
  later : ∀ sched sched' (m m' : Memory Nat (Cached ρ) (List V)),
    run prog [] (.start s₀ sections) sched = some m → run prog [] m sched' = some m' →
      ∀ i j v v' ch ch', m.readers i = .done v ch → m.readers j = .idle →
        m'.readers j = .done v' ch' →
        ∃ c c', states[v]? = some c ∧ states[v']? = some c' ∧ ch = collect c ∧
          ch' = collect c' ∧ v ≤ v' ∧ scrapeErrors c ≤ scrapeErrors c'
  /-- A scrape can always be brought to its end, and so can a poll. -/
  progress : ∀ sched (m : Memory Nat (Cached ρ) (List V)),
    run prog [] (.start s₀ sections) sched = some m →
      (∀ i, ∃ sched' m' v ch, run prog [] m sched' = some m' ∧ m'.readers i = .done v ch) ∧
      (m.version < sections.length →
        ∃ sched' m', run prog [] m sched' = some m' ∧ m'.version = m.version + 1)

section Visits

variable {step : C → I → C → Prop} {cached : C → Cached ρ}
  {published : I → List (Cached ρ → Cached ρ)}

/-- If each step publishes the next state, the versions are the states. -/
theorem stateAt_visits
    (hpublish : ∀ c i c', step c i c' → runSection (cached c) (published i) = cached c') {c : C}
    {is : List I} {cs : List C} (hvisits : Visits step c is cs) (v : Nat)
    (hv : v ≤ is.length) :
    ∃ c', (c :: cs)[v]? = some c' ∧ stateAt (cached c) (is.map published) v = cached c' := by
  -- By induction on the visits: the first step publishes the second state.
  induction hvisits generalizing v with
  | nil c =>
      rw [List.length_nil, Nat.le_zero] at hv
      rw [hv]
      exact ⟨c, rfl, rfl⟩
  | @cons c c' i is cs hstep _ ih =>
      cases v with
      | zero => exact ⟨c, rfl, rfl⟩
      | succ v =>
          rcases ih v (Nat.le_of_succ_le_succ hv) with ⟨c'', hget, hstate⟩
          refine ⟨c'', by rw [List.getElem?_cons_succ, hget], ?_⟩
          rw [List.map_cons, stateAt, List.take_succ_cons, List.foldl_cons,
            hpublish c i c' hstep, ← hstate]
          rfl

/-- Scrapes of a collector whose polls publish, if `Collect` makes of the fields
    what `collect` makes of the collector. -/
theorem scrapesSee_of_visits {prog : List (Cached ρ → List V → List V)} {collect : C → List V}
    (hpublish : ∀ c i c', step c i c' → runSection (cached c) (published i) = cached c')
    (hcollect : ∀ c, observe prog (cached c) [] = collect c)
    (herrors : ∀ c i c', step c i c' → (cached c).scrapeErrors ≤ (cached c').scrapeErrors)
    {c : C} {is : List I} {cs : List C} (hvisits : Visits step c is cs) :
    ScrapesSee prog (cached c) (is.map published) (c :: cs) collect
      fun c => (cached c).scrapeErrors := by
  -- What a reader has seen is one version, which is a state of the collector.
  have hseen : ∀ sched (m : Memory Nat (Cached ρ) (List V)),
      run prog [] (.start (cached c) (is.map published)) sched = some m →
      ∀ i v ch, m.readers i = .done v ch →
        ∃ c', (c :: cs)[v]? = some c' ∧ v ≤ m.version ∧ ch = collect c' := by
    intro sched m hrun i v ch hdone
    rcases run_done hrun hdone with ⟨hversion, hlen, hch⟩
    rw [List.length_map] at hlen
    rcases stateAt_visits hpublish hvisits v hlen with ⟨c', hget, hstate⟩
    exact ⟨c', hget, hversion, by rw [hch, hstate, hcollect]⟩
  refine ⟨hseen, ?_, fun sched m hrun => ⟨fun i => exists_read i, ?_⟩⟩
  · intro sched sched' m m' hrun hrun' i j v v' ch ch' hfirst hidle hsecond
    rcases hseen _ _ hrun i v ch hfirst with ⟨c₁, hget, _, hch⟩
    rcases hseen _ _ (run_append prog [] hrun hrun') j v' ch' hsecond with ⟨c₂, hget', _, hch'⟩
    -- The versions are in order, and errors are only added.
    have hle := version_le_of_later hrun hrun' hfirst hidle hsecond
    refine ⟨c₁, c₂, hget, hget', hch, hch', hle, ?_⟩
    exact hvisits.rel_of_le (fun c c' => (cached c).scrapeErrors ≤ (cached c').scrapeErrors)
      (fun _ => le_refl _) (fun _ _ _ => le_trans) herrors hle hget hget'
  · exact exists_published (inv_run (inv_start prog [] _ _) hrun)

end Visits

end Poll

namespace Qmp

open Poll RwLock

/-- The end of a poll publishes the fields of the collector after it. -/
theorem publish_polls {concurrency : Nat} {filters : Filters} {cfg : PollerConfig} (c : Poller)
    (i : World × Scraped VmConnection VMIResult) (c' : Poller)
    (hpolls : PollsWith concurrency filters cfg c i c') :
    runSection c.collector.cached (published i) = c'.collector.cached := by
  rw [hpolls.2]
  rfl

/-- Errors are only added. -/
theorem errors_polls {concurrency : Nat} {filters : Filters} {cfg : PollerConfig} (c : Poller)
    (i : World × Scraped VmConnection VMIResult) (c' : Poller)
    (hpolls : PollsWith concurrency filters cfg c i c') :
    c.collector.scrapeErrors ≤ c'.collector.scrapeErrors := by
  rw [hpolls.2]
  exact le_add_of_nonneg_right (Nat.cast_nonneg _)

/-- The statements of `Collect` one after the other are `collect`. -/
theorem observe_collect (c : Collector) : observe collectStatements c.cached [] = collect c := rfl

/-- With a place in the channel the polls of any worlds take place. -/
theorem exists_visits {concurrency : Nat} (hcap : 0 < concurrency) (filters : Filters)
    (cfg : PollerConfig) (c : Poller) (ws : List World) :
    ∃ is cs, is.map Prod.fst = ws ∧ Visits (PollsWith concurrency filters cfg) c is cs := by
  induction ws generalizing c with
  | nil => exact ⟨[], [], rfl, .nil c⟩
  | cons w ws ih =>
      -- Some schedule of the first poll; the others go on from where it ends.
      rcases exists_polls pollOps hcap (goroutine cfg w) filters (w.env cfg) c.connections
        c.handles with ⟨s, hpolls⟩
      rcases ih _ with ⟨is, cs, rfl, hvisits⟩
      exact ⟨(w, s) :: is, _ :: cs, rfl, .cons ⟨hpolls, rfl⟩ hvisits⟩

end Qmp

namespace Qga

open Poll RwLock

theorem publish_polls {concurrency : Nat} {filters : Filters} {cfg : CollectorConfig}
    (c : Collector) (i : World × Scraped VmState VmiResult) (c' : Collector)
    (hpolls : PollsWith concurrency filters cfg c i c') :
    runSection c.cached (published i) = c'.cached := by
  rw [hpolls.2]
  rfl

theorem errors_polls {concurrency : Nat} {filters : Filters} {cfg : CollectorConfig}
    (c : Collector) (i : World × Scraped VmState VmiResult) (c' : Collector)
    (hpolls : PollsWith concurrency filters cfg c i c') : c.scrapeErrors ≤ c'.scrapeErrors := by
  rw [hpolls.2]
  exact le_add_of_nonneg_right (Nat.cast_nonneg _)

theorem observe_collect (c : Collector) : observe collectStatements c.cached [] = collect c := rfl

end Qga

namespace Poll

/-- Scrapes of the QMP and of the QGA collector, in every schedule: a scrape
    shows the collector after the polls that had ended when it began, all of it;
    the next scrape is not behind; and no scrape keeps a poll from ending or the
    other way round. -/
theorem scrapes_see_polls (concurrency : Nat) (filters : Filters) :
    (∀ cfg is cs, Visits (Qmp.PollsWith concurrency filters cfg) .new is cs →
      ScrapesSee Qmp.collectStatements Qmp.Poller.new.collector.cached (is.map Qmp.published)
        (.new :: cs) (fun c => Qmp.collect c.collector) fun c => c.collector.scrapeErrors) ∧
    ∀ cfg is cs, Visits (Qga.PollsWith concurrency filters cfg) .new is cs →
      ScrapesSee Qga.collectStatements Qga.Collector.new.cached (is.map Qga.published)
        (.new :: cs) Qga.collect Qga.Collector.scrapeErrors := by
  refine ⟨fun cfg is cs hvisits => ?_, fun cfg is cs hvisits => ?_⟩
  · exact scrapesSee_of_visits Qmp.publish_polls (fun c => Qmp.observe_collect c.collector)
      Qmp.errors_polls hvisits
  · exact scrapesSee_of_visits Qga.publish_polls Qga.observe_collect Qga.errors_polls hvisits

theorem scrapes_see_polls_three_polls :
    ∃ is cs, is.map Prod.fst = Qmp.threePolls ∧
      Visits (Qmp.PollsWith 2 noFilters { nodeName := "node", boundariesNs := [] }) .new is cs ∧
      ScrapesSee Qmp.collectStatements Qmp.Poller.new.collector.cached (is.map Qmp.published)
        (.new :: cs) (fun c => Qmp.collect c.collector) fun c => c.collector.scrapeErrors := by
  rcases Qmp.exists_visits Nat.two_pos noFilters { nodeName := "node", boundariesNs := [] } .new
    Qmp.threePolls with ⟨is, cs, hworlds, hvisits⟩
  exact ⟨is, cs, hworlds, hvisits, (scrapes_see_polls 2 noFilters).1 _ _ _ hvisits⟩

end Poll

end LatencyExporter
