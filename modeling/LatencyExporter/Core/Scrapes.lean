import LatencyExporter.Core.Goroutines
import LatencyExporter.Lib.RwLock

/-!
# Scrapes between Polls

The part of the QMP and QGA collectors that polls and scrapes share: `results`,
`scrapeErrors` and `lastPollTS`, under the read-write lock `mu`. A poll assigns
to the three at its end, with the lock held, and a scrape reads them with the
read lock held. The statements of both are given one by one, so that schedules
can put other statements in between.

## Main definitions

* `Poll.Cached`, `Poll.publish`: The fields, and the end of a poll.
* `Qmp.collectStatements`, `Qga.collectStatements`: A scrape.
* `Qmp.PollsWith`, `Qga.PollsWith`: A poll with what it publishes.
-/

namespace LatencyExporter

namespace Poll

/-- The fields of a collector under `mu`. -/
structure Cached (ρ : Type) where
  results : List ρ
  scrapeErrors : ℚ
  lastPollTS : ℚ

/-- The assignments at the end of `poll`. -/
def publish {ρ : Type} (results : List ρ) (scrapeErrors : Nat) (now : ℚ) :
    List (Cached ρ → Cached ρ) :=
  [fun c => { c with results := results },
    fun c => { c with scrapeErrors := c.scrapeErrors + scrapeErrors },
    fun c => { c with lastPollTS := now }]

end Poll

namespace Qmp

open Poll

/-- The fields under `mu`. -/
def Collector.cached (c : Collector) : Cached VMIResult :=
  { results := c.results, scrapeErrors := c.scrapeErrors, lastPollTS := c.lastPollTS }

/-- The statements of `Collect` that read the fields, with the metrics sent so
    far. The loop ranges over the results it found when it began. -/
def collectStatements :
    List (Cached VMIResult → List (Metric MetricValue) → List (Metric MetricValue)) :=
  [fun c ch => ch ++
      [{ series := ⟨"kme_qmp_scrape_errors_total", []⟩, value := .counter c.scrapeErrors }],
    fun c ch => ch ++
      [{ series := ⟨"kme_qmp_last_poll_timestamp_seconds", []⟩, value := .gauge c.lastPollTS }],
    fun c ch => ch ++ c.results.flatMap fun vmi =>
      vmi.devices.flatMap (deviceMetrics vmi) ++ vmi.virtqueues.flatMap (virtqueueMetrics vmi)]

/-- A poll of some world whose goroutines have left some scrapes behind. -/
def PollsWith (concurrency : Nat) (filters : Filters) (cfg : PollerConfig) (c : Poller)
    (i : World × Scraped VmConnection VMIResult) (c' : Poller) : Prop :=
  Polls pollOps concurrency (goroutine cfg i.1) filters (i.1.env cfg) c.connections c.handles i.2 ∧
    c' =
      { collector :=
          { results := i.2.results,
            scrapeErrors := c.collector.scrapeErrors + i.2.scrapeErrors, lastPollTS := i.1.now },
        connections := i.2.table, handles := i.2.handles }

/-- The end of such a poll. -/
def published (i : World × Scraped VmConnection VMIResult) :
    List (Cached VMIResult → Cached VMIResult) :=
  publish i.2.results i.2.scrapeErrors i.1.now

end Qmp

namespace Qga

open Poll

/-- The fields under `mu`. -/
def Collector.cached (c : Collector) : Cached VmiResult :=
  { results := c.results, scrapeErrors := c.scrapeErrors, lastPollTS := c.lastPollTS }

/-- The statements of `Collect` that read the fields, with the metrics sent so
    far. -/
def collectStatements :
    List (Cached VmiResult → List (Metric MetricValue) → List (Metric MetricValue)) :=
  [fun c ch => ch ++
      [{ series := ⟨"kme_qga_scrape_errors_total", []⟩, value := .counter c.scrapeErrors }],
    fun c ch => ch ++
      [{ series := ⟨"kme_qga_last_poll_timestamp_seconds", []⟩, value := .gauge c.lastPollTS }],
    fun c ch => ch ++ c.results.flatMap fun vmi => vmi.disks.flatMap (diskMetrics vmi)]

/-- A poll of some world whose goroutines have left some scrapes behind. -/
def PollsWith (concurrency : Nat) (filters : Filters) (cfg : CollectorConfig) (c : Collector)
    (i : World × Scraped VmState VmiResult) (c' : Collector) : Prop :=
  Polls pollOps concurrency (goroutine cfg i.1) filters (i.1.env cfg) c.vms c.handles i.2 ∧
    c' =
      { results := i.2.results, scrapeErrors := c.scrapeErrors + i.2.scrapeErrors,
        lastPollTS := i.1.now, vms := i.2.table, handles := i.2.handles,
        guestExecs := i.2.scraped }

/-- The end of such a poll. -/
def published (i : World × Scraped VmState VmiResult) :
    List (Cached VmiResult → Cached VmiResult) :=
  publish i.2.results i.2.scrapeErrors i.1.now

end Qga

end LatencyExporter
