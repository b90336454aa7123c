import LatencyExporter.Core.Qga.Poll
import LatencyExporter.Core.Qmp.Poll
import LatencyExporter.Lib.Workers

/-!
# The Goroutines of a Poll

The second half of `poll` in `pkg/qmp/collector.go` and `pkg/qga/collector.go`,
statement by statement: a goroutine for each connection of the snapshot, the
channel `sem` that lets `Concurrency` of them through, the lock `resultsMu`, and
the wait for all of them. The first half is `refreshTable`.

A goroutine scrapes with the lock of its own connection, which nobody else takes
meanwhile. With `resultsMu` it goes through the statements of its error path or
appends its result. The map of connections holds pointers; what the statements
change of it is which keys are there, and the connections are the memory of the
goroutines. `connMu` is taken with `resultsMu` held and by nobody else.

Which connections are skipped is decided when the loop comes to them. Their own
goroutine has not been started then, so it is decided on the snapshot here. A
negative `Concurrency`, for which `make` panics, is left out.

## Main definitions

* `Shared`, `Statement`: What the goroutines share, and what they do to it.
* `countError`, `appendResult`, `deleteEntry`, `closeOwn`, `updateOwn`: The
  statements.
* `Goroutine`: What the goroutine of a connection does.
* `goroutines`, `goroutineIDs`, `goroutineStart`: All of them.
* `tableAfter`, `scrapedAfter`: What they leave behind.
* `Scrapes`, `Polls`: What a poll can come to.
* `Qmp.goroutine`, `Qmp.PollsTo`, `Qga.goroutine`, `Qga.PollsTo`: The two
  collectors.
-/

namespace LatencyExporter

namespace Poll

variable {σ ρ τ : Type}

/-- What the goroutines of a poll share: the keys of the table, the handles, and
    the variables under `resultsMu`. -/
structure Shared (ρ : Type) where
  present : List String
  handles : Handles
  results : List ρ
  scrapeErrors : Nat

/-- A statement of a goroutine that has `resultsMu`. -/
abbrev Statement (σ ρ : Type) := Conn σ × Shared ρ → Conn σ × Shared ρ

/-- `scrapeErrors++`. -/
def countError : Statement σ ρ := fun (conn, sh) =>
  (conn, { sh with scrapeErrors := sh.scrapeErrors + 1 })

/-- `results = append(results, *result)`. -/
def appendResult (result : ρ) : Statement σ ρ := fun (conn, sh) =>
  (conn, { sh with results := sh.results ++ [result] })

/-- `delete(c.connections, containerID)`. -/
def deleteEntry (containerID : String) : Statement σ ρ := fun (conn, sh) =>
  (conn, { sh with present := sh.present.filter fun id => id ≠ containerID })

/-- `conn.close()`. -/
def closeOwn (ops : Ops σ) (setClosed : σ → σ) : Statement σ ρ := fun (conn, sh) =>
  if ops.closed conn.state then (conn, sh)
  else ({ conn with state := setClosed conn.state },
    { sh with handles := sh.handles.close conn.client })

/-- A change of the connection itself. -/
def updateOwn (f : σ → σ) : Statement σ ρ := fun (conn, sh) =>
  ({ conn with state := f conn.state }, sh)

/-- What the goroutine of a connection does: the scrape, and the statements that
    follow it. -/
structure Goroutine (σ ρ τ : Type) where
  scrapeVM : String → σ → τ × σ
  report : String → τ → List (Statement σ ρ)

/-- The goroutines of a snapshot. -/
def goroutines (g : Goroutine σ ρ τ) (snapshot : Table σ) :
    Workers.Job (Fin snapshot.length) (Conn σ) τ (Shared ρ) :=
  { work := fun i conn =>
      let (r, state) := g.scrapeVM (snapshot.get i).1 conn.state
      (r, { conn with state := state }),
    report := fun i r => g.report (snapshot.get i).1 r }

/-- The entries of a snapshot that are not skipped. -/
def goroutineIDs (ops : Ops σ) (snapshot : Table σ) : List (Fin snapshot.length) :=
  (List.finRange snapshot.length).filter fun i => !ops.skip (snapshot.get i).2.state

/-- What is shared before the loop that starts the goroutines. -/
def Shared.start (snapshot : Table σ) (k : Handles) : Shared ρ :=
  { present := snapshot.map Prod.fst, handles := k, results := [], scrapeErrors := 0 }

/-- Before the loop that starts the goroutines. -/
def goroutineStart (ops : Ops σ) (snapshot : Table σ) (k : Handles) :
    Workers.Pool (Fin snapshot.length) (Conn σ) τ (Shared ρ) :=
  .start (goroutineIDs ops snapshot) (fun i => (snapshot.get i).2) (.start snapshot k)

/-- The table, with the connections as the goroutines left them. -/
def tableAfter (snapshot : Table σ)
    (p : Workers.Pool (Fin snapshot.length) (Conn σ) τ (Shared ρ)) : Table σ :=
  (List.finRange snapshot.length).filterMap fun i =>
    if (snapshot.get i).1 ∈ p.shared.present then some ((snapshot.get i).1, p.cells i) else none

/-- What the goroutines leave behind. -/
def scrapedAfter (snapshot : Table σ)
    (p : Workers.Pool (Fin snapshot.length) (Conn σ) τ (Shared ρ)) : Scraped σ ρ :=
  { table := tableAfter snapshot p, handles := p.shared.handles, results := p.shared.results,
    scrapeErrors := p.shared.scrapeErrors,
    scraped := p.order.map fun i => (snapshot.get i).1 }

/-- The goroutines of a snapshot can leave this behind when `wg.Wait` returns. -/
def Scrapes (ops : Ops σ) (concurrency : Nat) (g : Goroutine σ ρ τ) (snapshot : Table σ)
    (k : Handles) (s : Scraped σ ρ) : Prop :=
  ∃ sched p,
    (goroutines g snapshot).run concurrency (goroutineStart ops snapshot k) sched = some p ∧
    p.Joined ∧ s = scrapedAfter snapshot p

/-- A poll can leave this behind. The loop over the snapshot goes in any
    order. -/
def Polls (ops : Ops σ) (concurrency : Nat) (g : Goroutine σ ρ τ) (cfg : Filters) (env : Env σ ρ)
    (table : Table σ) (k : Handles) (s : Scraped σ ρ) : Prop :=
  ∃ snapshot, snapshot.Perm (refreshTable ops cfg env table k).1 ∧
    Scrapes ops concurrency g snapshot (refreshTable ops cfg env table k).2 s

end Poll

namespace Qmp

open Poll

/-- The goroutine of `poll`. -/
def goroutine (cfg : PollerConfig) (w : World) :
    Goroutine VmConnection VMIResult (Except String VMIResult) :=
  { scrapeVM := fun id conn =>
      let s := scrapeVM cfg conn (w.replies id)
      (s.result, s.conn),
    report := fun id => fun
      -- After a failed scrape the connection is closed and its entry deleted.
      | .error _ =>
          [countError, closeOwn pollOps fun conn => { conn with closed := true }, deleteEntry id]
      | .ok result => [appendResult result] }

/-- `poll`, with its goroutines. -/
def PollsTo (concurrency : Nat) (filters : Filters) (cfg : PollerConfig) (c : Poller) (w : World)
    (c' : Poller) : Prop :=
  ∃ s, Polls pollOps concurrency (goroutine cfg w) filters (w.env cfg) c.connections c.handles s ∧
    c' =
      { collector :=
          { results := s.results, scrapeErrors := c.collector.scrapeErrors + s.scrapeErrors,
            lastPollTS := w.now },
        connections := s.table, handles := s.handles }

end Qmp

namespace Qga

open Poll

/-- The goroutine of `poll`. -/
def goroutine (cfg : CollectorConfig) (w : World) :
    Goroutine VmState VmiResult (Except ScrapeError (Option VmiResult)) :=
  { scrapeVM := fun id vs =>
      let s := scrapeVM cfg vs (w.replies id)
      (s.result, s.vm),
    report := fun _ => fun
      | .error err => [countError, updateOwn fun vs => handleScrapeError cfg vs err]
      -- The scrape has nothing to report.
      | .ok none => []
      | .ok (some result) => [appendResult result] }

/-- `poll`, with its goroutines. -/
def PollsTo (concurrency : Nat) (filters : Filters) (cfg : CollectorConfig) (c : Collector)
    (w : World) (c' : Collector) : Prop :=
  ∃ s, Polls pollOps concurrency (goroutine cfg w) filters (w.env cfg) c.vms c.handles s ∧
    c' =
      { results := s.results, scrapeErrors := c.scrapeErrors + s.scrapeErrors, lastPollTS := w.now,
        vms := s.table, handles := s.handles, guestExecs := s.scraped }

end Qga

end LatencyExporter
