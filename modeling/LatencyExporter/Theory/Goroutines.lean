import LatencyExporter.Core.Goroutines
import LatencyExporter.Theory.PollErrors
import LatencyExporter.Theory.Polling
import Mathlib.Data.List.FinRange

/-!
# Polls with Goroutines are Polls

`Core.Poll` has the scrapes of a poll one after the other, in some order. Here
they are goroutines, and every way in which these can be interleaved is a poll
of that kind: the order is the one in which they took `resultsMu`.

The library says that goroutines behave as if served one after the other
(`Workers.run_served`). What remains is that serving a goroutine is a round of
`scrapeLoop` (`Agrees`), and that the keys and the connections make up the same
table. The table is a Go map, so it is the same up to the order of the entries
(`SameScraped`), and the loops of the next poll do not depend on that order
(`polls_poll`).

## Main definitions

* `Agrees`: A goroutine does what a round of `scrapeLoop` does.
* `SameScraped`: What scrapes leave behind, up to the order of the table.

## Theorems

* `served_goroutines`, `survivor_of_served`: Goroutines one after the other.
* `scrapes_scrapeLoop`: The goroutines are some `scrapeLoop`.
* `refreshTable_perm`: The first half of a poll does not depend on the order of
  the table.
* `polls_poll`: A poll with goroutines is some poll.
* `goroutines_complete`, `scrapes_iff`: The goroutines come to an end.
-/

namespace LatencyExporter

namespace Poll

open Handles Workers

variable {σ ρ τ : Type} {ops : Ops σ} {g : Goroutine σ ρ τ} {scrape : String → σ → Outcome σ ρ}

/-- A goroutine from beginning to end, with nobody else about. -/
def Goroutine.serve (g : Goroutine σ ρ τ) (id : String) (conn : Conn σ) (sh : Shared ρ) :
    Conn σ × Shared ρ :=
  let (r, state) := g.scrapeVM id conn.state
  Job.runAll (g.report id r) ({ conn with state := state }, sh)

/-- What a round of `scrapeLoop` does to what is shared. -/
def settle (ops : Ops σ) (o : Outcome σ ρ) (id : String) (conn : Conn σ) (sh : Shared ρ) :
    Shared ρ :=
  { present := if o.drop then sh.present.filter fun id' => id' ≠ id else sh.present,
    handles := if o.drop then closeConn ops { conn with state := o.state } sh.handles
      else sh.handles,
    results := sh.results ++ o.result.toList,
    scrapeErrors := sh.scrapeErrors + if o.failed then 1 else 0 }

/-- The effect of a goroutine on what is shared is that of a round of
    `scrapeLoop`, and its connection is left as the round leaves it, unless it
    is closed and deleted. -/
def Agrees (ops : Ops σ) (scrape : String → σ → Outcome σ ρ) (g : Goroutine σ ρ τ) : Prop :=
  ∀ id (conn : Conn σ) (sh : Shared ρ),
    (g.serve id conn sh).2 = settle ops (scrape id conn.state) id conn sh ∧
    ((scrape id conn.state).drop = false →
      (g.serve id conn sh).1 = { conn with state := (scrape id conn.state).state })

/-- What the rounds of `scrapeLoop` do to what is shared. -/
def settleAll (ops : Ops σ) (scrape : String → σ → Outcome σ ρ) (sh : Shared ρ) (table : Table σ) :
    Shared ρ :=
  table.foldl (fun sh e => settle ops (scrape e.1 e.2.state) e.1 e.2 sh) sh

/-- Going through a table, round by round, is `scrapeLoop`. -/
theorem settleAll_eq_scrapeLoop (table : Table σ)
    (hskip : ∀ e ∈ table, ops.skip e.2.state = false) (sh : Shared ρ) :
    let s := scrapeLoop ops scrape table sh.handles
    (settleAll ops scrape sh table).handles = s.handles ∧
    (settleAll ops scrape sh table).results = sh.results ++ s.results ∧
    (settleAll ops scrape sh table).scrapeErrors = sh.scrapeErrors + s.scrapeErrors := by
  induction table generalizing sh with
  | nil => exact ⟨rfl, (List.append_nil _).symm, rfl⟩
  | cons e table ih =>
      rcases e with ⟨id, conn⟩
      have hhere : ops.skip conn.state = false := hskip _ List.mem_cons_self
      rcases ih (fun e he => hskip e (List.mem_cons_of_mem _ he))
        (settle ops (scrape id conn.state) id conn sh) with ⟨hhandles, hresults, herrors⟩
      simp only [scrapeLoop, hhere, Bool.false_eq_true, if_false]
      refine ⟨hhandles, hresults.trans (List.append_assoc ..), herrors.trans ?_⟩
      exact (Nat.add_assoc ..).trans (congrArg _ (Nat.add_comm ..))

/-- A key stays unless one of the rounds deletes it. -/
theorem mem_present_settleAll (table : Table σ) (sh : Shared ρ) (id : String) :
    id ∈ (settleAll ops scrape sh table).present ↔
      id ∈ sh.present ∧ ∀ e ∈ table, (scrape e.1 e.2.state).drop = true → id ≠ e.1 := by
  induction table generalizing sh with
  | nil => exact (and_iff_left fun e he => absurd he List.not_mem_nil).symm
  | cons e table ih =>
      rw [settleAll, List.foldl_cons, ← settleAll, ih, List.forall_mem_cons, ← and_assoc]
      refine and_congr_left fun _ => ?_
      unfold settle
      by_cases hdrop : (scrape e.1 e.2.state).drop = true
      · simp only [hdrop, if_true, List.mem_filter, decide_eq_true_eq, forall_const]
      · simp only [hdrop, if_false, Bool.false_eq_true, false_implies, and_true]

/-- What scrapes leave behind is the same up to the order of the table. -/
structure SameScraped (s s' : Scraped σ ρ) : Prop where
  table_perm : s.table.Perm s'.table
  handles_eq : s.handles = s'.handles
  results_eq : s.results = s'.results
  scrapeErrors_eq : s.scrapeErrors = s'.scrapeErrors
  scraped_eq : s.scraped = s'.scraped

section Served

variable {snapshot : Table σ}

theorem serve_goroutines (g : Goroutine σ ρ τ) (m : (Fin snapshot.length → Conn σ) × Shared ρ)
    (i : Fin snapshot.length) :
    (goroutines g snapshot).serve m i
      = (Function.update m.1 i (g.serve (snapshot.get i).1 (m.1 i) m.2).1,
          (g.serve (snapshot.get i).1 (m.1 i) m.2).2) := rfl

/-- The goroutines of a snapshot, one after the other. -/
theorem served_goroutines (hagrees : Agrees ops scrape g) (order : List (Fin snapshot.length))
    (hnodup : order.Nodup) (sh : Shared ρ) :
    let m := (goroutines g snapshot).served (fun i => (snapshot.get i).2) sh order
    m.2 = settleAll ops scrape sh (order.map snapshot.get) ∧
    ∀ i ∈ order, (scrape (snapshot.get i).1 (snapshot.get i).2.state).drop = false →
      m.1 i = { (snapshot.get i).2 with
        state := (scrape (snapshot.get i).1 (snapshot.get i).2.state).state } := by
  induction order using List.reverseRecOn with
  | nil => exact ⟨rfl, fun i hi => absurd hi List.not_mem_nil⟩
  | append_singleton order j ih =>
      rcases List.nodup_append.mp hnodup with ⟨horder, _, hdisjoint⟩
      have hj : j ∉ order := fun hmem => hdisjoint j hmem j (List.mem_singleton.mpr rfl) rfl
      rcases ih horder with ⟨hshared, hcells⟩
      -- The goroutine finds its connection as it was in the snapshot.
      have hcell := served_of_not_mem (goroutines g snapshot) (fun i => (snapshot.get i).2) sh
        order hj
      simp only [served_concat, serve_goroutines, hcell, hshared]
      rcases hagrees (snapshot.get j).1 (snapshot.get j).2
        (settleAll ops scrape sh (order.map snapshot.get)) with ⟨hsettle, hstate⟩
      refine ⟨?_, fun i hi hdrop => ?_⟩
      · rw [hsettle, List.map_append, settleAll, settleAll, List.foldl_append]
        rfl
      · -- The connection of the last goroutine, or of one before it.
        by_cases hij : i = j
        · rw [hij] at hdrop ⊢
          rw [Function.update_self, hstate hdrop]
        · rw [Function.update_of_ne hij]
          refine hcells i ?_ hdrop
          rcases List.mem_append.mp hi with hi | hi
          · exact hi
          · exact absurd (List.mem_singleton.mp hi) hij

/-- Skipped entries stay in the table and do nothing else. -/
theorem scrapeLoop_skipped (skipped table : Table σ) (hskip : ∀ e ∈ skipped, ops.skip e.2.state)
    (k : Handles) :
    scrapeLoop ops scrape (skipped ++ table) k
      = { scrapeLoop ops scrape table k with
          table := skipped ++ (scrapeLoop ops scrape table k).table } := by
  induction skipped with
  | nil => rfl
  | cons e skipped ih =>
      rcases e with ⟨id, conn⟩
      have hhere : ops.skip conn.state = true := hskip _ List.mem_cons_self
      rw [List.cons_append, scrapeLoop, if_pos hhere,
        ih fun e he => hskip e (List.mem_cons_of_mem _ he)]
      rfl

/-- A goroutine is started for every entry that is not skipped. -/
theorem mem_goroutineIDs {i : Fin snapshot.length} :
    i ∈ goroutineIDs ops snapshot ↔ ops.skip (snapshot.get i).2.state = false := by
  rw [goroutineIDs, List.mem_filter, Bool.not_eq_true']
  exact and_iff_right (List.mem_finRange i)

theorem goroutineIDs_nodup : (goroutineIDs ops snapshot).Nodup :=
  (List.nodup_finRange _).filter _

/-- The entries of the goroutines. -/
theorem map_get_goroutineIDs (ops : Ops σ) (snapshot : Table σ) :
    (goroutineIDs ops snapshot).map snapshot.get
      = snapshot.filter fun e => !ops.skip e.2.state := by
  conv_rhs => rw [← List.map_get_finRange snapshot]
  rw [List.filter_map]
  rfl

/-- An entry is left as a round of `scrapeLoop` leaves it. -/
theorem survivor_of_served (hagrees : Agrees ops scrape g) (hkeys : (keys snapshot).Nodup)
    {order : List (Fin snapshot.length)} (hperm : order.Perm (goroutineIDs ops snapshot))
    (k : Handles) (i : Fin snapshot.length) :
    let m := (goroutines g snapshot).served (fun i => (snapshot.get i).2) (.start snapshot k) order
    (if (snapshot.get i).1 ∈ m.2.present then some ((snapshot.get i).1, m.1 i) else none)
      = survivor ops scrape (snapshot.get i) := by
  intro m
  have hnodup : order.Nodup := hperm.nodup_iff.mpr goroutineIDs_nodup
  rcases served_goroutines hagrees order hnodup (.start snapshot k) with ⟨hshared, hcells⟩
  have hmem : i ∈ order ↔ ops.skip (snapshot.get i).2.state = false :=
    hperm.mem_iff.trans mem_goroutineIDs
  -- The key of an entry is deleted by the goroutine of that entry, if at all.
  have hkept : (snapshot.get i).1 ∈ m.2.present ↔
      (i ∈ order → (scrape (snapshot.get i).1 (snapshot.get i).2.state).drop = false) := by
    rw [hshared, mem_present_settleAll]
    refine (and_iff_right (mem_keys_of_mem (List.get_mem snapshot i))).trans ?_
    simp only [List.forall_mem_map]
    constructor
    · intro hall hi
      by_contra hdrop
      exact hall i hi (Bool.eq_true_of_not_eq_false hdrop) rfl
    · -- Entries with one key are one entry, which is skipped or not.
      intro hi j hj hdrop heq
      have hentry := List.inj_on_of_nodup_map hkeys (List.get_mem snapshot i)
        (List.get_mem snapshot j) heq
      rw [← hentry] at hdrop
      have hskip := mem_goroutineIDs.mp (hperm.mem_iff.mp hj)
      rw [← hentry] at hskip
      exact Bool.false_ne_true ((hi (hmem.mpr hskip)).symm.trans hdrop)
  unfold survivor
  -- Skipped, deleted or kept.
  by_cases hskip : ops.skip (snapshot.get i).2.state = true
  · have hi : i ∉ order := fun hi => Bool.false_ne_true ((hmem.mp hi).symm.trans hskip)
    rw [if_pos hskip, if_pos (hkept.mpr fun hi' => absurd hi' hi)]
    exact congrArg (fun conn => some ((snapshot.get i).1, conn))
      (served_of_not_mem _ _ _ order hi)
  · have hi : i ∈ order := hmem.mpr (Bool.eq_false_of_not_eq_true hskip)
    rw [if_neg hskip]
    by_cases hdrop : (scrape (snapshot.get i).1 (snapshot.get i).2.state).drop = true
    · rw [if_pos hdrop, if_neg fun hin => Bool.false_ne_true ((hkept.mp hin hi).symm.trans hdrop)]
    · have hfalse := Bool.eq_false_of_not_eq_true hdrop
      rw [if_neg hdrop, if_pos (hkept.mpr fun _ => hfalse)]
      exact congrArg (fun conn => some ((snapshot.get i).1, conn)) (hcells i hi hfalse)

/-- Whatever the goroutines are scheduled like, what they leave behind is what
    `scrapeLoop` leaves behind for some order of the entries, up to the order of
    the table. -/
theorem scrapes_scrapeLoop {concurrency : Nat} {k : Handles} {s : Scraped σ ρ}
    (hagrees : Agrees ops scrape g) (hkeys : (keys snapshot).Nodup)
    (hscrapes : Scrapes ops concurrency g snapshot k s) :
    ∃ arranged, arranged.Perm snapshot ∧ SameScraped s (scrapeLoop ops scrape arranged k) := by
  rcases hscrapes with ⟨sched, p, hrun, hjoined, rfl⟩
  rcases run_served goroutineIDs_nodup sched hrun hjoined with ⟨hperm, hserved⟩
  have hnodup : p.order.Nodup := hperm.nodup_iff.mpr goroutineIDs_nodup
  have hcells := congrArg Prod.fst hserved
  have hshared := congrArg Prod.snd hserved
  simp only at hcells hshared
  -- First the entries that are skipped, then the others as they took the lock.
  have hentries : (p.order.map snapshot.get).Perm (snapshot.filter fun e => !ops.skip e.2.state) :=
    map_get_goroutineIDs ops snapshot ▸ hperm.map snapshot.get
  have hscraped : ∀ e ∈ p.order.map snapshot.get, ops.skip e.2.state = false := by
    intro e he
    have hfilter := List.mem_filter.mp (hentries.mem_iff.mp he)
    simpa using hfilter.2
  have harranged : ((snapshot.filter fun e => ops.skip e.2.state) ++ p.order.map snapshot.get).Perm
      snapshot :=
    (hentries.append_left _).trans (List.filter_append_perm (fun e => ops.skip e.2.state) snapshot)
  rcases served_goroutines hagrees p.order hnodup (.start snapshot k) with ⟨hsettle, _⟩
  rcases settleAll_eq_scrapeLoop _ hscraped (.start snapshot k) with ⟨hhandles, hresults, herrors⟩
  have hkeys' : (p.order.map fun i => (snapshot.get i).1)
      = (scrapeLoop ops scrape (p.order.map snapshot.get) k).scraped := by
    rw [(scrapeLoop_eq _ _).2.2.2, List.filter_eq_self.mpr fun e he => by simp [hscraped e he],
      keys, List.map_map]
    rfl
  have htable : (tableAfter snapshot p).Perm (scrapeLoop ops scrape
      ((snapshot.filter fun e => ops.skip e.2.state) ++ p.order.map snapshot.get) k).table := by
    rw [(scrapeLoop_eq _ _).1]
    refine List.Perm.trans (List.Perm.of_eq ?_) (harranged.filterMap _).symm
    conv_rhs => rw [← List.map_get_finRange snapshot, List.filterMap_map]
    refine List.filterMap_congr fun i _ => ?_
    rw [Function.comp_apply, ← survivor_of_served hagrees hkeys hperm k i, ← hserved]
  refine ⟨_, harranged, ?_⟩
  rw [scrapeLoop_skipped _ _ fun e he => (List.mem_filter.mp he).2] at htable ⊢
  refine ⟨htable, ?_, ?_, ?_, hkeys'⟩
  · exact (congrArg Shared.handles (hshared.trans hsettle)).trans hhandles
  · exact (congrArg Shared.results (hshared.trans hsettle)).trans hresults
  · refine (congrArg Shared.scrapeErrors (hshared.trans hsettle)).trans (herrors.trans ?_)
    exact Nat.zero_add _

end Served

section Order

variable {env : Env σ ρ} {table table' : Table σ} {k : Handles}

/-- The departure loop closes the open connections it removes. -/
theorem departLoop_handles (active : List String) (table : Table σ) (k : Handles) :
    (departLoop ops active table k).2
      = k.closeAll
        (clients (table.filter fun e => e.1 ∉ active ∧ ops.closed e.2.state = false)) := by
  induction table generalizing k with
  | nil => rfl
  | cons e table ih =>
      rcases e with ⟨id, conn⟩
      rw [departLoop]
      by_cases hactive : id ∈ active
      · rw [if_pos hactive, List.filter_cons_of_neg (by simp [hactive])]
        exact ih k
      · rw [if_neg hactive, ih, closeConn]
        cases hclosed : ops.closed conn.state with
        | true => rw [if_pos rfl, List.filter_cons_of_neg (by simp [hclosed])]
        | false =>
            rw [if_neg Bool.false_ne_true, List.filter_cons_of_pos (by simp [hactive, hclosed])]
            rfl

/-- Which connections go does not depend on the order. -/
theorem departLoop_perm (ops : Ops σ) (active : List String) (k : Handles)
    (hperm : table.Perm table') :
    (departLoop ops active table k).1.Perm (departLoop ops active table' k).1 ∧
    (departLoop ops active table k).2 = (departLoop ops active table' k).2 := by
  refine ⟨?_, ?_⟩
  · rw [departLoop_table, departLoop_table]
    exact hperm.filter _
  · rw [departLoop_handles, departLoop_handles]
    exact closeAll_perm k ((hperm.filter _).map _)

/-- New connections are appended, whatever the order of the others. -/
theorem connectLoop_perm {existing existing' : List String}
    (hexisting : ∀ id, id ∈ existing ↔ id ∈ existing') (targets : List Target)
    (hperm : table.Perm table') :
    (connectLoop ops env existing targets table k).1.Perm
      (connectLoop ops env existing' targets table' k).1 ∧
    (connectLoop ops env existing targets table k).2
      = (connectLoop ops env existing' targets table' k).2 := by
  induction targets generalizing table table' k with
  | nil => exact ⟨hperm, rfl⟩
  | cons t targets ih =>
      rw [connectLoop, connectLoop]
      by_cases hmem : t.containerID ∈ existing
      · rw [if_pos hmem, if_pos ((hexisting _).mp hmem)]
        exact ih hperm
      · rw [if_neg hmem, if_neg (mt (hexisting _).mpr hmem)]
        cases env.findComputePIDAgain t.pod.podName t.pod.ns with
        | error err => exact ih hperm
        | ok info =>
            simp only
            cases env.connectVM t.pod info.pid with
            | error err => exact ih hperm
            | ok state =>
                have hkeys : t.containerID ∈ table.map Prod.fst ↔
                    t.containerID ∈ table'.map Prod.fst := (hperm.map _).mem_iff
                simp only
                -- Two targets of one container: the second connection is closed again.
                by_cases hdup : t.containerID ∈ table.map Prod.fst
                · rw [if_pos hdup, if_pos (hkeys.mp hdup)]
                  exact ih hperm
                · rw [if_neg hdup, if_neg (mt hkeys.mpr hdup)]
                  exact ih (hperm.append_right _)

/-- The first half of a poll does not depend on the order of the table. -/
theorem refreshTable_perm (ops : Ops σ) (cfg : Filters) (env : Env σ ρ) (k : Handles)
    (hperm : table.Perm table') :
    (refreshTable ops cfg env table k).1.Perm (refreshTable ops cfg env table' k).1 ∧
    (refreshTable ops cfg env table k).2 = (refreshTable ops cfg env table' k).2 := by
  rcases departLoop_perm ops (activeIDs cfg env) k hperm with ⟨hdepart, hhandles⟩
  unfold refreshTable
  simp only
  rw [hhandles]
  exact connectLoop_perm (fun id => (hdepart.map Prod.fst).mem_iff) _ hdepart

/-- The order of the scrapes is of no concern before they start. -/
theorem refreshTable_arrange (ops : Ops σ) (cfg : Filters) (env : Env σ ρ)
    (arrange : Table σ → Table σ) (harrange : ∀ t, (arrange t).Perm t) (table : Table σ)
    (k : Handles) :
    refreshTable ops cfg { env with arrange := arrange, arrange_perm := harrange } table k
      = refreshTable ops cfg env table k := by
  have hconnect : ∀ existing targets table k,
      connectLoop ops { env with arrange := arrange, arrange_perm := harrange } existing targets
        table k = connectLoop ops env existing targets table k := by
    intro existing targets
    induction targets with
    | nil => exact fun _ _ => rfl
    | cons t targets ih =>
        intro table k
        rw [connectLoop, connectLoop]
        simp only [ih]
  exact hconnect ..

/-- Any order of one table is that of some rule for all tables. -/
theorem exists_arrange {arranged : Table σ} (hperm : arranged.Perm table) :
    ∃ arrange : Table σ → Table σ, (∀ t, (arrange t).Perm t) ∧ arrange table = arranged := by
  classical
  refine ⟨Function.update (fun t => t) table arranged, fun t => ?_, Function.update_self ..⟩
  by_cases ht : t = table
  · rw [ht, Function.update_self]
    exact hperm
  · rw [Function.update_of_ne ht]

/-- A poll with goroutines is a poll in which the scrapes report in some order,
    also when the table it starts with is in another order. -/
theorem polls_poll {concurrency : Nat} {cfg : Filters} {s : Scraped σ ρ}
    (hagrees : Agrees ops env.scrape g) (hkeys : (keys table).Nodup) (hperm : table.Perm table')
    (hpolls : Polls ops concurrency g cfg env table k s) :
    ∃ arrange harrange,
      let s' := poll ops cfg { env with arrange := arrange, arrange_perm := harrange } table' k
      SameScraped s s' ∧ (keys s.table).Nodup := by
  rcases hpolls with ⟨snapshot, hsnapshot, hscrapes⟩
  rcases refreshTable_perm ops cfg env k hperm with ⟨hrefresh, hhandles⟩
  have hkeys' : (keys snapshot).Nodup :=
    (hsnapshot.map _).nodup_iff.mpr (refreshTable_keys_nodup cfg hkeys)
  rcases scrapes_scrapeLoop hagrees hkeys' hscrapes with ⟨arranged, harranged, hsame⟩
  rcases exists_arrange ((harranged.trans hsnapshot).trans hrefresh) with
    ⟨arrange, harrange, heq⟩
  refine ⟨arrange, harrange, ?_⟩
  -- Only the order of the scrapes is chosen anew.
  have hpoll : poll ops cfg { env with arrange := arrange, arrange_perm := harrange } table' k
      = scrapeLoop ops env.scrape arranged (refreshTable ops cfg env table k).2 := by
    rw [poll, refreshTable_arrange, hhandles, ← heq]
  rw [hpoll]
  refine ⟨hsame, (hsame.table_perm.map _).nodup_iff.mpr (scrapeLoop_keys_nodup ?_)⟩
  exact (harranged.map _).nodup_iff.mpr hkeys'

end Order

section Waiting

variable {snapshot : Table σ} {k : Handles} {concurrency : Nat}

/-- The wait for the goroutines can come to an end if one of them is let through
    at a time, or if there are none. -/
theorem scrapes_iff (ops : Ops σ) (concurrency : Nat) (g : Goroutine σ ρ τ) (snapshot : Table σ)
    (k : Handles) : (∃ s, Scrapes ops concurrency g snapshot k s) ↔
      0 < concurrency ∨ ∀ e ∈ snapshot, ops.skip e.2.state = true := by
  have hnil : goroutineIDs ops snapshot = [] ↔ ∀ e ∈ snapshot, ops.skip e.2.state = true := by
    rw [← List.map_eq_nil_iff (f := snapshot.get), map_get_goroutineIDs, List.filter_eq_nil_iff]
    simp only [Bool.not_eq_true', Bool.not_eq_false]
  constructor
  · rintro ⟨s, sched, p, hrun, hjoined, _⟩
    by_cases hcap : 0 < concurrency
    · exact .inl hcap
    · obtain rfl : concurrency = 0 := by omega
      exact .inr (hnil.mp (eq_nil_of_no_permit goroutineIDs_nodup sched hrun hjoined))
  · rintro (hcap | hskip)
    · have hinv : Inv (goroutines g snapshot) concurrency (goroutineIDs ops snapshot) _ _
          (goroutineStart ops snapshot k) := inv_start goroutineIDs_nodup
      rcases exists_joined goroutineIDs_nodup hcap hinv with ⟨sched, p, hrun, hjoined⟩
      exact ⟨_, sched, p, hrun, hjoined, rfl⟩
    · exact ⟨_, [], _, rfl, ⟨hnil.mpr hskip, rfl⟩, rfl⟩

/-- A poll can come to an end. -/
theorem exists_polls (ops : Ops σ) (hcap : 0 < concurrency) (g : Goroutine σ ρ τ) (cfg : Filters)
    (env : Env σ ρ) (table : Table σ) (k : Handles) :
    ∃ s, Polls ops concurrency g cfg env table k s := by
  rcases (scrapes_iff ops concurrency g (refreshTable ops cfg env table k).1
    (refreshTable ops cfg env table k).2).mpr (.inl hcap) with ⟨s, hscrapes⟩
  exact ⟨s, _, List.Perm.refl _, hscrapes⟩

end Waiting

end Poll

end LatencyExporter
