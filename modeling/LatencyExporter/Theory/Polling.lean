import LatencyExporter.Core.Poll
import Mathlib.Data.List.Nodup

/-!
# The Loops of a Poll

What each loop of a poll does to the table, and that each keeps the handles in
balance. Everything about polls is derived from these statements.

The departure loop keeps the entries of active containers as they are. A round
of the connect loop does one of three things (`ConnectRound`), and what the loop
does follows from that by induction: it appends an entry for each container that
is not in the table yet and that some target connects to. The scrapes act on
each entry by itself, so the order in which they report shows in the order of
the results and in nothing else.

The clients in the table are the handles the collector holds. A connection is
closed exactly when it leaves the table, or when it never gets into it, so the
invariant `TableOk` needs no memory of what happened before.

## Main definitions

* `keys`, `clients`: The container IDs and the handles of a table.
* `Connects`: A target that a connection is made for.
* `ConnectRound`: What a round of the connect loop does.
* `Admits`: A poll that connects to a container.
* `survivor`, `resultOf`, `fails`: A scrape by its effects.
* `WellBehaved`: What the loops rely on.
* `TableOk`: The invariant of a table.

## Theorems

* `departLoop_table`, `TableOk.departLoop`: The departure loop.
* `connectLoop_cons`: A round of the connect loop.
* `TableOk.connectLoop`, `subset_connectLoop`, `mem_connectLoop`,
  `connectLoop_complete`: The connect loop.
* `scrapeLoop_eq`, `TableOk.scrapeLoop`: The scrapes.
* `mem_refreshTable`, `mem_keys_refreshTable`: The table when the scrapes start.
* `TableOk.poll`, `mem_poll`, `mem_activeIDs_of_mem_poll`: A whole poll.
* `TableOk.closeAll`: The shutdown.
-/

namespace LatencyExporter

namespace Poll

open Handles

variable {σ ρ : Type} {ops : Ops σ} {env : Env σ ρ} {table : Table σ} {k : Handles}

/-- The container IDs of a table. -/
def keys (table : Table σ) : List String := table.map Prod.fst

/-- The handles of a table. -/
def clients (table : Table σ) : List Nat := table.map fun e => e.2.client

/-- The second lookup and the connection succeed for a target. -/
def Connects (env : Env σ ρ) (t : Target) (state : σ) : Prop :=
  ∃ info, env.findComputePIDAgain t.pod.podName t.pod.ns = .ok info ∧
    env.connectVM t.pod info.pid = .ok state

/-- What the loops rely on: a new connection is open, and a scrape does not
    change whether its connection is. -/
structure WellBehaved (ops : Ops σ) (env : Env σ ρ) : Prop where
  connect_open : ∀ pod pid state, env.connectVM pod pid = .ok state → ops.closed state = false
  scrape_closed : ∀ id state, ops.closed (env.scrape id state).state = ops.closed state

/-- The invariant of a table and the handles: one entry for a container, all
    connections open, and the clients in the table are what is held. -/
structure TableOk (ops : Ops σ) (table : Table σ) (k : Handles) : Prop where
  keys_nodup : (keys table).Nodup
  all_open : ∀ e ∈ table, ops.closed e.2.state = false
  balanced : Balanced k (clients table) []

theorem mem_keys_of_mem {e : String × Conn σ} (he : e ∈ table) : e.1 ∈ keys table :=
  List.mem_map_of_mem he

theorem tableOk_empty : TableOk ops [] empty :=
  ⟨List.nodup_nil, fun _ he => absurd he List.not_mem_nil, balanced_empty⟩

/-- The order of the table, which a Go map does not have, plays no role. -/
theorem TableOk.perm (hok : TableOk ops table k) {table' : Table σ} (hperm : table'.Perm table) :
    TableOk ops table' k :=
  ⟨(hperm.map _).nodup_iff.mpr hok.keys_nodup, fun e he => hok.all_open e (hperm.mem_iff.mp he),
    hok.balanced.perm (hperm.map _)⟩

/-- Closing a connection that is open closes its client. -/
theorem closeConn_of_open (conn : Conn σ) (k : Handles) (hopen : ops.closed conn.state = false) :
    closeConn ops conn k = k.closeAll [conn.client] := by
  rw [closeConn, hopen]
  rfl

section Departure

/-- The departure loop keeps the entries of active containers. -/
theorem departLoop_table (active : List String) (table : Table σ) (k : Handles) :
    (departLoop ops active table k).1 = table.filter fun e => e.1 ∈ active := by
  induction table generalizing k with
  | nil => rfl
  | cons e table ih =>
      rcases e with ⟨id, conn⟩
      rw [departLoop]
      by_cases hactive : id ∈ active
      · rw [if_pos hactive, List.filter_cons_of_pos (by simpa using hactive)]
        exact congrArg _ (ih k)
      · rw [if_neg hactive, List.filter_cons_of_neg (by simpa using hactive)]
        exact ih _

/-- The departure loop closes what it removes. -/
theorem departLoop_balanced (active : List String) (table : Table σ) (held : List Nat)
    (hopen : ∀ e ∈ table, ops.closed e.2.state = false) (k : Handles)
    (hbal : Balanced k (clients table ++ held) []) :
    Balanced (departLoop ops active table k).2
      (clients (departLoop ops active table k).1 ++ held) [] := by
  -- What is held besides grows by the entries that are kept, so it is generalised.
  induction table generalizing held k with
  | nil => exact hbal
  | cons e table ih =>
      rcases e with ⟨id, conn⟩
      have hrest := fun e he => hopen e (List.mem_cons_of_mem _ he)
      rw [departLoop]
      by_cases hactive : id ∈ active
      · -- The kept client is held besides those of the rest of the table.
        rw [if_pos hactive]
        have hswap : Balanced k (clients table ++ (conn.client :: held)) [] :=
          hbal.perm List.perm_middle
        exact (ih (conn.client :: held) hrest k hswap).perm List.perm_middle.symm
      · -- A container that is gone: its client is closed and no longer in the table.
        rw [if_neg hactive, closeConn_of_open conn k (hopen _ List.mem_cons_self)]
        exact ih held hrest _ (balanced_closeAll [conn.client] hbal)

theorem departLoop_keys_nodup (active : List String) (hnodup : (keys table).Nodup) :
    (keys (departLoop ops active table k).1).Nodup := by
  rw [departLoop_table]
  exact hnodup.sublist (List.filter_sublist.map _)

/-- Removing and closing entries keeps the invariant. -/
theorem TableOk.departLoop (hok : TableOk ops table k) (active : List String) :
    TableOk ops (departLoop ops active table k).1 (departLoop ops active table k).2 := by
  have hbal := departLoop_balanced active table [] hok.all_open k
    (by rw [List.append_nil]; exact hok.balanced)
  rw [List.append_nil] at hbal
  refine ⟨departLoop_keys_nodup active hok.keys_nodup, ?_, hbal⟩
  rw [departLoop_table]
  exact fun e he => hok.all_open e (List.mem_of_mem_filter he)

end Departure

section Connect

variable {existing : List String} {t : Target}

/-- A round of the connect loop makes no connection, makes one that turns out
    to be a duplicate and is closed, or makes one and stores it. -/
inductive ConnectRound (ops : Ops σ) (env : Env σ ρ) (existing : List String) (t : Target)
    (table : Table σ) (k : Handles) : Table σ × Handles → Prop
  | none (hnone : t.containerID ∉ existing → ∀ state, ¬ Connects env t state) :
      ConnectRound ops env existing t table k (table, k)
  | duplicate (state : σ) (hconn : Connects env t state) (hdup : t.containerID ∈ keys table) :
      ConnectRound ops env existing t table k
        (table, closeConn ops { client := k.next, state := state } k.acquire.2)
  | stored (state : σ) (hnew : t.containerID ∉ existing) (hconn : Connects env t state)
      (hfree : t.containerID ∉ keys table) :
      ConnectRound ops env existing t table k
        (table ++ [(t.containerID, { client := k.next, state := state })], k.acquire.2)

/-- The loop makes such a round for its first target and goes on with the rest. -/
theorem connectLoop_cons (ops : Ops σ) (env : Env σ ρ) (existing : List String) (t : Target)
    (targets : List Target) (table : Table σ) (k : Handles) :
    ∃ r, ConnectRound ops env existing t table k r ∧
      connectLoop ops env existing (t :: targets) table k
        = connectLoop ops env existing targets r.1 r.2 := by
  by_cases hexisting : t.containerID ∈ existing
  -- The container was in the table before the loop.
  · refine ⟨_, .none fun hnew => absurd hexisting hnew, ?_⟩
    rw [connectLoop, if_pos hexisting]
  · cases hinfo : env.findComputePIDAgain t.pod.podName t.pod.ns with
    -- The second lookup fails, and the target is passed over.
    | error err =>
        refine ⟨_, .none ?_, by rw [connectLoop, if_neg hexisting, hinfo]⟩
        rintro _ state ⟨info, hinfo', _⟩
        rw [hinfo] at hinfo'
        exact absurd hinfo' (by simp only [reduceCtorEq, not_false_eq_true])
    | ok info =>
        cases hstate : env.connectVM t.pod info.pid with
        | error err =>
            refine ⟨_, .none ?_, by simp only [connectLoop, if_neg hexisting, hinfo, hstate]⟩
            rintro _ state ⟨info', hinfo', hstate'⟩
            rw [hinfo, Except.ok.injEq] at hinfo'
            rw [← hinfo', hstate] at hstate'
            exact absurd hstate' (by simp only [reduceCtorEq, not_false_eq_true])
        | ok state =>
            have hconn : Connects env t state := ⟨info, hinfo, hstate⟩
            by_cases hdup : t.containerID ∈ keys table
            · -- Another target of this poll got there first.
              refine ⟨_, .duplicate state hconn hdup, ?_⟩
              simp only [connectLoop, if_neg hexisting, hinfo, hstate]
              exact if_pos hdup
            · refine ⟨_, .stored state hexisting hconn hdup, ?_⟩
              simp only [connectLoop, if_neg hexisting, hinfo, hstate]
              exact if_neg hdup

theorem Connects.closed_eq_false (hwb : WellBehaved ops env) {state : σ}
    (hconn : Connects env t state) : ops.closed state = false := by
  rcases hconn with ⟨info, _, hstate⟩
  exact hwb.connect_open _ _ _ hstate

/-- A round stores an entry only under a container ID that is free. -/
theorem ConnectRound.keys_nodup {r : Table σ × Handles}
    (hround : ConnectRound ops env existing t table k r) (hnodup : (keys table).Nodup) :
    (keys r.1).Nodup := by
  cases hround with
  | none => exact hnodup
  | duplicate => exact hnodup
  | stored state _ _ hfree =>
      change (keys (table ++ [_])).Nodup
      rw [keys, List.map_append, List.map_singleton]
      exact hnodup.append (List.nodup_singleton _) (List.disjoint_singleton.mpr hfree)

/-- A round keeps the invariant. -/
theorem ConnectRound.tableOk (hwb : WellBehaved ops env) {r : Table σ × Handles}
    (hround : ConnectRound ops env existing t table k r) (hok : TableOk ops table k) :
    TableOk ops r.1 r.2 := by
  have hnodup := hround.keys_nodup hok.keys_nodup
  cases hround with
  | none => exact hok
  | duplicate state hconn =>
      refine ⟨hok.keys_nodup, hok.all_open, ?_⟩
      -- The new handle is acquired and closed, so nothing is held besides.
      rw [closeConn_of_open _ _ (hconn.closed_eq_false hwb)]
      exact balanced_closeAll [k.next] (balanced_acquire hok.balanced)
  | stored state _ hconn =>
      refine ⟨hnodup, ?_, ?_⟩
      · intro e he
        rcases List.mem_append.mp he with he | he
        · exact hok.all_open e he
        · rw [List.mem_singleton.mp he]
          exact hconn.closed_eq_false hwb
      · -- The new handle is acquired and in the table.
        refine (balanced_acquire hok.balanced).perm ?_
        rw [clients, List.map_append]
        exact List.perm_append_singleton _ _

/-- A round removes nothing. -/
theorem ConnectRound.subset {r : Table σ × Handles}
    (hround : ConnectRound ops env existing t table k r) : table ⊆ r.1 := by
  cases hround with
  | none => exact List.Subset.refl _
  | duplicate => exact List.Subset.refl _
  | stored => exact List.subset_append_left _ _

theorem connectLoop_keys_nodup (targets : List Target) (hnodup : (keys table).Nodup) :
    (keys (connectLoop ops env existing targets table k).1).Nodup := by
  induction targets generalizing table k with
  | nil => exact hnodup
  | cons t targets ih =>
      rcases connectLoop_cons ops env existing t targets table k with ⟨r, hround, heq⟩
      rw [heq]
      exact ih (hround.keys_nodup hnodup)

/-- All rounds keep the invariant. -/
theorem TableOk.connectLoop (hwb : WellBehaved ops env) (targets : List Target)
    (hok : TableOk ops table k) :
    TableOk ops (connectLoop ops env existing targets table k).1
      (connectLoop ops env existing targets table k).2 := by
  induction targets generalizing table k with
  | nil => exact hok
  | cons t targets ih =>
      rcases connectLoop_cons ops env existing t targets table k with ⟨r, hround, heq⟩
      rw [heq]
      exact ih (hround.tableOk hwb hok)

/-- The connect loop removes nothing. -/
theorem subset_connectLoop (targets : List Target) (table : Table σ) (k : Handles) :
    table ⊆ (connectLoop ops env existing targets table k).1 := by
  induction targets generalizing table k with
  | nil => exact List.Subset.refl _
  | cons t targets ih =>
      rcases connectLoop_cons ops env existing t targets table k with ⟨r, hround, heq⟩
      rw [heq]
      exact List.Subset.trans hround.subset (ih r.1 r.2)

/-- Whatever the connect loop adds, some target connected to. -/
theorem mem_connectLoop (targets : List Target) (table : Table σ) (k : Handles)
    (e : String × Conn σ) (he : e ∈ (connectLoop ops env existing targets table k).1) :
    e ∈ table ∨
    ∃ t ∈ targets, t.containerID = e.1 ∧ e.1 ∉ existing ∧ Connects env t e.2.state := by
  induction targets generalizing table k with
  | nil => exact .inl he
  | cons t targets ih =>
      rcases connectLoop_cons ops env existing t targets table k with ⟨r, hround, heq⟩
      rw [heq] at he
      -- The entry was there after the first round, or a later target made it.
      rcases ih r.1 r.2 he with hmem | ⟨t', ht', hrest⟩
      · cases hround with
        | none => exact .inl hmem
        | duplicate => exact .inl hmem
        | stored state hnew hconn =>
            rcases List.mem_append.mp hmem with hmem | hmem
            · exact .inl hmem
            · rw [List.mem_singleton.mp hmem]
              exact .inr ⟨t, List.mem_cons_self, rfl, hnew, hconn⟩
      · exact .inr ⟨t', List.mem_cons_of_mem _ ht', hrest⟩

/-- The connect loop leaves out no container that a target connects to. -/
theorem connectLoop_complete (targets : List Target) (table : Table σ) (k : Handles)
    (ht : t ∈ targets) (hnew : t.containerID ∉ existing) {state : σ}
    (hconn : Connects env t state) :
    t.containerID ∈ keys (connectLoop ops env existing targets table k).1 := by
  induction targets generalizing table k with
  | nil => exact absurd ht List.not_mem_nil
  | cons t' targets ih =>
      rcases connectLoop_cons ops env existing t' targets table k with ⟨r, hround, heq⟩
      rw [heq]
      rcases List.mem_cons.mp ht with rfl | ht
      · -- Once in the table, the container stays there.
        refine List.map_subset _ (subset_connectLoop targets r.1 r.2) ?_
        cases hround with
        | none hnone => exact absurd hconn (hnone hnew state)
        | duplicate _ _ hdup => exact hdup
        | stored =>
            exact List.mem_map_of_mem (List.mem_append_right _ (List.mem_singleton.mpr rfl))
      · exact ih r.1 r.2 ht

end Connect

section Scrape

variable {scrape : String → σ → Outcome σ ρ}

/-- What is left of an entry after the scrapes. -/
def survivor (ops : Ops σ) (scrape : String → σ → Outcome σ ρ) (e : String × Conn σ) :
    Option (String × Conn σ) :=
  if ops.skip e.2.state then some e
  else if (scrape e.1 e.2.state).drop then none
  else some (e.1, { e.2 with state := (scrape e.1 e.2.state).state })

/-- The result of the scrape of an entry. -/
def resultOf (ops : Ops σ) (scrape : String → σ → Outcome σ ρ) (e : String × Conn σ) : Option ρ :=
  if ops.skip e.2.state then none else (scrape e.1 e.2.state).result

/-- The entry is scraped and that fails. -/
def fails (ops : Ops σ) (scrape : String → σ → Outcome σ ρ) (e : String × Conn σ) : Bool :=
  !ops.skip e.2.state && (scrape e.1 e.2.state).failed

/-- The scrapes act on each entry by itself. -/
theorem scrapeLoop_eq (snapshot : Table σ) (k : Handles) :
    (scrapeLoop ops scrape snapshot k).table = snapshot.filterMap (survivor ops scrape) ∧
    (scrapeLoop ops scrape snapshot k).results = snapshot.filterMap (resultOf ops scrape) ∧
    (scrapeLoop ops scrape snapshot k).scrapeErrors = snapshot.countP (fails ops scrape) ∧
    (scrapeLoop ops scrape snapshot k).scraped
      = keys (snapshot.filter fun e => !ops.skip e.2.state) := by
  -- The handles change from entry to entry, so they are generalised.
  induction snapshot generalizing k with
  | nil => exact ⟨rfl, rfl, rfl, rfl⟩
  | cons e snapshot ih =>
      rcases e with ⟨id, conn⟩
      cases hskip : ops.skip conn.state with
      | true =>
          rcases ih k with ⟨htable, hresults, herrors, hscraped⟩
          have hres : resultOf ops scrape (id, conn) = none := by rw [resultOf, hskip]; rfl
          -- A skipped entry stays as it is, and counts for nothing.
          simp only [scrapeLoop, hskip, if_true]
          refine ⟨?_, ?_, ?_, ?_⟩
          · rw [htable, List.filterMap_cons_some (by rw [survivor, hskip, if_pos rfl])]
          · rw [hresults, List.filterMap_cons_none hres]
          · rw [herrors, List.countP_cons_of_neg (by simp [fails, hskip])]
          · rw [hscraped, List.filter_cons_of_neg (by simp [hskip])]
      | false =>
          -- The handles are not looked at by what is claimed here.
          rcases ih (if (scrape id conn.state).drop
              then closeConn ops { conn with state := (scrape id conn.state).state } k else k)
            with ⟨htable, hresults, herrors, hscraped⟩
          have hres : resultOf ops scrape (id, conn) = (scrape id conn.state).result := by
            rw [resultOf, hskip]
            rfl
          have hfails : fails ops scrape (id, conn) = (scrape id conn.state).failed := by
            rw [fails, hskip]
            rfl
          simp only [scrapeLoop, hskip, Bool.false_eq_true, if_false]
          refine ⟨?_, ?_, ?_, ?_⟩
          · rw [htable, List.filterMap_cons, survivor, hskip]
            cases (scrape id conn.state).drop <;> rfl
          · rw [hresults, List.filterMap_cons, hres]
            cases (scrape id conn.state).result <;> rfl
          · rw [herrors, List.countP_cons, hfails]
          · rw [hscraped, List.filter_cons_of_pos (by simp [hskip])]
            rfl

/-- A scrape changes neither the container nor the client of its entry. -/
theorem survivor_key {e e' : String × Conn σ} (hsurv : survivor ops scrape e = some e') :
    e'.1 = e.1 ∧ e'.2.client = e.2.client := by
  simp only [survivor] at hsurv
  split at hsurv
  · rw [← Option.some.inj hsurv]
    exact ⟨rfl, rfl⟩
  · split at hsurv
    · exact absurd hsurv (by simp only [reduceCtorEq, not_false_eq_true])
    · rw [← Option.some.inj hsurv]
      exact ⟨rfl, rfl⟩

/-- What no scrape changes, the scrapes do not change. -/
theorem survivor_frame {β : Type} {f : σ → β}
    (hf : ∀ id state, f (scrape id state).state = f state) {e e' : String × Conn σ}
    (hsurv : survivor ops scrape e = some e') : f e'.2.state = f e.2.state := by
  simp only [survivor] at hsurv
  split at hsurv
  · rw [← Option.some.inj hsurv]
  · split at hsurv
    · exact absurd hsurv (by simp only [reduceCtorEq, not_false_eq_true])
    · rw [← Option.some.inj hsurv]
      exact hf e.1 e.2.state

/-- A scrape that fails may drop its connection, and then closes it. -/
theorem scrapeLoop_balanced
    (hclosed : ∀ id state, ops.closed (scrape id state).state = ops.closed state)
    (snapshot : Table σ) (held : List Nat)
    (hopen : ∀ e ∈ snapshot, ops.closed e.2.state = false) (k : Handles)
    (hbal : Balanced k (clients snapshot ++ held) []) :
    Balanced (scrapeLoop ops scrape snapshot k).handles
      (clients (scrapeLoop ops scrape snapshot k).table ++ held) [] := by
  induction snapshot generalizing held k with
  | nil => exact hbal
  | cons e snapshot ih =>
      rcases e with ⟨id, conn⟩
      have hrest := fun e he => hopen e (List.mem_cons_of_mem _ he)
      have hswap : Balanced k (clients snapshot ++ (conn.client :: held)) [] :=
        hbal.perm List.perm_middle
      -- Whatever becomes of this entry, the rest of the table is balanced with its
      -- client held or closed.
      have hkept := (ih (conn.client :: held) hrest k hswap).perm List.perm_middle.symm
      have hdropped := ih held hrest _ (balanced_closeAll [conn.client] hbal)
      cases hskip : ops.skip conn.state with
      | true =>
          simp only [scrapeLoop, hskip, if_true]
          exact hkept
      | false =>
          have hopen' : ops.closed (scrape id conn.state).state = false := by
            rw [hclosed]
            exact hopen _ List.mem_cons_self
          simp only [scrapeLoop, hskip, Bool.false_eq_true, if_false]
          cases hdrop : (scrape id conn.state).drop with
          | true =>
              simp only [if_true]
              rw [closeConn_of_open _ _ hopen']
              exact hdropped
          | false => exact hkept

/-- The scrapes only drop entries. -/
theorem scrapeLoop_keys_nodup (hnodup : (keys table).Nodup) :
    (keys (scrapeLoop ops scrape table k).table).Nodup := by
  rw [(scrapeLoop_eq table k).1]
  refine List.pairwise_map.mpr ((List.pairwise_map.mp hnodup).filterMap _ ?_)
  intro e e' hne d hd d' hd'
  rw [(survivor_key hd).1, (survivor_key hd').1]
  exact hne

/-- The scrapes keep the invariant, as they close what they drop. -/
theorem TableOk.scrapeLoop
    (hclosed : ∀ id state, ops.closed (scrape id state).state = ops.closed state)
    (hok : TableOk ops table k) :
    TableOk ops (scrapeLoop ops scrape table k).table (scrapeLoop ops scrape table k).handles := by
  have hbal := scrapeLoop_balanced hclosed table [] hok.all_open k
    (by rw [List.append_nil]; exact hok.balanced)
  rw [List.append_nil] at hbal
  refine ⟨scrapeLoop_keys_nodup hok.keys_nodup, ?_, hbal⟩
  rw [(scrapeLoop_eq table k).1]
  intro e he
  rcases List.mem_filterMap.mp he with ⟨e', he', hsurv⟩
  rw [survivor_frame hclosed hsurv]
  exact hok.all_open e' he'

end Scrape

section Cycle

variable (cfg : Filters)

/-- The pods a poll selects are different pods. -/
theorem selectPods_nodup (store : PodStore) :
    ((selectPods cfg store).map fun pod => (pod.ns, pod.podName)).Nodup := by
  have hselect : ∀ obj pod, selectPod cfg obj = some pod →
      ∃ p ∈ obj, (pod.ns, pod.podName) = (p.ns, p.name) := by
    intro obj pod hpod
    cases obj with
    | none => exact absurd hpod (by simp only [selectPod, reduceCtorEq, not_false_eq_true])
    | some p =>
        refine ⟨p, rfl, ?_⟩
        simp only [selectPod, Option.ite_none_left_eq_some, Option.some.injEq] at hpod
        rw [← hpod.2.2.2.2.2]
  -- The pods of the store have different names, and selecting keeps the names.
  have hunique := List.pairwise_filterMap.mp (List.pairwise_map.mp store.unique)
  refine List.pairwise_map.mpr (List.pairwise_filterMap.mpr (hunique.imp ?_))
  intro obj obj' hne pod hpod pod' hpod'
  rcases hselect obj pod hpod with ⟨p, hp, heq⟩
  rcases hselect obj' pod' hpod' with ⟨p', hp', heq'⟩
  rw [heq, heq']
  exact hne p hp p' hp'

/-- The targets are the selected pods whose container is found. -/
theorem mem_findTargets {findComputePID : FindComputePID} {pods : List PodInfo} {t : Target} :
    t ∈ findTargets findComputePID pods ↔
      t.pod ∈ pods ∧ ∃ info, findComputePID t.pod.podName t.pod.ns = .ok info ∧
        t.containerID = info.containerID := by
  rw [findTargets, List.mem_filterMap]
  constructor
  · rintro ⟨pod, hpod, hlookup⟩
    split at hlookup
    · exact absurd hlookup (by simp only [reduceCtorEq, not_false_eq_true])
    · next info hinfo =>
        rw [← Option.some.inj hlookup]
        exact ⟨hpod, info, hinfo, rfl⟩
  · rintro ⟨hpod, info, hinfo, hid⟩
    refine ⟨t.pod, hpod, ?_⟩
    -- The lookup that found the container made this target.
    simp only [hinfo, ← hid]

/-- The active containers are those found for the selected pods. -/
theorem mem_activeIDs {id : String} :
    id ∈ activeIDs cfg env ↔
      ∃ pod ∈ selectPods cfg env.podStore, ∃ info,
        env.findComputePID pod.podName pod.ns = .ok info ∧ info.containerID = id := by
  rw [activeIDs, List.mem_map]
  constructor
  · rintro ⟨t, ht, rfl⟩
    rcases mem_findTargets.mp ht with ⟨hpod, info, hinfo, hid⟩
    exact ⟨t.pod, hpod, info, hinfo, hid.symm⟩
  · rintro ⟨pod, hpod, info, hinfo, hid⟩
    refine ⟨{ pod := pod, containerID := id }, ?_, rfl⟩
    exact mem_findTargets.mpr ⟨hpod, info, hinfo, hid.symm⟩

/-- A poll admits a container: a pod with it is selected, both lookups succeed
    and so does the connection, which starts in the given state. -/
def Admits (cfg : Filters) (env : Env σ ρ) (id : String) (pod : PodInfo) (state : σ) : Prop :=
  pod ∈ selectPods cfg env.podStore ∧
  (∃ info, env.findComputePID pod.podName pod.ns = .ok info ∧ info.containerID = id) ∧
  Connects env { pod := pod, containerID := id } state

theorem refreshTable_keys_nodup (hnodup : (keys table).Nodup) :
    (keys (refreshTable ops cfg env table k).1).Nodup :=
  connectLoop_keys_nodup _ (departLoop_keys_nodup _ hnodup)

/-- The first half of a poll keeps the invariant. -/
theorem TableOk.refreshTable (hwb : WellBehaved ops env) (hok : TableOk ops table k) :
    TableOk ops (refreshTable ops cfg env table k).1 (refreshTable ops cfg env table k).2 :=
  (hok.departLoop (activeIDs cfg env)).connectLoop hwb _

/-- When the scrapes start, an entry is an old one of an active container or a
    new one of a container that had none. -/
theorem mem_refreshTable {e : String × Conn σ} (he : e ∈ (refreshTable ops cfg env table k).1) :
    (e ∈ table ∧ e.1 ∈ activeIDs cfg env) ∨
    (e.1 ∉ keys table ∧ ∃ pod, Admits cfg env e.1 pod e.2.state) := by
  rcases mem_connectLoop _ _ _ e he with hmem | ⟨t, ht, hid, hnew, hconn⟩
  · rw [departLoop_table, List.mem_filter, decide_eq_true_eq] at hmem
    exact .inl hmem
  · rcases mem_findTargets.mp ht with ⟨hpod, info, hinfo, hid'⟩
    refine .inr ⟨?_, t.pod, hpod, ⟨info, hinfo, hid'.symm.trans hid⟩, hconn⟩
    -- An old entry of this container would have been kept.
    intro hold
    rcases List.mem_map.mp hold with ⟨e', he', hkey⟩
    refine hnew (List.mem_map.mpr ⟨e', ?_, hkey⟩)
    rw [departLoop_table, List.mem_filter, decide_eq_true_eq, hkey, ← hid]
    exact ⟨he', List.mem_map_of_mem ht⟩

/-- When the scrapes start, the table has active containers. -/
theorem mem_activeIDs_of_mem_refreshTable {e : String × Conn σ}
    (he : e ∈ (refreshTable ops cfg env table k).1) : e.1 ∈ activeIDs cfg env := by
  rcases mem_refreshTable cfg he with ⟨_, hactive⟩ | ⟨_, pod, hpod, hinfo, _⟩
  · exact hactive
  · exact (mem_activeIDs cfg).mpr ⟨pod, hpod, hinfo⟩

/-- An old entry of an active container is kept as it is. -/
theorem mem_refreshTable_of_mem {e : String × Conn σ} (he : e ∈ table)
    (hactive : e.1 ∈ activeIDs cfg env) : e ∈ (refreshTable ops cfg env table k).1 := by
  refine subset_connectLoop _ _ _ ?_
  rw [departLoop_table, List.mem_filter, decide_eq_true_eq]
  exact ⟨he, hactive⟩

/-- A container that is admitted has an entry when the scrapes start. -/
theorem mem_keys_refreshTable_of_admits {id : String} {pod : PodInfo} {state : σ}
    (hadmits : Admits cfg env id pod state) : id ∈ keys (refreshTable ops cfg env table k).1 := by
  rcases hadmits with ⟨hpod, ⟨info, hinfo, hid⟩, hconn⟩
  have ht : { pod := pod, containerID := id }
      ∈ findTargets env.findComputePID (selectPods cfg env.podStore) :=
    mem_findTargets.mpr ⟨hpod, info, hinfo, hid.symm⟩
  -- The container may have been in the table all along.
  by_cases hexisting : id ∈ keys (departLoop ops (activeIDs cfg env) table k).1
  · exact List.map_subset _ (subset_connectLoop _ _ _) hexisting
  · exact connectLoop_complete _ _ _ ht hexisting hconn

/-- The keys of the table when the scrapes start. -/
theorem mem_keys_refreshTable {id : String} :
    id ∈ keys (refreshTable ops cfg env table k).1 ↔
      (id ∈ keys table ∧ id ∈ activeIDs cfg env) ∨ ∃ pod state, Admits cfg env id pod state := by
  constructor
  · intro hid
    rcases List.mem_map.mp hid with ⟨e, he, rfl⟩
    rcases mem_refreshTable cfg he with ⟨hmem, hactive⟩ | ⟨_, pod, hadmits⟩
    · exact .inl ⟨mem_keys_of_mem hmem, hactive⟩
    · exact .inr ⟨pod, _, hadmits⟩
  · rintro (⟨hid, hactive⟩ | ⟨pod, state, hadmits⟩)
    · rcases List.mem_map.mp hid with ⟨e, he, rfl⟩
      exact mem_keys_of_mem (mem_refreshTable_of_mem cfg he hactive)
    · exact mem_keys_refreshTable_of_admits cfg hadmits

/-- A poll leaves one entry for a container. -/
theorem poll_keys_nodup (hnodup : (keys table).Nodup) :
    (keys (poll ops cfg env table k).table).Nodup := by
  refine scrapeLoop_keys_nodup (((env.arrange_perm _).map _).nodup_iff.mpr ?_)
  exact refreshTable_keys_nodup cfg hnodup

/-- A poll keeps the invariant. -/
theorem TableOk.poll (hwb : WellBehaved ops env) (hok : TableOk ops table k) :
    TableOk ops (poll ops cfg env table k).table (poll ops cfg env table k).handles :=
  ((hok.refreshTable cfg hwb).perm (env.arrange_perm _)).scrapeLoop hwb.scrape_closed

/-- After a poll, an entry is what is left of one the scrapes started with. -/
theorem mem_poll {e : String × Conn σ} :
    e ∈ (poll ops cfg env table k).table ↔
      ∃ e' ∈ (refreshTable ops cfg env table k).1, survivor ops env.scrape e' = some e := by
  rw [poll, (scrapeLoop_eq _ _).1, List.mem_filterMap]
  simp only [(env.arrange_perm _).mem_iff]

/-- The results of a poll, in the order in which the scrapes report. -/
theorem poll_results :
    (poll ops cfg env table k).results
      = (env.arrange (refreshTable ops cfg env table k).1).filterMap (resultOf ops env.scrape) :=
  (scrapeLoop_eq _ _).2.1

/-- A poll scrapes the entries that are not to be skipped. -/
theorem mem_scraped {id : String} :
    id ∈ (poll ops cfg env table k).scraped ↔
      ∃ conn, (id, conn) ∈ (refreshTable ops cfg env table k).1 ∧ ops.skip conn.state = false := by
  rw [poll, (scrapeLoop_eq _ _).2.2.2, keys, List.mem_map]
  simp only [List.mem_filter, (env.arrange_perm _).mem_iff, Bool.not_eq_eq_eq_not, Bool.not_true,
    Prod.exists, exists_and_right, exists_eq_right]

/-- After a poll, the table has containers that were active in it. -/
theorem mem_activeIDs_of_mem_poll {id : String}
    (hid : id ∈ keys (poll ops cfg env table k).table) : id ∈ activeIDs cfg env := by
  rcases List.mem_map.mp hid with ⟨e, he, rfl⟩
  rcases (mem_poll cfg).mp he with ⟨e', he', hsurv⟩
  rw [(survivor_key hsurv).1]
  exact mem_activeIDs_of_mem_refreshTable cfg he'

/-- The shutdown empties the table and closes what was in it. -/
theorem TableOk.closeAll (hok : TableOk ops table k) :
    (closeAll ops table k).1 = [] ∧ (closeAll ops table k).2.ClosedOnce := by
  suffices hall : ∀ (table : Table σ) (k : Handles),
      (∀ e ∈ table, ops.closed e.2.state = false) → Balanced k (clients table) [] →
      (Poll.closeAll ops table k).1 = [] ∧ Balanced (Poll.closeAll ops table k).2 [] [] by
    rcases hall table k hok.all_open hok.balanced with ⟨hnil, hbal⟩
    exact ⟨hnil, hbal.closedOnce_iff.mpr rfl⟩
  -- Half way through, the keys are no longer needed, and the rest is still held.
  intro table
  induction table with
  | nil => exact fun k _ hbal => ⟨rfl, hbal⟩
  | cons e table ih =>
      intro k hopen hbal
      rw [Poll.closeAll, closeConn_of_open _ _ (hopen e List.mem_cons_self)]
      exact ih _ (fun e he => hopen e (List.mem_cons_of_mem _ he))
        (balanced_closeAll [e.2.client] hbal)

end Cycle

/-- A store with one pod, of the machine `vm`. -/
def onePodStore : PodStore where
  objects :=
    [some
      { ns := "ns", name := "pod", phase := .running,
        labels := fun l => if l = "kubevirt.io" then "virt-launcher" else "vm" }]
  unique := List.nodup_singleton _

/-- A running pod of a machine of the same name. -/
def launcherPod (name : String) : Pod where
  ns := "ns"
  name := name
  phase := .running
  labels := fun l => if l = "kubevirt.io" then "virt-launcher" else name

/-- A store with three pods. -/
def threePodStore : PodStore where
  objects := [some (launcherPod "pod"), some (launcherPod "pod-b"), some (launcherPod "pod-c")]
  unique := by decide +kernel

/-- The scrapes report in the order of the table. -/
def tableOrder (table : Table σ) : Table σ := table

theorem tableOrder_perm (table : Table σ) : (tableOrder table).Perm table := List.Perm.refl table

/-- A configuration that filters nothing. -/
def noFilters : Filters := { namespaces := [], labelFilter := "" }

theorem selectPods_onePodStore :
    selectPods noFilters onePodStore = [{ ns := "ns", podName := "pod", vmiName := "vm" }] := by
  decide +kernel

theorem selectPods_threePodStore :
    selectPods noFilters threePodStore
      = ["pod", "pod-b", "pod-c"].map fun name =>
          { ns := "ns", podName := name, vmiName := name } := by
  decide +kernel

end Poll

end LatencyExporter
