import LatencyExporter.Theory.Lifecycle

/-!
# How Long a Machine Stays Excluded

A machine that the guest agent collector has given up on is passed over by later
polls. The decision is a flag of its entry in the table, and the entry lives no
longer than the departure loop lets it: a poll whose lookups do not report the
container removes the entry, flag and all. A later poll that reports the
container again makes a new entry, and starts over.

For a container there are therefore two excluded situations, an entry with the
flag and no entry at all. The lemmas say what a poll does in each, and the
theorem about runs follows by induction: the machine is asked again exactly if a
poll that does not report it is followed, sooner or later, by one that admits
it.

A lookup that fails is enough for a poll not to report a container, though its
pod is running and selected all the time.

## Main definitions

* `Reports`: A poll whose lookups find a container.
* `Readmits`: A poll that would connect to a container.
* `runExecs`: The `guest-exec` commands of a run.

## Theorems

* `stopped_of_reports`, `absent_of_not_reports`: Polls with an entry.
* `mem_guestExecs_of_readmits`, `absent_of_not_readmits`: Polls without one.
* `exclusion_lasts_iff`: When a run leaves a machine excluded.
* `failed_lookup_readmits`: A run that does not.
-/

namespace LatencyExporter

namespace Qga

variable (filters : Poll.Filters) (cfg : CollectorConfig)

/-- A selected pod has the container, by the first lookups of a poll. -/
def Reports (w : World) (id : String) : Prop :=
  ∃ pod ∈ Poll.selectPods filters w.podStore, ∃ info,
    w.findComputePID pod.podName pod.ns = .ok info ∧ info.containerID = id

/-- Such a pod is found by the second lookup too, and can be connected to. -/
def Readmits (w : World) (id : String) : Prop :=
  ∃ pod ∈ Poll.selectPods filters w.podStore,
    (∃ info, w.findComputePID pod.podName pod.ns = .ok info ∧ info.containerID = id) ∧
    ∃ again, w.findComputePIDAgain pod.podName pod.ns = .ok again ∧ Reachable w pod again.pid

/-- The container IDs for which the polls of a run issue a `guest-exec`. -/
def runExecs : Collector → List World → List String
  | _, [] => []
  | c, w :: ws => (poll filters cfg c w).guestExecs ++ runExecs (poll filters cfg c w) ws

variable (c : Collector) (w : World) {id : String}

theorem admits_iff (vs : VmState) (pod : Poll.PodInfo) :
    Poll.Admits filters (w.env cfg) id pod vs ↔
      pod ∈ Poll.selectPods filters w.podStore ∧
      (∃ info, w.findComputePID pod.podName pod.ns = .ok info ∧ info.containerID = id) ∧
      ∃ again, w.findComputePIDAgain pod.podName pod.ns = .ok again ∧ Reachable w pod again.pid ∧
        vs = freshState w pod := by
  simp only [Poll.Admits, Poll.Connects, ← connectVM_ok_iff]
  rfl

theorem mem_guestExecs_iff :
    id ∈ (poll filters cfg c w).guestExecs ↔
      ∃ conn, (id, conn) ∈ (Poll.refreshTable pollOps filters (w.env cfg) c.vms c.handles).1 ∧
        conn.state.stopped = false ∧ conn.state.closed = false := by
  refine (Poll.mem_scraped filters).trans ?_
  simp only [pollOps, Bool.or_eq_false_iff]

/-- An entry with the flag is passed over and kept by a poll that reports its
    container. -/
theorem stopped_of_reports (hmap : (Poll.keys c.vms).Nodup) {conn : Poll.Conn VmState}
    (hmem : (id, conn) ∈ c.vms) (hstopped : conn.state.stopped = true)
    (hreports : Reports filters w id) :
    id ∉ (poll filters cfg c w).guestExecs ∧ (id, conn) ∈ (poll filters cfg c w).vms := by
  have hkept : (id, conn)
      ∈ (Poll.refreshTable pollOps filters (w.env cfg) c.vms c.handles).1 :=
    Poll.mem_refreshTable_of_mem filters hmem ((Poll.mem_activeIDs filters).mpr hreports)
  refine ⟨?_, ?_⟩
  · rw [mem_guestExecs_iff]
    rintro ⟨conn', hmem', hstopped', _⟩
    -- The container has one entry, which has the flag.
    have heq := List.inj_on_of_nodup_map (Poll.refreshTable_keys_nodup filters hmap) hmem' hkept rfl
    rw [Prod.mk.injEq] at heq
    rw [heq.2, hstopped] at hstopped'
    exact absurd hstopped' (by simp only [reduceCtorEq, not_false_eq_true])
  -- Being skipped, it comes out of the scrapes unchanged.
  · refine (Poll.mem_poll filters).mpr ⟨_, hkept, ?_⟩
    simp only [Poll.survivor, pollOps, hstopped, Bool.true_or, if_true]

/-- A poll that does not report a container leaves no entry of it. -/
theorem absent_of_not_reports (hreports : ¬ Reports filters w id) :
    id ∉ (poll filters cfg c w).guestExecs ∧ id ∉ Poll.keys (poll filters cfg c w).vms := by
  refine ⟨?_, fun hmem => hreports ?_⟩
  · rw [mem_guestExecs_iff]
    rintro ⟨conn, hmem, _⟩
    exact hreports ((Poll.mem_activeIDs filters).mp
      (Poll.mem_activeIDs_of_mem_refreshTable filters hmem))
  · exact (Poll.mem_activeIDs filters).mp (Poll.mem_activeIDs_of_mem_poll filters hmem)

/-- Without an entry, a poll that admits the container asks its machine. -/
theorem mem_guestExecs_of_readmits (habsent : id ∉ Poll.keys c.vms)
    (hreadmits : Readmits filters w id) : id ∈ (poll filters cfg c w).guestExecs := by
  rcases hreadmits with ⟨pod, hpod, hinfo, again, hagain, hreach⟩
  have hadmits : Poll.Admits filters (w.env cfg) id pod (freshState w pod) :=
    (admits_iff filters cfg w _ pod).mpr ⟨hpod, hinfo, again, hagain, hreach, rfl⟩
  have hkey : id
      ∈ Poll.keys (Poll.refreshTable pollOps filters (w.env cfg) c.vms c.handles).1 :=
    Poll.mem_keys_refreshTable_of_admits filters hadmits
  rcases List.mem_map.mp hkey with ⟨⟨id', conn⟩, hmem, rfl⟩
  refine (mem_guestExecs_iff filters cfg c w).mpr ⟨conn, hmem, ?_⟩
  -- The entry is a new one, and those do not have the flag.
  rcases Poll.mem_refreshTable filters hmem with ⟨hold, _⟩ | ⟨_, pod', hadmits'⟩
  · exact absurd (Poll.mem_keys_of_mem hold) habsent
  · rcases (admits_iff filters cfg w _ pod').mp hadmits' with ⟨_, _, _, _, _, hfresh⟩
    rw [hfresh]
    exact ⟨rfl, rfl⟩

/-- Without an entry, a poll that does not admit the container changes nothing. -/
theorem absent_of_not_readmits (habsent : id ∉ Poll.keys c.vms)
    (hreadmits : ¬ Readmits filters w id) :
    id ∉ (poll filters cfg c w).guestExecs ∧ id ∉ Poll.keys (poll filters cfg c w).vms := by
  have hrefreshed : id
      ∉ Poll.keys (Poll.refreshTable pollOps filters (w.env cfg) c.vms c.handles).1 := by
    rw [Poll.mem_keys_refreshTable]
    rintro (⟨hold, _⟩ | ⟨pod, vs, hadmits⟩)
    · exact habsent hold
    · rcases (admits_iff filters cfg w vs pod).mp hadmits
        with ⟨hpod, hinfo, again, hagain, hreach, _⟩
      exact hreadmits ⟨pod, hpod, hinfo, again, hagain, hreach⟩
  refine ⟨?_, ?_⟩
  · rw [mem_guestExecs_iff]
    rintro ⟨conn, hmem, _⟩
    exact hrefreshed (Poll.mem_keys_of_mem hmem)
  · intro hmem
    rcases List.mem_map.mp hmem with ⟨e, he, rfl⟩
    rcases (Poll.mem_poll filters).mp he with ⟨e', he', hsurv⟩
    rw [(Poll.survivor_key hsurv).1] at hrefreshed
    exact hrefreshed (Poll.mem_keys_of_mem he')

/-- Without an entry, a machine stays excluded until a poll admits it. -/
theorem not_mem_runExecs_of_absent (ws : List World) (habsent : id ∉ Poll.keys c.vms) :
    id ∉ runExecs filters cfg c ws ↔ ∀ w ∈ ws, ¬ Readmits filters w id := by
  induction ws generalizing c with
  | nil => exact iff_of_true List.not_mem_nil fun w hw => absurd hw List.not_mem_nil
  | cons w ws ih =>
      rw [runExecs, List.mem_append, not_or, List.forall_mem_cons]
      -- The first poll that admits the container decides.
      by_cases hreadmits : Readmits filters w id
      · refine iff_of_false (fun h => h.1 ?_) (fun h => h.1 hreadmits)
        exact mem_guestExecs_of_readmits filters cfg c w habsent hreadmits
      · rcases absent_of_not_readmits filters cfg c w habsent hreadmits with ⟨hnone, habsent'⟩
        rw [ih _ habsent']
        exact and_congr_left' (iff_of_true hnone hreadmits)

/-- For every state of the collector in which a machine has been given up on,
    and every run of polls from there: no further `guest-exec` is issued for its
    container exactly if no poll that does not report the container is followed
    by one that admits it. -/
theorem exclusion_lasts_iff (hmap : (Poll.keys c.vms).Nodup) {conn : Poll.Conn VmState}
    (hmem : (id, conn) ∈ c.vms) (hstopped : conn.state.stopped = true) (ws : List World) :
    id ∉ runExecs filters cfg c ws ↔
      ws.Pairwise fun w w' => ¬ Reports filters w id → ¬ Readmits filters w' id := by
  induction ws generalizing c with
  | nil => exact iff_of_true List.not_mem_nil List.Pairwise.nil
  | cons w ws ih =>
      rw [runExecs, List.mem_append, not_or, List.pairwise_cons]
      by_cases hreports : Reports filters w id
      · -- The entry and its flag survive, and the first poll forbids nothing.
        rcases stopped_of_reports filters cfg c w hmap hmem hstopped hreports
          with ⟨hnone, hmem'⟩
        rw [ih _ (Poll.poll_keys_nodup filters hmap) hmem']
        exact and_congr_left' (iff_of_true hnone fun w' _ hnot => absurd hreports hnot)
      · -- The entry is lost, and from here on nothing may admit the container.
        rcases absent_of_not_reports filters cfg c w hreports with ⟨hnone, habsent⟩
        rw [not_mem_runExecs_of_absent filters cfg _ ws habsent]
        constructor
        · rintro ⟨_, hall⟩
          refine ⟨fun w' hw' _ => hall w' hw', ?_⟩
          exact List.pairwise_of_forall_mem_list fun _ _ w' hw' _ => hall w' hw'
        · rintro ⟨hall, _⟩
          exact ⟨hnone, fun w' hw' => hall w' hw' hreports⟩

/-- A world with one pod, whose guest does not allow `guest-exec`. -/
def refusingWorld (findComputePID : Poll.FindComputePID) : World where
  podStore := Poll.onePodStore
  findComputePID := findComputePID
  findComputePIDAgain := findComputePID
  stat := fun _ => none
  dial := fun _ _ => none
  dynClient := none
  diskMapping := fun _ _ => none
  replies := fun _ =>
    { counters := .error .commandBlacklisted, order := [], order_nodup := List.nodup_nil,
      mem_order := fun _ hcs => absurd hcs (by simp only [reduceCtorEq, not_false_eq_true]),
      dynClient := none }
  now := 0
  arrange := Poll.tableOrder
  arrange_perm := Poll.tableOrder_perm

/-- The container of the pod is found. -/
def found : World := refusingWorld fun _ _ => .ok { containerID := "c1", pid := 7 }

/-- The lookup of the container fails. -/
def lookupFails : World := refusingWorld fun _ _ => .error "timeout"

/-- The collector once the guest has refused. -/
def afterRefusal : Collector :=
  poll Poll.noFilters { nodeName := "node", maxRetries := 3 } .new found

theorem stopped_afterRefusal :
    ∃ conn, ("c1", conn) ∈ afterRefusal.vms ∧ conn.state.stopped = true :=
  ⟨_, List.mem_cons_self, rfl⟩

/-- While the container is found, it stays excluded. -/
theorem exclusion_lasts_while_found :
    "c1" ∉ runExecs Poll.noFilters { nodeName := "node", maxRetries := 3 } afterRefusal
      [found, found] := by
  rcases stopped_afterRefusal with ⟨conn, hmem, hstopped⟩
  refine (exclusion_lasts_iff Poll.noFilters _ afterRefusal
    (tableOk_run Poll.noFilters _ [found]).keys_nodup hmem hstopped [found, found]).mpr ?_
  have hreports : Reports Poll.noFilters found "c1" := by
    refine ⟨{ ns := "ns", podName := "pod", vmiName := "vm" }, ?_, _, rfl, rfl⟩
    rw [found, refusingWorld, Poll.selectPods_onePodStore, List.mem_singleton]
  exact List.pairwise_pair.mpr fun hnot => absurd hreports hnot

/-- One failed lookup is enough for it to be asked again, though the pod is
    selected all the time and its container stays the same. -/
theorem failed_lookup_readmits :
    (∃ conn, ("c1", conn) ∈ afterRefusal.vms ∧ conn.state.stopped = true) ∧
    Poll.selectPods Poll.noFilters lookupFails.podStore
      = Poll.selectPods Poll.noFilters found.podStore ∧
    "c1" ∈ runExecs Poll.noFilters { nodeName := "node", maxRetries := 3 } afterRefusal
      [lookupFails, found] := by
  refine ⟨stopped_afterRefusal, rfl, ?_⟩
  decide +kernel

end Qga

end LatencyExporter
