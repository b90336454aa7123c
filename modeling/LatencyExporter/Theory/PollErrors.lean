import LatencyExporter.Theory.Lifecycle
import Mathlib.Data.Rat.Cast.Order
import Mathlib.Tactic.Ring

/-!
# What a QMP Poll Accounts For

Every connection in the table when the scrapes start yields a result or counts
as a scrape error, so results and errors together are as many as the connections
(`results_add_errors`). A pod that has no connection by then leaves no trace.
There are three ways to have none: the first lookup of its container fails, or
the container is not in the table and the second lookup or the connection fails.
The code logs these failures and goes on.

So a poll accounts for exactly the pods in `Reached`, a condition on the table
before the poll and on what the poll meets.

## Main definitions

* `Reached`: A pod whose connection gets to be scraped.
* `scrapedID`: The container of such a pod.

## Theorems

* `results_add_errors`: Results and errors count the connections.
* `scrapedIDs_perm`: The connections are those of the pods reached.
* `poll_accounts_iff`: When a poll accounts for all pods.
* `failed_lookup_uncounted`: A pod that is neither a result nor an error.
-/

namespace LatencyExporter

namespace Qmp

variable (filters : Poll.Filters) (cfg : PollerConfig) (c : Poller) (w : World)

/-- The second lookup of a pod succeeds, and so does the connection. -/
def Connectable (pod : Poll.PodInfo) : Prop :=
  ∃ again, w.findComputePIDAgain pod.podName pod.ns = .ok again ∧ Reachable w pod again.pid

/-- The first lookup of a pod succeeds, and its container is in the table
    already or can be connected to. -/
def Reached (pod : Poll.PodInfo) : Prop :=
  ∃ info, w.findComputePID pod.podName pod.ns = .ok info ∧
    (info.containerID ∈ Poll.keys c.connections ∨ Connectable w pod)

/-- No container ID is reported for two of the selected pods. -/
def OwnContainers : Prop :=
  ∀ pod ∈ Poll.selectPods filters w.podStore, ∀ pod' ∈ Poll.selectPods filters w.podStore,
    ∀ info info', w.findComputePID pod.podName pod.ns = .ok info →
      w.findComputePID pod'.podName pod'.ns = .ok info' →
      info.containerID = info'.containerID → pod = pod'

open Classical in
/-- The container of a pod that is reached. -/
noncomputable def scrapedID (pod : Poll.PodInfo) : Option String :=
  match w.findComputePID pod.podName pod.ns with
  | .error _ => none
  | .ok info =>
      if info.containerID ∈ Poll.keys c.connections ∨ Connectable w pod
      then some info.containerID else none

theorem scrapedID_eq_some_iff (pod : Poll.PodInfo) (id : String) :
    scrapedID c w pod = some id ↔
      ∃ info, w.findComputePID pod.podName pod.ns = .ok info ∧ info.containerID = id ∧
        (id ∈ Poll.keys c.connections ∨ Connectable w pod) := by
  unfold scrapedID
  cases w.findComputePID pod.podName pod.ns with
  | error err => simp only [reduceCtorEq, false_and, exists_false]
  | ok info =>
      simp only [Option.ite_none_right_eq_some, Option.some.injEq, Except.ok.injEq,
        exists_eq_left']
      constructor
      · rintro ⟨hreach, rfl⟩
        exact ⟨rfl, hreach⟩
      · rintro ⟨rfl, hreach⟩
        exact ⟨hreach, rfl⟩

theorem isSome_scrapedID_iff (pod : Poll.PodInfo) :
    (scrapedID c w pod).isSome ↔ Reached c w pod := by
  simp only [Option.isSome_iff_exists, scrapedID_eq_some_iff]
  constructor
  · rintro ⟨id, info, hinfo, rfl, hreach⟩
    exact ⟨info, hinfo, hreach⟩
  · rintro ⟨info, hinfo, hreach⟩
    exact ⟨_, info, hinfo, rfl, hreach⟩

/-- The table when the scrapes of a poll start. -/
abbrev refreshed : Poll.Table VmConnection :=
  (Poll.refreshTable pollOps filters (w.env cfg) c.connections c.handles).1

/-- A scrape has a result or fails, and every connection is scraped. -/
theorem results_add_errors :
    ((poll filters cfg c w).collector.results.length : ℚ)
      + ((poll filters cfg c w).collector.scrapeErrors - c.collector.scrapeErrors)
      = (refreshed filters cfg c w).length := by
  let entries := w.arrange (refreshed filters cfg c w)
  let failed := Poll.fails pollOps (scrapeOutcome cfg w)
  have hresults : (poll filters cfg c w).collector.results
      = entries.filterMap (Poll.resultOf pollOps (scrapeOutcome cfg w)) :=
    Poll.poll_results filters
  have herrors : (poll filters cfg c w).collector.scrapeErrors
      = c.collector.scrapeErrors + (entries.countP failed : Nat) :=
    congrArg (fun n : Nat => c.collector.scrapeErrors + (n : ℚ)) (Poll.scrapeLoop_eq _ _).2.2.1
  -- Nothing is skipped, so an entry has a result unless it fails.
  have hone : ∀ e, (Poll.resultOf pollOps (scrapeOutcome cfg w) e).isSome = !failed e := by
    intro e
    simp only [failed, Poll.resultOf, Poll.fails, pollOps, scrapeOutcome, Bool.false_eq_true,
      if_false]
    split <;> rfl
  have hlength : (refreshed filters cfg c w).length
      = entries.countP failed + entries.countP fun e => !failed e := by
    rw [← (w.arrange_perm _).length_eq]
    simpa using List.length_eq_countP_add_countP failed
  rw [hresults, herrors, hlength, List.length_filterMap_eq_countP]
  simp only [hone]
  push_cast
  ring

theorem exists_connects_iff (t : Poll.Target) :
    (∃ conn, Poll.Connects (w.env cfg) t conn) ↔ Connectable w t.pod := by
  constructor
  · rintro ⟨conn, again, hagain, hconn⟩
    exact ⟨again, hagain, ((connectVM_ok_iff w _ _ _).mp hconn).1⟩
  · rintro ⟨again, hagain, hreach⟩
    exact ⟨_, again, hagain, (connectVM_ok_iff w _ _ _).mpr ⟨hreach, rfl⟩⟩

/-- The containers of the pods reached are those in the table when the scrapes
    start. -/
theorem scrapedIDs_perm (hmap : (Poll.keys c.connections).Nodup)
    (hown : OwnContainers filters w) :
    ((Poll.selectPods filters w.podStore).filterMap (scrapedID c w)).Perm
      (Poll.keys (refreshed filters cfg c w)) := by
  refine (List.perm_ext_iff_of_nodup ?_ (Poll.refreshTable_keys_nodup filters hmap)).mpr ?_
  · -- Different pods have different containers.
    have hpods := List.Nodup.of_map _ (Poll.selectPods_nodup filters w.podStore)
    refine List.pairwise_filterMap.mpr (hpods.imp_of_mem ?_)
    intro pod pod' hpod hpod' hne id hid id' hid' heq
    rcases (scrapedID_eq_some_iff c w pod id).mp hid with ⟨info, hinfo, hcid, _⟩
    rcases (scrapedID_eq_some_iff c w pod' id').mp hid' with ⟨info', hinfo', hcid', _⟩
    exact hne (hown pod hpod pod' hpod' info info' hinfo hinfo' (by rw [hcid, hcid', heq]))
  -- A container is scraped if it was in the table or is admitted.
  · intro id
    rw [Poll.mem_keys_refreshTable, Poll.mem_activeIDs, List.mem_filterMap]
    simp only [scrapedID_eq_some_iff]
    constructor
    · rintro ⟨pod, hpod, info, hinfo, hid, hold | hconn⟩
      · exact .inl ⟨hold, pod, hpod, info, hinfo, hid⟩
      · rcases (exists_connects_iff cfg w ⟨pod, id⟩).mpr hconn with ⟨conn, hconn⟩
        exact .inr ⟨pod, conn, hpod, ⟨info, hinfo, hid⟩, hconn⟩
    · rintro (⟨hold, pod, hpod, info, hinfo, hid⟩ | ⟨pod, conn, hpod, ⟨info, hinfo, hid⟩, hconn⟩)
      · exact ⟨pod, hpod, info, hinfo, hid, .inl hold⟩
      · exact ⟨pod, hpod, info, hinfo, hid, .inr ((exists_connects_iff cfg w _).mp ⟨conn, hconn⟩)⟩

/-- For every state of the collector and whatever a poll meets, if no container
    is reported for two pods: the results and the added scrape errors are at
    least as many as the selected pods exactly if each of those is reached. -/
theorem poll_accounts_iff (hmap : (Poll.keys c.connections).Nodup)
    (hown : OwnContainers filters w) :
    ((Poll.selectPods filters w.podStore).length : ℚ)
        ≤ (poll filters cfg c w).collector.results.length
          + ((poll filters cfg c w).collector.scrapeErrors - c.collector.scrapeErrors) ↔
      ∀ pod ∈ Poll.selectPods filters w.podStore, Reached c w pod := by
  have hcount : (refreshed filters cfg c w).length
      = (Poll.selectPods filters w.podStore).countP fun pod => (scrapedID c w pod).isSome := by
    rw [← List.length_filterMap_eq_countP, (scrapedIDs_perm filters cfg c w hmap hown).length_eq,
      Poll.keys, List.length_map]
  rw [results_add_errors, hcount, Nat.cast_le]
  -- The pods reached are never more than all of them.
  have hle := List.countP_le_length (p := fun pod => (scrapedID c w pod).isSome)
    (l := Poll.selectPods filters w.podStore)
  simp only [← isSome_scrapedID_iff]
  rw [← List.countP_eq_length]
  omega

/-- A world with the pod, in which all goes well but perhaps the lookups. -/
def onePodWorld (findComputePID : Poll.FindComputePID) : World where
  podStore := Poll.onePodStore
  findComputePID := findComputePID
  findComputePIDAgain := findComputePID
  stat := fun _ => none
  dial := fun _ _ => none
  dynClient := none
  replies := fun _ =>
    { blockStats := .ok [], enableHistogram := fun _ _ => true, virtio := none,
      virtioStatus := fun _ => none, queueStatus := fun _ _ => none, dynClient := none }
  now := 0
  arrange := Poll.tableOrder
  arrange_perm := Poll.tableOrder_perm

theorem ownContainers_onePodWorld (findComputePID : Poll.FindComputePID) :
    OwnContainers Poll.noFilters (onePodWorld findComputePID) := by
  intro pod hpod pod' hpod' _ _ _ _ _
  rw [onePodWorld, Poll.selectPods_onePodStore, List.mem_singleton] at hpod hpod'
  rw [hpod, hpod']

/-- The first poll after the start, in a world with one pod. -/
def firstPoll (findComputePID : Poll.FindComputePID) : Poller :=
  poll Poll.noFilters { nodeName := "node", boundariesNs := [] } .new (onePodWorld findComputePID)

/-- Container IDs that are the names of the pods. -/
def byName : Poll.FindComputePID := fun name _ => .ok { containerID := name, pid := 7 }

/-- A world with two pods more. The second lookup of the first pod fails, and so
    does the scrape of the second pod. -/
def threePodWorld : World :=
  { onePodWorld byName with
    podStore := Poll.threePodStore
    findComputePIDAgain := fun name ns => if name = "pod" then .error "timeout" else byName name ns
    replies := fun id =>
      { (onePodWorld byName).replies id with
        blockStats := if id = "pod-b" then .error "timeout" else .ok [] } }

/-- A poll with one pod and a poll with three. The connection of the first pod
    is there already, and the other two are new. One of the three scrapes
    fails. -/
theorem poll_accounts_three_pods :
    let c := firstPoll byName
    let c' := poll Poll.noFilters { nodeName := "node", boundariesNs := [] } c threePodWorld
    ((Poll.selectPods Poll.noFilters Poll.threePodStore).length : ℚ)
      ≤ c'.collector.results.length + (c'.collector.scrapeErrors - c.collector.scrapeErrors) ∧
    (Poll.selectPods Poll.noFilters Poll.threePodStore).length = 3 ∧
    c'.collector.results.length = 2 ∧
    c'.collector.scrapeErrors - c.collector.scrapeErrors = 1 := by
  have hown : OwnContainers Poll.noFilters threePodWorld := by
    intro pod hpod pod' hpod' info info' hinfo hinfo' heq
    rw [threePodWorld, Poll.selectPods_threePodStore, List.mem_map] at hpod hpod'
    rcases hpod with ⟨name, _, rfl⟩
    rcases hpod' with ⟨name', _, rfl⟩
    rw [← Except.ok.inj hinfo, ← Except.ok.inj hinfo'] at heq
    have hname : name = name' := heq
    rw [hname]
  refine ⟨(poll_accounts_iff Poll.noFilters _ (firstPoll byName) threePodWorld (by decide +kernel)
    hown).mpr ?_, by decide +kernel, by decide +kernel, by decide +kernel⟩
  intro pod hpod
  rw [threePodWorld, Poll.selectPods_threePodStore] at hpod
  simp only [List.map_cons, List.map_nil, List.mem_cons, List.not_mem_nil, or_false] at hpod
  rcases hpod with rfl | rfl | rfl
  · exact ⟨_, rfl, .inl (by decide +kernel)⟩
  · exact ⟨_, rfl, .inr ⟨_, rfl, rfl, rfl⟩⟩
  · exact ⟨_, rfl, .inr ⟨_, rfl, rfl, rfl⟩⟩

/-- A pod whose first lookup fails is neither a result nor an error. -/
theorem failed_lookup_uncounted :
    OwnContainers Poll.noFilters (onePodWorld fun _ _ => .error "timeout") ∧
    (Poll.selectPods Poll.noFilters Poll.onePodStore).length = 1 ∧
    (firstPoll fun _ _ => .error "timeout").collector.results = [] ∧
    (firstPoll fun _ _ => .error "timeout").collector.scrapeErrors
      = Poller.new.collector.scrapeErrors := by
  refine ⟨ownContainers_onePodWorld _, ?_, ?_, ?_⟩
  · rw [Poll.selectPods_onePodStore]
    rfl
  · decide +kernel
  · exact add_zero _

end Qmp

end LatencyExporter
