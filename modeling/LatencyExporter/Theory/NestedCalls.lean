import LatencyExporter.Lib.Sums
import LatencyExporter.Theory.Threads

/-!
# Calls inside Calls

The functions with probes may call one another, so a thread may enter one of
them before it has returned from another. The probe program has one place for a
thread. The entry of the inner call takes the place of that of the outer one,
the inner return clears it, and the outer return finds nothing.

So the program measures the innermost calls, whose events come right after each
other on their thread, and no others (`nested_calls`). What a thread does to its
place and to the histograms does not depend on the other threads, however their
events are mixed in: the program is the threads side by side (`kprobeRun_threads`).

## Main definitions

* `threadStep`, `threadRun`: One thread by itself.
* `Calls`, `Calls.events`: Calls with calls inside.
* `Span`, `Calls.innermost`: The calls without calls inside.

## Theorems

* `perThread_concat`: An event is one of its own thread.
* `kprobeRun_threads`: The program is the threads side by side.
* `foldl_events`: What the calls of a thread leave behind.
* `entered_le_left`: A call ends after it begins.
* `nested_calls`: The innermost calls are measured.
-/

namespace LatencyExporter

namespace Bpf

/-- What a thread has pending, and what it has counted. -/
abbrev ThreadState := Option KprobeStart × List (HistKey × Fin maxSlots)

/-- One event of a thread. -/
def threadStep : ThreadState → KprobeEvent → ThreadState
  | (_, samples), .entry fn _ sDev now =>
      (some { ts := now.ns, dev := sDev, op := fn.op }, samples)
  | (pending, samples), .ret _ now =>
      (none, samples ++ (pending.bind (kprobeSample now)).toList)

/-- The events of a thread. -/
def threadRun (tr : List KprobeEvent) : ThreadState := tr.foldl threadStep (none, [])

/-- The threads of a trace, each by itself. -/
def perThread (tr : List KprobeEvent) (tid : UInt64) : ThreadState :=
  threadRun (tr.filter fun e => e.thread = tid)

theorem perThread_concat (tr : List KprobeEvent) (e : KprobeEvent) :
    perThread (tr ++ [e])
      = Function.update (perThread tr) e.thread (threadStep (perThread tr e.thread) e) := by
  funext tid
  unfold perThread
  rw [List.filter_append]
  by_cases htid : tid = e.thread
  · rw [htid, Function.update_self, List.filter_cons_of_pos (by simp), List.filter_nil, threadRun,
      List.foldl_concat]
    rfl
  · rw [Function.update_of_ne htid, List.filter_cons_of_neg (by simpa using Ne.symm htid),
      List.filter_nil, List.append_nil]

/-- The sample a return adds. -/
theorem kretprobe_sampleCount (s : KprobeState) (tid : UInt64) (now : Ktime) (hk : HistKey)
    (slot : Fin maxSlots) :
    sampleCount (kretprobeNfsVfs s tid now).hists hk slot
      = sampleCount s.hists hk slot
        + ((s.start.lookup tid).bind (kprobeSample now)).toList.count (hk, slot) := by
  unfold kretprobeNfsVfs
  cases s.start.lookup tid with
  | none => rfl
  | some start =>
      simp only [Option.bind_some]
      cases kprobeSample now start with
      | none => rfl
      | some sample =>
          rcases sample with ⟨hk', slot'⟩
          rw [recordOpt, sampleCount_recordSample, Option.toList_some, List.count_singleton]
          simp only [beq_iff_eq, Prod.mk.injEq]
          exact congrArg _ (if_congr (and_congr eq_comm eq_comm) rfl rfl)

/-- An event acts on the place of its own thread. -/
theorem threadStep_lookup (s : KprobeState) (e : KprobeEvent) (tid : UInt64)
    (samples : List (HistKey × Fin maxSlots)) :
    (kprobeStep s e).start.lookup tid
      = if tid = e.thread then (threadStep (s.start.lookup e.thread, samples) e).1
        else s.start.lookup tid := by
  cases e with
  | entry fn tid' sDev now =>
      rw [kprobeStep_entry, recordStart]
      by_cases htid : tid = tid'
      · rw [htid, Finmap.lookup_insert]
        exact (if_pos rfl).symm
      · rw [Finmap.lookup_insert_of_ne _ htid]
        exact (if_neg htid).symm
  | ret tid' now =>
      rw [kprobeStep, kretprobe_lookup]
      exact if_congr eq_comm rfl rfl

/-- An event counts what its own thread counts. -/
theorem threadStep_count (s : KprobeState) (e : KprobeEvent) (hk : HistKey) (slot : Fin maxSlots)
    (samples : List (HistKey × Fin maxSlots)) :
    sampleCount (kprobeStep s e).hists hk slot + samples.count (hk, slot)
      = sampleCount s.hists hk slot
        + (threadStep (s.start.lookup e.thread, samples) e).2.count (hk, slot) := by
  cases e with
  | entry fn tid sDev now =>
      rw [kprobeStep_entry]
      rfl
  | ret tid now =>
      rw [kprobeStep, kretprobe_sampleCount, threadStep, List.count_append]
      simp only [KprobeEvent.thread]
      omega

/-- The program is the threads side by side: the place of a thread is as the
    thread by itself leaves it, and the histograms count what the threads by
    themselves count. -/
theorem kprobeRun_threads (tr : List KprobeEvent) (tids : List UInt64) (hnodup : tids.Nodup)
    (hall : ∀ e ∈ tr, e.thread ∈ tids) :
    (∀ tid, (kprobeRun .empty tr).start.lookup tid = (perThread tr tid).1) ∧
    ∀ hk slot, sampleCount (kprobeRun .empty tr).hists hk slot
      = (tids.map fun tid => (perThread tr tid).2.count (hk, slot)).sum := by
  induction tr using List.reverseRecOn with
  | nil =>
      refine ⟨fun tid => Finmap.lookup_empty tid, fun hk slot => ?_⟩
      refine (List.sum_eq_zero fun n hn => ?_).symm
      rcases List.mem_map.mp hn with ⟨tid, _, rfl⟩
      rfl
  | append_singleton tr e ih =>
      rcases ih fun e' he' => hall e' (List.mem_append_left _ he') with ⟨hstart, hcount⟩
      have hmem := hall e (List.mem_append_right _ (List.mem_singleton.mpr rfl))
      rw [kprobeRun_concat, perThread_concat]
      refine ⟨fun tid => ?_, fun hk slot => ?_⟩
      · rw [threadStep_lookup _ e tid (perThread tr e.thread).2, hstart]
        by_cases htid : tid = e.thread
        · rw [htid, if_pos rfl, Function.update_self]
        · rw [if_neg htid, Function.update_of_ne htid, hstart]
      · -- The sum changes by what the thread of the event adds.
        have hsum := Sums.sum_update (fun _ (st : ThreadState) => st.2.count (hk, slot))
          (perThread tr) e.thread (threadStep (perThread tr e.thread) e) tids hnodup hmem
        have hstep := threadStep_count (kprobeRun .empty tr) e hk slot (perThread tr e.thread).2
        rw [hstart, hcount, Prod.mk.eta] at hstep
        omega

/-- The calls of a thread, one after the other, each with the calls made inside
    it. -/
inductive Calls where
  | nil
  | call (fn : VfsFunction) (sDev : UInt32) (entered : Ktime) (inner : Calls) (left : Ktime)
      (rest : Calls)

/-- The events of the calls of a thread. -/
def Calls.events (tid : UInt64) : Calls → List KprobeEvent
  | nil => []
  | call fn sDev entered inner left rest =>
      .entry fn tid sDev entered :: (inner.events tid ++ .ret tid left :: rest.events tid)

/-- A call with the times of its beginning and its end. -/
structure Span where
  hk : HistKey
  entered : Ktime
  left : Ktime

/-- The calls without calls inside. -/
def Calls.innermost : Calls → List Span
  | nil => []
  | call fn sDev entered nil left rest =>
      { hk := { dev := sDev, op := fn.op }, entered := entered, left := left } :: rest.innermost
  | call _ _ _ inner _ rest => inner.innermost ++ rest.innermost

/-- What the return of a call counts. -/
def Span.sample (c : Span) : Option (HistKey × Fin maxSlots) :=
  kprobeSample c.left { ts := c.entered.ns, dev := c.hk.dev, op := c.hk.op }

/-- What is pending after calls: nothing, if there was a call. -/
def Calls.pending : Calls → Option KprobeStart → Option KprobeStart
  | nil, pending => pending
  | call .., _ => none

@[simp]
theorem Calls.pending_nil (pending : Option KprobeStart) : Calls.nil.pending pending = pending :=
  rfl

@[simp]
theorem Calls.pending_none (calls : Calls) : calls.pending none = none := by
  cases calls <;> rfl

/-- A thread counts its innermost calls. -/
theorem foldl_events (tid : UInt64) (calls : Calls) (st : ThreadState) :
    (calls.events tid).foldl threadStep st
      = (calls.pending st.1, st.2 ++ calls.innermost.filterMap Span.sample) := by
  induction calls generalizing st with
  | nil =>
      rw [Calls.innermost, List.filterMap_nil, List.append_nil]
      rfl
  | call fn sDev entered inner left rest ihInner ihRest =>
      rw [Calls.events, List.foldl_cons, List.foldl_append, List.foldl_cons, ihInner, ihRest]
      cases inner with
      | nil =>
          -- The return finds the entry of its own call.
          simp only [threadStep, Calls.pending_nil, Calls.pending_none, Calls.innermost,
            List.filterMap_nil, List.append_nil, Option.bind_some, List.filterMap_cons]
          refine Prod.ext rfl ?_
          change st.2 ++ (Span.sample ⟨⟨sDev, fn.op⟩, entered, left⟩).toList ++ _ = st.2 ++ _
          cases Span.sample ⟨⟨sDev, fn.op⟩, entered, left⟩ with
          | none => rw [Option.toList_none, List.append_nil]
          | some sample => rw [Option.toList_some, List.append_assoc, List.singleton_append]
      | call =>
          -- The place was cleared by the last return inside.
          simp only [threadStep, Calls.innermost, List.filterMap_append, Calls.pending_none]
          refine Prod.ext rfl ?_
          exact (congrArg (· ++ _) (List.append_nil _)).trans (List.append_assoc ..)

/-- In time, an innermost call ends after it begins. -/
theorem entered_le_left (tid : UInt64) (calls : Calls) (htime : NowOrdered (calls.events tid))
    (c : Span) (hc : c ∈ calls.innermost) : c.entered.ns.toNat ≤ c.left.ns.toNat := by
  induction calls with
  | nil => exact absurd hc List.not_mem_nil
  | call fn sDev entered inner left rest ihInner ihRest =>
      rw [Calls.events, NowOrdered, List.pairwise_cons, List.pairwise_append,
        List.pairwise_cons] at htime
      rcases htime with ⟨hentered, hinner, ⟨_, hrest⟩, _⟩
      cases inner with
      | nil =>
          rcases List.mem_cons.mp hc with rfl | hc
          · exact hentered (.ret tid left) List.mem_cons_self
          · exact ihRest hrest hc
      | call =>
          rcases List.mem_append.mp hc with hc | hc
          · exact ihInner hinner hc
          · exact ihRest hrest hc

theorem Span.sample_eq {c : Span} (hle : c.entered.ns.toNat ≤ c.left.ns.toNat) :
    c.sample = some (c.hk, latencySlot ((c.left.ns.toNat - c.entered.ns.toNat : Nat) : Int)) := by
  simp only [Span.sample, kprobeSample, deltaNs_of_le c.left c.entered hle]
  exact if_neg (by omega)

/-- Whatever the functions call inside one another and however the threads are
    interleaved, the program measures the innermost calls of each thread, each
    for its own device and function and its own time, and nothing else. When all
    calls have returned nothing is pending. -/
theorem nested_calls (calls : UInt64 → Calls) (tr : List KprobeEvent)
    (hcalls : ∀ tid, tr.filter (fun e => e.thread = tid) = (calls tid).events tid)
    (htime : NowOrdered tr) (tids : List UInt64) (hnodup : tids.Nodup)
    (hall : ∀ e ∈ tr, e.thread ∈ tids) :
    (kprobeRun .empty tr).start = ∅ ∧
    ∀ hk (slot : Fin maxSlots), sampleCount (kprobeRun .empty tr).hists hk slot
      = (tids.flatMap fun tid => (calls tid).innermost).countP fun c =>
          c.hk = hk ∧ slotIndex (c.left.ns.toNat - c.entered.ns.toNat) = slot.val := by
  rcases kprobeRun_threads tr tids hnodup hall with ⟨hstart, hcount⟩
  have hthread : ∀ tid, perThread tr tid
      = (none, (calls tid).innermost.filterMap Span.sample) := by
    intro tid
    rw [perThread, threadRun, hcalls, foldl_events, List.nil_append]
    cases calls tid <;> rfl
  refine ⟨?_, fun hk slot => ?_⟩
  · refine Finmap.ext_lookup fun tid => ?_
    rw [hstart, hthread, Finmap.lookup_empty]
  · rw [hcount, List.countP_flatMap]
    refine congrArg List.sum (List.map_congr_left fun tid _ => ?_)
    rw [hthread]
    -- Each innermost call gives a sample, in the slot of its time.
    have htimes : NowOrdered ((calls tid).events tid) := by
      rw [← hcalls]
      exact htime.sublist List.filter_sublist
    rw [List.count, List.countP_filterMap]
    refine List.countP_congr fun c hc => ?_
    have hle := entered_le_left tid _ htimes c hc
    have hlt := c.left.lt
    rw [Span.sample_eq hle]
    simp only [Option.map_some, Option.getD_some, beq_iff_eq, Prod.mk.injEq, decide_eq_true_eq]
    rw [← latencySlot_val _ (by omega), Fin.ext_iff]

/-- A thread that opens a file and asks for its attributes inside. -/
def openWithGetattr : Calls :=
  .call .nfs4FileOpen 7 (.early 0) (.call .nfsGetattr 7 (.early 1000) .nil (.early 5000) .nil)
    (.early 90000) .nil

/-- Of the two calls only the inner one is counted, and none is pending. -/
theorem nested_calls_open :
    (kprobeRun .empty (openWithGetattr.events 1)).start = ∅ ∧
    ∀ hk (slot : Fin maxSlots),
      sampleCount (kprobeRun .empty (openWithGetattr.events 1)).hists hk slot
        = if (⟨7, 3⟩ : HistKey) = hk ∧ slotIndex 4000 = slot.val then 1 else 0 := by
  have hthread : ∀ e ∈ openWithGetattr.events 1, e.thread = 1 := by decide +kernel
  have hcalls : ∀ tid, (openWithGetattr.events 1).filter (fun e => e.thread = tid)
      = (if tid = 1 then openWithGetattr else .nil).events tid := by
    intro tid
    by_cases htid : tid = 1
    · rw [htid, if_pos rfl]
      exact List.filter_eq_self.mpr fun e he => by simpa using hthread e he
    · rw [if_neg htid]
      refine List.filter_eq_nil_iff.mpr fun e he => ?_
      rw [hthread e he]
      simpa using Ne.symm htid
  rcases nested_calls _ _ hcalls (by unfold NowOrdered; decide +kernel) [1]
    (List.nodup_singleton 1) (by decide +kernel) with ⟨hstart, hcount⟩
  refine ⟨hstart, fun hk slot => ?_⟩
  rw [hcount hk slot, List.flatMap_singleton, if_pos rfl]
  exact (List.countP_singleton ..).trans (if_congr decide_eq_true_iff rfl rfl)

end Bpf

end LatencyExporter
