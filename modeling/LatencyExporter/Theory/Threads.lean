import LatencyExporter.Core.Bpf.Nfs
import LatencyExporter.Theory.Tracing

/-!
# Threads in NFS Calls

The probe program for NFS calls has five entry probes and one return probe.
The return probe is attached to all five functions and is told neither which
of them returns nor on which device it worked; it reads both, and the time of
the call, from the map of pending calls, under the number of its thread.

So everything depends on what that map holds. Whatever the threads do, it holds
exactly the threads whose last event is an entry, with the fields of that entry
(`start_eq_openCall`): an entry writes the place of its own thread, a return
clears it, and neither touches another thread's. If each thread returns from
one call before it enters the next, the last event of a returning thread is the
entry the return belongs to. No assumption about other threads is needed.

## Main definitions

* `KprobeEvent.thread`, `KprobeEvent.now`: The thread and the time of an event.
* `VfsFunction.op`: The operation a function is counted as.
* `openCall`: The entry a thread has not returned from.
* `Alternates`: Every thread returns from a call before it enters the next.
* `OneMore`: One counter is one higher.

## Theorems

* `openCall_concat`: What an event does to the open calls.
* `start_eq_openCall`: The map of pending calls.
* `openCall_of_entry`, `openCall_eq_some`: The entry behind an open call.
* `return_step`, `oneMore_recordSample`: What a return does.
* `thread_isolation`: Every return is counted as its own call.
-/

namespace LatencyExporter

namespace Bpf

/-- The thread of an event. -/
def KprobeEvent.thread : KprobeEvent → UInt64
  | .entry _ pidTgid _ _ => pidTgid
  | .ret pidTgid _ => pidTgid

/-- The time of an event. -/
def KprobeEvent.now : KprobeEvent → Ktime
  | .entry _ _ _ now => now
  | .ret _ now => now

/-- The operation a function is counted as: `read`, `write`, `open` or
    `getattr`. -/
def VfsFunction.op : VfsFunction → UInt8
  | .nfsFileRead => 0
  | .nfsFileWrite => 1
  | .nfsFileOpen => 2
  | .nfs4FileOpen => 2
  | .nfsGetattr => 3

/-- The histogram and the time of the entry a thread has not returned from, if
    the last event of the thread is an entry. -/
def openCall (tr : List KprobeEvent) (tid : UInt64) : Option (HistKey × Ktime) :=
  match tr.reverse.find? (fun e => e.thread = tid) with
  | some (.entry fn _ sDev now) => some ({ dev := sDev, op := fn.op }, now)
  | _ => none

/-- A thread enters a function only when it is in none, and returns only when
    it is in one. -/
def Alternates (tr : List KprobeEvent) : Prop :=
  (∀ pre fn tid sDev now post, tr = pre ++ .entry fn tid sDev now :: post →
    openCall pre tid = none) ∧
  ∀ pre tid now post, tr = pre ++ .ret tid now :: post → (openCall pre tid).isSome

/-- Time does not go backwards. -/
def NowOrdered (tr : List KprobeEvent) : Prop :=
  tr.Pairwise fun e e' => e.now.ns.toNat ≤ e'.now.ns.toNat

theorem kprobeStep_entry (s : KprobeState) (fn : VfsFunction) (tid : UInt64) (sDev : UInt32)
    (now : Ktime) :
    kprobeStep s (.entry fn tid sDev now) = recordStart s tid sDev fn.op now := by
  cases fn <;> rfl

theorem kprobeRun_concat (s : KprobeState) (tr : List KprobeEvent) (e : KprobeEvent) :
    kprobeRun s (tr ++ [e]) = kprobeStep (kprobeRun s tr) e := List.foldl_concat ..

theorem openCall_concat (tr : List KprobeEvent) (e : KprobeEvent) (tid : UInt64) :
    openCall (tr ++ [e]) tid
      = if e.thread = tid then
          match e with
          | .entry fn _ sDev now => some ({ dev := sDev, op := fn.op }, now)
          | .ret _ _ => none
        else openCall tr tid := by
  unfold openCall
  rw [List.reverse_append, List.reverse_singleton, List.singleton_append]
  by_cases htid : e.thread = tid
  · rw [List.find?_cons_of_pos (by simpa using htid), if_pos htid]
    cases e <;> rfl
  · rw [List.find?_cons_of_neg (by simpa using htid), if_neg htid]

theorem kretprobe_lookup (s : KprobeState) (tid tid' : UInt64) (now : Ktime) :
    (kretprobeNfsVfs s tid now).start.lookup tid'
      = if tid = tid' then none else s.start.lookup tid' := by
  cases hstart : s.start.lookup tid with
  | none =>
      simp only [kretprobeNfsVfs, hstart]
      by_cases htid : tid = tid'
      · rw [if_pos htid, ← htid, hstart]
      · rw [if_neg htid]
  | some start =>
      simp only [kretprobeNfsVfs, hstart]
      by_cases htid : tid = tid'
      · rw [if_pos htid, ← htid, Finmap.lookup_erase]
      · rw [if_neg htid, Finmap.lookup_erase_ne (Ne.symm htid)]

/-- The map of pending calls holds the open calls, with their own fields, on
    every trace. -/
theorem start_eq_openCall (tr : List KprobeEvent) (tid : UInt64) :
    (kprobeRun .empty tr).start.lookup tid
      = (openCall tr tid).map fun c => { ts := c.2.ns, dev := c.1.dev, op := c.1.op } := by
  induction tr using List.reverseRecOn with
  | nil =>
      simp only [kprobeRun, List.foldl_nil, KprobeState.empty, Finmap.lookup_empty, openCall,
        List.reverse_nil, List.find?_nil, Option.map_none]
  | append_singleton tr e ih =>
      rw [kprobeRun_concat, openCall_concat]
      cases e with
      | entry fn tid' sDev now =>
          rw [kprobeStep_entry, recordStart]
          by_cases htid : tid' = tid
          · rw [if_pos (show (KprobeEvent.entry fn tid' sDev now).thread = tid from htid), htid,
              Finmap.lookup_insert]
            rfl
          · rw [if_neg (show (KprobeEvent.entry fn tid' sDev now).thread ≠ tid from htid),
              Finmap.lookup_insert_of_ne _ (Ne.symm htid), ih]
      | ret tid' now =>
          change (kretprobeNfsVfs (kprobeRun .empty tr) tid' now).start.lookup tid = _
          rw [kretprobe_lookup]
          by_cases htid : tid' = tid
          · rw [if_pos htid, if_pos (show (KprobeEvent.ret tid' now).thread = tid from htid)]
            rfl
          · rw [if_neg htid, if_neg (show (KprobeEvent.ret tid' now).thread ≠ tid from htid), ih]

/-- The last event of a thread is an entry, so its call is open. -/
theorem openCall_of_entry {tid : UInt64} (fn : VfsFunction) (sDev : UInt32) (entered : Ktime)
    (pre mid : List KprobeEvent) (hmid : ∀ e ∈ mid, e.thread ≠ tid) :
    openCall (pre ++ .entry fn tid sDev entered :: mid) tid
      = some ({ dev := sDev, op := fn.op }, entered) := by
  unfold openCall
  rw [List.reverse_append, List.reverse_cons, List.append_assoc, List.find?_append,
    List.find?_eq_none.mpr]
  · simp [KprobeEvent.thread]
  · intro e he
    simpa using hmid e (List.mem_reverse.mp he)

/-- An open call is the last event of its thread. -/
theorem openCall_eq_some (tr : List KprobeEvent) (tid : UInt64) (hk : HistKey) (t : Ktime)
    (h : openCall tr tid = some (hk, t)) :
    ∃ pre fn mid, tr = pre ++ .entry fn tid hk.dev t :: mid ∧ fn.op = hk.op ∧
      ∀ e ∈ mid, e.thread ≠ tid := by
  induction tr using List.reverseRecOn with
  | nil => exact absurd h (by simp [openCall])
  | append_singleton tr e ih =>
      rw [openCall_concat] at h
      by_cases htid : e.thread = tid
      · rw [if_pos htid] at h
        cases e with
        | entry fn tid' sDev now =>
            simp only [Option.some.injEq, Prod.mk.injEq] at h
            rcases h with ⟨rfl, rfl⟩
            refine ⟨tr, fn, [], ?_, rfl, by simp⟩
            rw [← htid]
            rfl
        | ret tid' now => exact absurd h (by simp only [reduceCtorEq, not_false_eq_true])
      · rw [if_neg htid] at h
        rcases ih h with ⟨pre, fn, mid, htr, hop, hmid⟩
        refine ⟨pre, fn, mid ++ [e], ?_, hop, ?_⟩
        · rw [htr, List.append_assoc, List.cons_append]
        · exact List.forall_mem_append.mpr ⟨hmid, List.forall_mem_singleton.mpr htid⟩

/-- A return of a thread in a call records one sample of that call and clears
    the place of the thread. -/
theorem return_step (tr : List KprobeEvent) (tid : UInt64) (now t : Ktime) (hk : HistKey)
    (hopen : openCall tr tid = some (hk, t)) (hle : t.ns.toNat ≤ now.ns.toNat) :
    kprobeStep (kprobeRun .empty tr) (.ret tid now)
      = { start := (kprobeRun .empty tr).start.erase tid,
          hists := recordSample (kprobeRun .empty tr).hists hk
            (latencySlot ((now.ns.toNat - t.ns.toNat : Nat) : Int)) } := by
  have hstart := start_eq_openCall tr tid
  rw [hopen, Option.map_some] at hstart
  have hsample : kprobeSample now { ts := t.ns, dev := hk.dev, op := hk.op }
      = some (hk, latencySlot ((now.ns.toNat - t.ns.toNat : Nat) : Int)) := by
    simp only [kprobeSample, deltaNs_of_le now t hle]
    exact if_neg (by omega)
  simp only [kprobeStep, kretprobeNfsVfs, hstart, hsample, recordOpt]

/-- One event later, exactly one counter of the histograms is one higher: that
    of the key and the slot of the duration. The histograms of other keys are
    the same. -/
def OneMore (before after : HistMap) (hk : HistKey) (durationNs : Nat) : Prop :=
  (∀ hk' (slot : Fin maxSlots), sampleCount after hk' slot = sampleCount before hk' slot
    + if hk' = hk ∧ slot.val = slotIndex durationNs then 1 else 0) ∧
  ∀ hk', hk' ≠ hk → after.lookup hk' = before.lookup hk'

theorem oneMore_recordSample (hists : HistMap) (hk : HistKey) (d : Nat) (hd : d < 2 ^ 63) :
    OneMore hists (recordSample hists hk (latencySlot d)) hk d := by
  refine ⟨fun hk' slot => ?_, fun hk' hne => recordSample_lookup_ne hists hk hk' _ hne⟩
  simp only [sampleCount_recordSample, Fin.ext_iff, latencySlot_val d hd]

/-- Whatever the other threads do, a return is counted once, for the device and
    the function its own thread entered and for the time since then, and takes
    the pending call of its thread away and no other. Entries count nothing and
    touch the place of their own thread only, and the pending calls are the open
    ones. -/
theorem thread_isolation (tr : List KprobeEvent) (halt : Alternates tr) (htime : NowOrdered tr) :
    (∀ before tid now post, tr = before ++ .ret tid now :: post →
      ∃ pre fn sDev entered mid, before = pre ++ .entry fn tid sDev entered :: mid ∧
        (∀ e ∈ mid, e.thread ≠ tid) ∧
        OneMore (kprobeRun .empty before).hists
          (kprobeStep (kprobeRun .empty before) (.ret tid now)).hists
          { dev := sDev, op := fn.op } (now.ns.toNat - entered.ns.toNat) ∧
        ∀ tid', (kprobeStep (kprobeRun .empty before) (.ret tid now)).start.lookup tid'
          = if tid' = tid then none else (kprobeRun .empty before).start.lookup tid') ∧
    (∀ before fn tid sDev now post, tr = before ++ .entry fn tid sDev now :: post →
      (kprobeStep (kprobeRun .empty before) (.entry fn tid sDev now)).hists
        = (kprobeRun .empty before).hists ∧
      ∀ tid', tid' ≠ tid →
        (kprobeStep (kprobeRun .empty before) (.entry fn tid sDev now)).start.lookup tid'
          = (kprobeRun .empty before).start.lookup tid') ∧
    ∀ tid start, (kprobeRun .empty tr).start.lookup tid = some start ↔
      ∃ pre fn entered mid, tr = pre ++ .entry fn tid start.dev entered :: mid ∧
        fn.op = start.op ∧ entered.ns = start.ts ∧ ∀ e ∈ mid, e.thread ≠ tid := by
  refine ⟨?_, ?_, ?_⟩
  · intro before tid now post htr
    rcases Option.isSome_iff_exists.mp (halt.2 before tid now post htr) with ⟨⟨hk, t⟩, hopen⟩
    rcases openCall_eq_some before tid hk t hopen with ⟨pre, fn, mid, hbefore, hop, hmid⟩
    -- The entry comes before the return, so it is not later.
    have hle : t.ns.toNat ≤ now.ns.toNat := by
      have hordered := htime
      rw [NowOrdered, htr, hbefore, List.append_assoc, List.cons_append, List.pairwise_append,
        List.pairwise_cons] at hordered
      exact hordered.2.1.1 (.ret tid now) (List.mem_append_right _ List.mem_cons_self)
    have hlt := now.lt
    refine ⟨pre, fn, hk.dev, t, mid, hbefore, hmid, ?_, fun tid' => ?_⟩
    · rw [hop, return_step before tid now t hk hopen hle]
      exact oneMore_recordSample _ hk _ (by omega)
    · rw [kprobeStep, kretprobe_lookup]
      exact if_congr eq_comm rfl rfl
  · intro before fn tid sDev now post _
    rw [kprobeStep_entry]
    exact ⟨rfl, fun tid' hne => Finmap.lookup_insert_of_ne _ hne⟩
  · intro tid start
    rw [start_eq_openCall]
    constructor
    · intro h
      rcases Option.map_eq_some_iff.mp h with ⟨⟨hk, t⟩, hopen, rfl⟩
      rcases openCall_eq_some tr tid hk t hopen with ⟨pre, fn, mid, htr, hop, hmid⟩
      exact ⟨pre, fn, t, mid, htr, hop, rfl, hmid⟩
    · rintro ⟨pre, fn, entered, mid, htr, hop, hts, hmid⟩
      have hopen := openCall_of_entry fn start.dev entered pre mid hmid
      rw [← htr] at hopen
      rw [hopen, Option.map_some, hop, hts]

/-- Two threads, one reading and one opening a file of another device. -/
def twoThreads : List KprobeEvent :=
  [.entry .nfsFileRead 1 7 (.early 0), .entry .nfs4FileOpen 2 8 (.early 1000),
    .ret 1 (.early 5000), .ret 2 (.early 90000)]

theorem alternates_twoThreads : Alternates twoThreads := by
  refine ⟨?_, ?_⟩
  · intro pre fn tid sDev now post htr
    rcases pre with _ | ⟨e₁, _ | ⟨e₂, _ | ⟨e₃, _ | ⟨e₄, pre⟩⟩⟩⟩ <;>
      simp [twoThreads, openCall] at htr ⊢
    rcases htr with ⟨rfl, ⟨_, rfl, _⟩, _⟩
    simp [KprobeEvent.thread]
  · intro pre tid now post htr
    rcases pre with _ | ⟨e₁, _ | ⟨e₂, _ | ⟨e₃, _ | ⟨e₄, pre⟩⟩⟩⟩ <;>
      simp [twoThreads, openCall] at htr ⊢
    · rcases htr with ⟨rfl, rfl, ⟨rfl, _⟩, _⟩
      simp [KprobeEvent.thread]
    · rcases htr with ⟨rfl, rfl, rfl, ⟨rfl, _⟩, _⟩
      simp [KprobeEvent.thread]

theorem nowOrdered_twoThreads : NowOrdered twoThreads := by
  unfold NowOrdered
  decide

/-- The read is counted with its own 5 µs and the open with its own 89 µs, and
    no call is pending. -/
theorem thread_isolation_two_threads :
    (kprobeRun .empty twoThreads).start = ∅ ∧
    ∀ hk (slot : Fin maxSlots), sampleCount (kprobeRun .empty twoThreads).hists hk slot
      = (if hk = ⟨7, 0⟩ ∧ slot.val = slotIndex 5000 then 1 else 0)
        + if hk = ⟨8, 2⟩ ∧ slot.val = slotIndex 89000 then 1 else 0 := by
  refine ⟨by decide +kernel, ?_⟩
  have hreturn := (thread_isolation twoThreads alternates_twoThreads nowOrdered_twoThreads).1
  rcases hreturn (twoThreads.take 2) 1 (.early 5000) [.ret 2 (.early 90000)] rfl
    with ⟨pre, fn, sDev, entered, mid, hbefore, hmid, hread, _⟩
  rcases hreturn (twoThreads.take 3) 2 (.early 90000) [] rfl
    with ⟨pre', fn', sDev', entered', mid', hbefore', hmid', hopened, _⟩
  -- Of the entries before a return one is of its thread.
  have hentry : fn = .nfsFileRead ∧ sDev = 7 ∧ entered = .early 0 := by
    rcases pre with _ | ⟨e₁, _ | ⟨e₂, pre⟩⟩
    · simp [twoThreads] at hbefore
      exact ⟨hbefore.1.1.symm, hbefore.1.2.1.symm, hbefore.1.2.2.symm⟩
    · simp [twoThreads] at hbefore
    · simp [twoThreads] at hbefore
  have hentry' : fn' = .nfs4FileOpen ∧ sDev' = 8 ∧ entered' = .early 1000 := by
    rcases pre' with _ | ⟨e₁, _ | ⟨e₂, _ | ⟨e₃, pre'⟩⟩⟩
    · simp [twoThreads] at hbefore'
    · simp [twoThreads] at hbefore'
      exact ⟨hbefore'.2.1.1.symm, hbefore'.2.1.2.1.symm, hbefore'.2.1.2.2.symm⟩
    · simp [twoThreads] at hbefore'
    · simp [twoThreads] at hbefore'
  rcases hentry with ⟨rfl, rfl, rfl⟩
  rcases hentry' with ⟨rfl, rfl, rfl⟩
  intro hk slot
  refine (hopened.1 hk slot).trans (congrArg (· + _) ?_)
  refine (hread.1 hk slot).trans ?_
  -- Nothing is counted before the first return.
  exact Nat.zero_add _

end Bpf

end LatencyExporter
