import LatencyExporter.Theory.Ignored
import LatencyExporter.Theory.Tracing

/-!
# Where Samples Come From

Block tracing never invents a sample and never counts a request twice, on any
trace whatever. Completions may be unmatched, keys may be issued again while
in flight, operations may be ignored, clocks may run backwards, and the kernel
may evict entries of either map between any two handler runs.

The start map is the only thing a completion knows about the past, so the
argument is about its entries. An entry comes from the last accepted issue of
its key (`entry_origin`): an issue overwrites what was there, and everything
else either leaves the entry of a key alone or removes it. A completion removes
the entry it reads, and without another accepted issue the key stays absent
(`absent_run`). So the issue a sample stems from is determined by the position
of the completion, and no two completions share one.

The count follows from the account of one step: an accepted issue adds at most
one entry, a sample takes one away, and nothing else adds anything.

## Main definitions

* `LruEvent.accepts`, `LruEvent.accepted`: The issues that store a start time.
* `Records`: A handler run changes the histograms.
* `StemsFrom`: The issue a sample stems from.

## Theorems

* `start_of_not_accepts`: Which events can put an entry under a key.
* `entry_origin`: The issue behind an entry.
* `absent_run`: An absent entry stays absent until the next accepted issue.
* `records_stems`: The issue behind a sample.
* `stemsFrom_inj`: No issue is behind two samples.
* `account_run`, `ops_run`: The count, and the operations that occur.
* `samples_stem_from_issues`: All of it together.
-/

namespace LatencyExporter

namespace Bpf

open MapTotal

/-- The event is an accepted issue of the key. -/
def LruEvent.accepts (k : ReqKey) : LruEvent → Bool
  | .handler (.issue ctx _) => classifyOp ctx.rwbs ≠ 0xff && ctx.key = k
  | _ => false

/-- The event is an accepted issue. -/
def LruEvent.accepted : LruEvent → Bool
  | .handler (.issue ctx _) => classifyOp ctx.rwbs ≠ 0xff
  | _ => false

/-- The event at a position is a handler run that changes the histograms. -/
def Records (tr : List LruEvent) (j : Nat) : Prop :=
  ∃ pre e post, tr = pre ++ .handler e :: post ∧ pre.length = j ∧
    (blockStep (lruRun .empty pre) e).hists ≠ (lruRun .empty pre).hists

/-- The event at the second position is a completion that records one sample,
    and the event at the first position is the last accepted issue of its key
    before it. The issue has not the later time, and the sample is that of the
    time between them. -/
def StemsFrom (tr : List LruEvent) (j i : Nat) : Prop :=
  ∃ pre rq issued mid ctx now post,
    tr = (pre ++ .handler (.issue rq issued) :: mid) ++ .handler (.complete ctx now) :: post ∧
    pre.length = i ∧ (pre ++ .handler (.issue rq issued) :: mid).length = j ∧
    classifyOp rq.rwbs ≠ 0xff ∧ rq.key = ctx.key ∧ (∀ e ∈ mid, e.accepts ctx.key = false) ∧
    issued.ns.toNat ≤ now.ns.toNat ∧
    (blockRqComplete (lruRun .empty (pre ++ .handler (.issue rq issued) :: mid)) ctx now).hists
      = recordSample (lruRun .empty (pre ++ .handler (.issue rq issued) :: mid)).hists
          { dev := ctx.dev, op := classifyOp ctx.rwbs }
          (latencySlot ((now.ns.toNat - issued.ns.toNat : Nat) : Int))

theorem lruRun_append (s : BlockState) (tr tr' : List LruEvent) :
    lruRun s (tr ++ tr') = lruRun (lruRun s tr) tr' := List.foldl_append ..

/-- Only an issue is accepted, and only for its own key. -/
theorem accepts_issue (k : ReqKey) (e : LruEvent) (h : e.accepts k = true) :
    ∃ rq issued, e = .handler (.issue rq issued) ∧ classifyOp rq.rwbs ≠ 0xff ∧ rq.key = k := by
  cases e with
  | handler e =>
      cases e with
      | issue rq issued =>
          rw [LruEvent.accepts, Bool.and_eq_true, decide_eq_true_eq, decide_eq_true_eq] at h
          exact ⟨rq, issued, rfl, h.1, h.2⟩
      | complete ctx now => exact absurd h (by simp only [LruEvent.accepts, Bool.false_eq_true,
          not_false_eq_true])
  | evictStart key => exact absurd h (by simp only [LruEvent.accepts, Bool.false_eq_true,
      not_false_eq_true])
  | evictHist hk => exact absurd h (by simp only [LruEvent.accepts, Bool.false_eq_true,
      not_false_eq_true])

/-- Only an accepted issue of a key puts an entry under it. -/
theorem start_of_not_accepts (s : BlockState) (e : LruEvent) (k : ReqKey) (ts : UInt64)
    (hno : e.accepts k = false) (h : (lruStep s e).start.lookup k = some ts) :
    s.start.lookup k = some ts := by
  cases e with
  | handler e =>
      cases e with
      | issue ctx now =>
          simp only [lruStep, blockStep] at h
          -- An issue that is not classified writes nothing, any other one is of another key.
          by_cases hop : classifyOp ctx.rwbs = 0xff
          · rw [blockRqIssue, if_pos hop] at h
            exact h
          · have hk : k ≠ ctx.key := by
              intro hk
              rw [LruEvent.accepts, ← hk] at hno
              simp [hop] at hno
            rw [issue_lookup s ctx now k hop, if_neg hk] at h
            exact h
      | complete ctx now =>
          simp only [lruStep, blockStep, complete_lookup] at h
          split at h
          · exact absurd h (by simp only [reduceCtorEq, not_false_eq_true])
          · exact h
  | evictStart key =>
      simp only [lruStep] at h
      by_cases hk : k = key
      · rw [hk, Finmap.lookup_erase] at h
        exact absurd h (by simp only [reduceCtorEq, not_false_eq_true])
      · rw [Finmap.lookup_erase_ne hk] at h
        exact h
  | evictHist hk => exact h

/-- An entry comes from the last accepted issue of its key. -/
theorem entry_origin (tr : List LruEvent) (k : ReqKey) (ts : UInt64)
    (h : (lruRun .empty tr).start.lookup k = some ts) :
    ∃ pre rq issued mid, tr = pre ++ .handler (.issue rq issued) :: mid ∧
      classifyOp rq.rwbs ≠ 0xff ∧ rq.key = k ∧ issued.ns = ts ∧
      ∀ e ∈ mid, e.accepts k = false := by
  -- From the end, where the last issue is.
  induction tr using List.reverseRecOn with
  | nil =>
      simp only [lruRun, List.foldl_nil, BlockState.empty, Finmap.lookup_empty, reduceCtorEq] at h
  | append_singleton tr e ih =>
      rw [lruRun_append] at h
      cases haccepts : e.accepts k with
      | true =>
          rcases accepts_issue k e haccepts with ⟨rq, issued, rfl, hop, hkey⟩
          refine ⟨tr, rq, issued, [], rfl, hop, hkey, ?_, by simp⟩
          change (blockRqIssue (lruRun .empty tr) rq issued).start.lookup k = some ts at h
          rw [issue_lookup _ rq issued k hop, if_pos hkey.symm, Option.some.injEq] at h
          exact h
      | false =>
          -- The entry was there before, and the last issue is still the last.
          rcases ih (start_of_not_accepts _ e k ts haccepts h) with
            ⟨pre, rq, issued, mid, htr, hop, hkey, hts, hmid⟩
          refine ⟨pre, rq, issued, mid ++ [e], ?_, hop, hkey, hts, ?_⟩
          · rw [htr, List.append_assoc, List.cons_append]
          · exact List.forall_mem_append.mpr ⟨hmid, List.forall_mem_singleton.mpr haccepts⟩

/-- An absent entry stays absent until an issue of its key is accepted. -/
theorem absent_run (s : BlockState) (tr : List LruEvent) (k : ReqKey)
    (habsent : s.start.lookup k = none) (hno : ∀ e ∈ tr, e.accepts k = false) :
    (lruRun s tr).start.lookup k = none := by
  induction tr generalizing s with
  | nil => exact habsent
  | cons e tr ih =>
      refine ih (lruStep s e) ?_ fun e' he' => hno e' (List.mem_cons_of_mem _ he')
      cases hts : (lruStep s e).start.lookup k with
      | none => rfl
      | some ts =>
          have hsome := start_of_not_accepts s e k ts (hno e List.mem_cons_self) hts
          rw [habsent] at hsome
          exact absurd hsome (by simp only [reduceCtorEq, not_false_eq_true])

/-- Recording is never without effect: the number of samples grows. -/
theorem recordSample_ne (hists : HistMap) (hk : HistKey) (slot : Fin maxSlots) :
    recordSample hists hk slot ≠ hists := by
  intro heq
  have htotal := totalSamples_recordSample hists hk slot
  rw [heq] at htotal
  omega

/-- A completion that changes the histograms found an entry and counted it. -/
theorem sample_of_changed (s : BlockState) (ctx : BlockRq) (now : Ktime)
    (h : (blockRqComplete s ctx now).hists ≠ s.hists) :
    ∃ tsp hk slot, s.start.lookup ctx.key = some tsp ∧
      blockSample ctx now tsp = some (hk, slot) := by
  rw [complete_hists] at h
  cases htsp : s.start.lookup ctx.key with
  | none =>
      rw [htsp] at h
      exact absurd rfl h
  | some tsp =>
      rw [htsp, Option.bind_some] at h
      cases hsample : blockSample ctx now tsp with
      | none =>
          rw [hsample] at h
          exact absurd rfl h
      | some x => exact ⟨tsp, x.1, x.2, rfl, hsample⟩

/-- What a counted sample says about the completion and the entry. -/
theorem blockSample_eq_some (ctx : BlockRq) (now : Ktime) (tsp : UInt64) (hk : HistKey)
    (slot : Fin maxSlots) (h : blockSample ctx now tsp = some (hk, slot)) :
    0 ≤ deltaNs now.ns tsp ∧ classifyOp ctx.rwbs ≠ 0xff ∧
      hk = { dev := ctx.dev, op := classifyOp ctx.rwbs } ∧
      slot = latencySlot (deltaNs now.ns tsp) := by
  unfold blockSample at h
  simp only at h
  split at h
  · exact absurd h (by simp only [reduceCtorEq, not_false_eq_true])
  · rename_i hneg
    split at h
    · exact absurd h (by simp only [reduceCtorEq, not_false_eq_true])
    · rename_i hop
      rw [Option.some.injEq, Prod.mk.injEq] at h
      exact ⟨not_lt.mp hneg, hop, h.1.symm, h.2.symm⟩

/-- The same in terms of the two times, neither of which is too late to compare. -/
theorem blockSample_some (ctx : BlockRq) (now issued : Ktime) (hk : HistKey) (slot : Fin maxSlots)
    (h : blockSample ctx now issued.ns = some (hk, slot)) :
    issued.ns.toNat ≤ now.ns.toNat ∧ hk = { dev := ctx.dev, op := classifyOp ctx.rwbs } ∧
      slot = latencySlot ((now.ns.toNat - issued.ns.toNat : Nat) : Int) := by
  rcases blockSample_eq_some ctx now issued.ns hk slot h with ⟨hdelta, _, hhk, hslot⟩
  have hle : issued.ns.toNat ≤ now.ns.toNat := (deltaNs_nonneg_iff now issued).mp hdelta
  rw [deltaNs_of_le now issued hle] at hslot
  exact ⟨hle, hhk, hslot⟩

/-- Every sample stems from an issue. -/
theorem records_stems (tr : List LruEvent) (j : Nat) (h : Records tr j) :
    ∃ i, StemsFrom tr j i := by
  rcases h with ⟨before, e, post, htr, hlen, hchanged⟩
  cases e with
  -- Issues do not touch the histograms.
  | issue ctx now => exact absurd (issue_hists _ ctx now) hchanged
  | complete ctx now =>
      rcases sample_of_changed _ ctx now hchanged with ⟨tsp, hk, slot, hentry, hsample⟩
      rcases entry_origin before ctx.key tsp hentry with
        ⟨pre, rq, issued, mid, hbefore, hop, hkey, hts, hmid⟩
      rw [← hts] at hsample
      rcases blockSample_some ctx now issued hk slot hsample with ⟨hle, hhk, hslot⟩
      refine ⟨pre.length, pre, rq, issued, mid, ctx, now, post, ?_, rfl, ?_, hop, hkey, hmid, hle,
        ?_⟩
      · rw [← hbefore]
        exact htr
      · rw [← hbefore]
        exact hlen
      · rw [← hbefore, complete_hists, hentry, Option.bind_some, ← hts, hsample, hhk, hslot]
        rfl

/-- A completion whose key is absent records nothing. -/
theorem absent_not_records (s : BlockState) (ctx : BlockRq) (now : Ktime) (hk : HistKey)
    (slot : Fin maxSlots) (habsent : s.start.lookup ctx.key = none) :
    (blockRqComplete s ctx now).hists ≠ recordSample s.hists hk slot := by
  rw [complete_hists, habsent]
  exact (recordSample_ne s.hists hk slot).symm

/-- Of two samples from one issue neither is the earlier one: it would have
    deleted the entry. -/
theorem stemsFrom_not_lt (tr : List LruEvent) (i j j' : Nat) (h : StemsFrom tr j i)
    (h' : StemsFrom tr j' i) : ¬ j < j' := by
  rcases h with ⟨pre, rq, issued, mid, ctx, now, post, htr, hi, hj, _, hkey, _, _, _⟩
  rcases h' with ⟨pre', rq', issued', mid', ctx', now', post', htr', hi', hj', _, hkey', hmid', _,
    hrec'⟩
  intro hlt
  rw [htr, List.append_assoc, List.append_assoc] at htr'
  -- The two traces agree up to the issue, and go on behind it.
  rcases List.append_inj htr' (hi.trans hi'.symm) with ⟨hpre, hrest⟩
  rw [List.cons_append, List.cons_append, List.cons.injEq] at hrest
  rcases hrest with ⟨hissue, hrest⟩
  rw [LruEvent.handler.injEq, BlockEvent.issue.injEq] at hissue
  have hlen : mid.length < mid'.length := by
    rw [List.length_append, List.length_cons] at hj hj'
    omega
  -- So the first completion lies between the issue and the second one.
  rcases List.append_eq_append_iff.mp hrest with ⟨rest, hmid, hpost⟩ | ⟨rest, hmid, hpost⟩
  · cases rest with
    | nil =>
        rw [List.append_nil] at hmid
        rw [hmid] at hlen
        exact absurd hlen (Nat.lt_irrefl _)
    | cons c rest =>
        rw [List.cons_append, List.cons.injEq] at hpost
        have hkeys : ctx'.key = ctx.key := by rw [← hkey, ← hkey', hissue.1]
        refine absent_not_records _ ctx' now' _ _ ?_ hrec'
        rw [hmid, ← hpost.1, ← List.cons_append, ← List.append_assoc,
          ← List.singleton_append, ← List.append_assoc, lruRun_append, lruRun_append]
        refine absent_run _ rest ctx'.key ?_ fun e he => hmid' e ?_
        · change (blockRqComplete _ ctx now).start.lookup ctx'.key = none
          rw [complete_lookup, if_pos hkeys]
        · rw [hmid]
          exact List.mem_append_right _ (List.mem_cons_of_mem _ he)
  · rw [hmid, List.length_append] at hlen
    omega

/-- No issue is behind two samples. -/
theorem stemsFrom_inj (tr : List LruEvent) (i j j' : Nat) (h : StemsFrom tr j i)
    (h' : StemsFrom tr j' i) : j = j' :=
  Nat.le_antisymm (Nat.le_of_not_lt (stemsFrom_not_lt tr i j' j h' h))
    (Nat.le_of_not_lt (stemsFrom_not_lt tr i j j' h h'))

/-- Samples and entries of the start map together. -/
def account (s : BlockState) : Nat := totalSamples s.hists + s.start.keys.card

/-- A completion does not add to the account. -/
theorem account_complete (s : BlockState) (ctx : BlockRq) (now : Ktime) :
    account (blockRqComplete s ctx now) ≤ account s := by
  unfold account blockRqComplete
  cases htsp : s.start.lookup ctx.key with
  | none => exact Nat.le_refl _
  | some tsp =>
      -- The entry that goes pays for the sample.
      have hmem : ctx.key ∈ s.start.keys := by
        rw [Finmap.mem_keys, ← Finmap.lookup_isSome, htsp]
        rfl
      have hcard := Finset.card_erase_add_one hmem
      rw [← Finmap.keys_erase] at hcard
      have htotal : totalSamples (recordOpt s.hists (blockSample ctx now tsp))
          ≤ totalSamples s.hists + 1 := by
        cases blockSample ctx now tsp with
        | none => exact Nat.le_succ _
        | some x => exact Nat.le_of_eq (totalSamples_recordSample s.hists x.1 x.2)
      simp only
      omega

/-- Only an accepted issue adds to the account, and no more than one. -/
theorem account_step (s : BlockState) (e : LruEvent) :
    account (lruStep s e) ≤ account s + if e.accepted then 1 else 0 := by
  cases e with
  | handler e =>
      cases e with
      | issue ctx now =>
          simp only [lruStep, blockStep, blockRqIssue, LruEvent.accepted, decide_eq_true_eq]
          by_cases hop : classifyOp ctx.rwbs = 0xff
          · rw [if_pos hop]
            exact Nat.le_add_right _ _
          · -- The key may have an entry already, which is overwritten.
            have hcard := Finset.card_insert_le ctx.key s.start.keys
            rw [if_neg hop, if_pos hop]
            simp only [account, keys_insert]
            omega
      | complete ctx now => exact account_complete s ctx now
  | evictStart key =>
      have hcard : (s.start.erase key).keys.card ≤ s.start.keys.card := by
        rw [Finmap.keys_erase]
        exact Finset.card_erase_le
      simp only [lruStep, account]
      omega
  | evictHist hk =>
      have htotal : totalSamples (s.hists.erase hk) ≤ totalSamples s.hists :=
        total_erase_le histTotal s.hists hk
      simp only [lruStep, account]
      omega

/-- By induction on the trace. -/
theorem account_run (s : BlockState) (tr : List LruEvent) :
    account (lruRun s tr) ≤ account s + tr.countP LruEvent.accepted := by
  induction tr generalizing s with
  | nil => exact Nat.le_refl _
  | cons e tr ih =>
      have hstep := account_step s e
      have hrest := ih (lruStep s e)
      change account (lruRun (lruStep s e) tr) ≤ _
      rw [List.countP_cons]
      omega

/-- What is classified is one of four operations. -/
theorem classifyOp_le (rwbs : Vector UInt8 8) (h : classifyOp rwbs ≠ 0xff) :
    classifyOp rwbs ≤ 3 := by
  unfold classifyOp at h ⊢
  split
  · decide
  · split
    · decide
    · split
      · decide
      · split
        · decide
        · rename_i h0 h1 h2 h3
          rw [if_neg h0, if_neg h1, if_neg h2, if_neg h3] at h
          exact absurd rfl h

/-- All histograms are of one of the four operations. -/
def OpsInRange (hists : HistMap) : Prop := ∀ hk, (hists.lookup hk).isSome → hk.op ≤ 3

/-- A histogram is created only for an operation that is classified. -/
theorem ops_step (s : BlockState) (e : LruEvent) (h : OpsInRange s.hists) :
    OpsInRange (lruStep s e).hists := by
  cases e with
  | handler e =>
      cases e with
      | issue ctx now =>
          change OpsInRange (blockRqIssue s ctx now).hists
          rw [issue_hists]
          exact h
      | complete ctx now =>
          by_cases hchanged : (blockRqComplete s ctx now).hists = s.hists
          · change OpsInRange (blockRqComplete s ctx now).hists
            rw [hchanged]
            exact h
          · rcases sample_of_changed s ctx now hchanged with ⟨tsp, hk, slot, hentry, hsample⟩
            intro hk' hsome
            simp only [lruStep, blockStep, complete_hists, hentry, Option.bind_some, hsample,
              recordOpt] at hsome
            by_cases hkk : hk' = hk
            · rcases blockSample_eq_some ctx now tsp hk slot hsample with ⟨_, hop, hhk, _⟩
              rw [hkk, hhk]
              exact classifyOp_le ctx.rwbs hop
            · rw [recordSample_lookup_ne _ _ _ _ hkk] at hsome
              exact h hk' hsome
  | evictStart key => exact h
  | evictHist hk =>
      intro hk' hsome
      simp only [lruStep] at hsome
      by_cases hkk : hk' = hk
      · rw [hkk, Finmap.lookup_erase] at hsome
        exact absurd hsome (by simp only [Option.isSome_none, Bool.false_eq_true,
          not_false_eq_true])
      · rw [Finmap.lookup_erase_ne hkk] at hsome
        exact h hk' hsome

/-- So all histograms of a run are of these operations. -/
theorem ops_run (s : BlockState) (tr : List LruEvent) (h : OpsInRange s.hists) :
    OpsInRange (lruRun s tr).hists := by
  induction tr generalizing s with
  | nil => exact h
  | cons e tr ih => exact ih (lruStep s e) (ops_step s e h)

/-- On any trace with any evictions: every recorded sample stems from an accepted
    issue, no two samples from the same one, samples and pending entries together
    are no more than the accepted issues, and no histogram is of an operation
    beyond the four. -/
theorem samples_stem_from_issues (tr : List LruEvent) :
    (∃ source : Nat → Nat, (∀ j, Records tr j → StemsFrom tr j (source j)) ∧
      ∀ j j', Records tr j → Records tr j' → source j = source j' → j = j') ∧
    totalSamples (lruRun .empty tr).hists + (lruRun .empty tr).start.keys.card
      ≤ tr.countP LruEvent.accepted ∧
    ∀ hk, ((lruRun .empty tr).hists.lookup hk).isSome → hk.op ≤ 3 := by
  classical
  refine ⟨?_, ?_, ?_⟩
  · -- Choose the issue of each sample.
    have hchoose : ∀ j, ∃ i, Records tr j → StemsFrom tr j i := by
      intro j
      by_cases hj : Records tr j
      · rcases records_stems tr j hj with ⟨i, hi⟩
        exact ⟨i, fun _ => hi⟩
      · exact ⟨0, fun h => absurd h hj⟩
    choose source hsource using hchoose
    refine ⟨source, hsource, ?_⟩
    intro j j' hj hj' heq
    have hstems' := hsource j' hj'
    rw [← heq] at hstems'
    exact stemsFrom_inj tr (source j) j j' (hsource j hj) hstems'
  · have hrun := account_run .empty tr
    have hempty : account .empty = 0 := rfl
    rw [hempty, Nat.zero_add] at hrun
    exact hrun
  · refine ops_run .empty tr ?_
    intro hk hsome
    simp only [BlockState.empty, Finmap.lookup_empty, Option.isSome_none, Bool.false_eq_true]
      at hsome

end Bpf

end LatencyExporter
