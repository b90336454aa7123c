import LatencyExporter.Core.Bpf.Block
import LatencyExporter.Lib.MapTotal
import Mathlib.Algebra.BigOperators.Fin

/-!
# Ignored Operations

Whether operations the block program does not classify leave a trace. The
issue handler returns before it touches the map, so an ignored issue changes
nothing. The completion handler deletes the entry under the request's device
and sector first and classifies the operation afterwards, so an ignored
completion takes away the start time of any classified request that is in
flight under the same key.

Comparing a run with the same run without its ignored events, the first is
never ahead of the second: its start map may lack entries the other has, and
its histograms may lack samples (`Behind`). A missing entry stops mattering
when the next classified event of its key overwrites it, or is a completion
that would have been dropped anyway for running backwards in time. Otherwise
it becomes a missing sample, and those are never made up for. So the two runs
end up the same exactly when every entry an ignored completion takes away is
made irrelevant in one of these two ways (`ignored_invisible_iff`).

## Main definitions

* `histTotal`, `totalSamples`: The samples of one and of all histograms.
* `BlockEvent.ignored`, `visible`: The events that classify to `0xff`, and the
  trace without them.
* `Reclaimed`: A missing entry stops mattering.
* `HarmlessTrace`: Every entry taken away is reclaimed.
* `Behind`, `Sync`: The relation between the two runs, and what it takes for
  them to meet.

## Theorems

* `totalSamples_recordSample`: A sample raises the total by one.
* `issue_lookup`, `complete_lookup`, `complete_hists`: The handlers by their
  effect on each map.
* `harmlessTrace_cons`: The condition along a trace.
* `sync_ignored`, `sync_issue`, `sync_complete`: One event.
* `sync_iff`: When two related runs end up the same.
* `ignored_invisible_iff`: When ignored operations are invisible.
* `emptyRequest_not_invisible`: A trace on which they are not.
-/

namespace LatencyExporter

namespace Bpf

open MapTotal

/-- The number of samples in a histogram. -/
def histTotal (h : Hist) : Nat := ∑ slot, h.slots slot

/-- The number of samples in all histograms. -/
def totalSamples (hists : HistMap) : Nat := total histTotal hists

theorem histTotal_zeroHist : histTotal zeroHist = 0 := Finset.sum_const_zero

/-- An increment adds one sample. -/
theorem histTotal_fetchAndAdd (h : Hist) (slot : Fin maxSlots) :
    histTotal (h.fetchAndAdd slot) = histTotal h + 1 := by
  have hsplit : ∀ i, (h.fetchAndAdd slot).slots i = h.slots i + if i = slot then 1 else 0 := by
    intro i
    simp only [Hist.fetchAndAdd]
    split <;> omega
  simp only [histTotal, hsplit, Finset.sum_add_distrib, Finset.sum_ite_eq', Finset.mem_univ,
    if_true]

/-- Creating a histogram adds no sample. -/
theorem totalSamples_ensureHist (hists : HistMap) (hk : HistKey) :
    totalSamples (ensureHist hists hk) = totalSamples hists := by
  unfold ensureHist
  cases h : hists.lookup hk with
  | none =>
      have hins := total_insert histTotal hists hk zeroHist
      rw [h, histTotal_zeroHist] at hins
      exact hins
  | some histp => rfl

/-- Recording adds one sample, to whichever histogram. -/
theorem totalSamples_recordSample (hists : HistMap) (hk : HistKey) (slot : Fin maxSlots) :
    totalSamples (recordSample hists hk slot) = totalSamples hists + 1 := by
  have hens := totalSamples_ensureHist hists hk
  simp only [recordSample, ensureHist_lookup]
  -- The first write adds an empty histogram, the second one sample.
  have hins := total_insert histTotal (ensureHist hists hk) hk
    (((hists.lookup hk).getD zeroHist).fetchAndAdd slot)
  rw [ensureHist_lookup, Option.elim_some, histTotal_fetchAndAdd] at hins
  unfold totalSamples at hens ⊢
  omega

/-- An issue writes the entry of its own key. -/
theorem issue_lookup (s : BlockState) (ctx : BlockRq) (now : Ktime) (k : ReqKey)
    (hop : classifyOp ctx.rwbs ≠ 0xff) :
    (blockRqIssue s ctx now).start.lookup k
      = if k = ctx.key then some now.ns else s.start.lookup k := by
  rw [blockRqIssue, if_neg hop]
  by_cases hk : k = ctx.key
  · rw [if_pos hk, hk, Finmap.lookup_insert]
  · rw [if_neg hk, Finmap.lookup_insert_of_ne _ hk]

theorem issue_hists (s : BlockState) (ctx : BlockRq) (now : Ktime) :
    (blockRqIssue s ctx now).hists = s.hists := by
  unfold blockRqIssue
  split <;> rfl

/-- A completion deletes the entry of its own key, also of an operation that is
    not classified. -/
theorem complete_lookup (s : BlockState) (ctx : BlockRq) (now : Ktime) (k : ReqKey) :
    (blockRqComplete s ctx now).start.lookup k
      = if k = ctx.key then none else s.start.lookup k := by
  unfold blockRqComplete
  cases h : s.start.lookup ctx.key with
  | none =>
      by_cases hk : k = ctx.key
      · rw [if_pos hk, hk]
        exact h
      · rw [if_neg hk]
  | some tsp =>
      by_cases hk : k = ctx.key
      · rw [if_pos hk, hk, Finmap.lookup_erase]
      · rw [if_neg hk, Finmap.lookup_erase_ne hk]

/-- What a completion counts depends on the entry it finds. -/
theorem complete_hists (s : BlockState) (ctx : BlockRq) (now : Ktime) :
    (blockRqComplete s ctx now).hists
      = recordOpt s.hists ((s.start.lookup ctx.key).bind (blockSample ctx now)) := by
  unfold blockRqComplete
  cases h : s.start.lookup ctx.key with
  | none => rfl
  | some tsp => rfl

/-- A completion of an unclassified operation counts nothing. By then the entry is
    deleted. -/
theorem blockSample_ignored (ctx : BlockRq) (now : Ktime) (tsp : UInt64)
    (hop : classifyOp ctx.rwbs = 0xff) : blockSample ctx now tsp = none := by
  simp only [blockSample, hop, if_true]
  split <;> rfl

/-- A completion of a classified operation counts unless time ran backwards. -/
theorem blockSample_eq_none_iff (ctx : BlockRq) (now : Ktime) (tsp : UInt64)
    (hop : classifyOp ctx.rwbs ≠ 0xff) :
    blockSample ctx now tsp = none ↔ deltaNs now.ns tsp < 0 := by
  simp only [blockSample, if_neg hop]
  split
  · next h => exact iff_of_true rfl h
  · next h => exact iff_of_false (by simp only [reduceCtorEq, not_false_eq_true]) h

/-- The operation of the event's request is not classified. -/
def BlockEvent.ignored (e : BlockEvent) : Bool := classifyOp e.ctx.rwbs = 0xff

/-- The trace without its ignored events. -/
def visible (tr : List BlockEvent) : List BlockEvent := tr.filter fun e => !e.ignored

/-- The next classified event of a key either overwrites its entry or is a
    completion that comes before the time the entry held. -/
def Reclaimed (k : ReqKey) (ts : UInt64) (tr : List BlockEvent) : Prop :=
  match tr.find? (fun e => !e.ignored && e.ctx.key = k) with
  | some (.issue _ _) => True
  | some (.complete _ now) => deltaNs now.ns ts < 0
  | none => False

/-- Every start time that an ignored completion finds and deletes is reclaimed
    by what follows. -/
def HarmlessTrace (s : BlockState) (tr : List BlockEvent) : Prop :=
  ∀ pre ctx now post ts, tr = pre ++ .complete ctx now :: post → classifyOp ctx.rwbs = 0xff →
    (blockRun s pre).start.lookup ctx.key = some ts → Reclaimed ctx.key ts post

/-- Whether a trace is harmless, by its first event and the rest. -/
theorem harmlessTrace_cons (s : BlockState) (e : BlockEvent) (tr : List BlockEvent) :
    HarmlessTrace s (e :: tr) ↔
      (∀ ctx now ts, e = .complete ctx now → classifyOp ctx.rwbs = 0xff →
        s.start.lookup ctx.key = some ts → Reclaimed ctx.key ts tr) ∧
      HarmlessTrace (blockStep s e) tr := by
  constructor
  · intro h
    refine ⟨fun ctx now ts he hop hts => ?_, fun pre ctx now post ts htr hop hts => ?_⟩
    · exact h [] ctx now tr ts (by rw [he, List.nil_append]) hop hts
    · exact h (e :: pre) ctx now post ts (by rw [htr, List.cons_append]) hop hts
  · intro h pre ctx now post ts htr hop hts
    -- The completion is the first event or one of the rest.
    cases pre with
    | nil =>
        rw [List.nil_append, List.cons.injEq] at htr
        rw [← htr.2]
        exact h.1 ctx now ts htr.1 hop hts
    | cons a pre =>
        rw [List.cons_append, List.cons.injEq] at htr
        rw [← htr.1] at hts
        exact h.2 pre ctx now post ts htr.2 hop hts

/-- Ignored events and events of other keys do not reclaim an entry. -/
theorem reclaimed_skip (k : ReqKey) (ts : UInt64) (e : BlockEvent) (tr : List BlockEvent)
    (h : e.ignored = true ∨ e.ctx.key ≠ k) : Reclaimed k ts (e :: tr) ↔ Reclaimed k ts tr := by
  have hskip : (!e.ignored && decide (e.ctx.key = k)) = false := by
    rcases h with h | h
    · rw [h, Bool.not_true, Bool.false_and]
    · rw [decide_eq_false h, Bool.and_false]
  simp only [Reclaimed, List.find?_cons, hskip]

/-- An issue overwrites the entry, so it does not matter that it was gone. -/
theorem reclaimed_issue (k : ReqKey) (ts : UInt64) (ctx : BlockRq) (now : Ktime)
    (tr : List BlockEvent) (hop : classifyOp ctx.rwbs ≠ 0xff) (hk : ctx.key = k) :
    Reclaimed k ts (.issue ctx now :: tr) := by
  simp only [Reclaimed, List.find?_cons, BlockEvent.ignored, BlockEvent.ctx, hop, hk, decide_false,
    Bool.not_false, decide_true, Bool.and_self]

/-- A completion does not notice that the entry was gone only if it would have
    counted nothing. -/
theorem reclaimed_complete (k : ReqKey) (ts : UInt64) (ctx : BlockRq) (now : Ktime)
    (tr : List BlockEvent) (hop : classifyOp ctx.rwbs ≠ 0xff) (hk : ctx.key = k) :
    Reclaimed k ts (.complete ctx now :: tr) ↔ deltaNs now.ns ts < 0 := by
  simp only [Reclaimed, List.find?_cons, BlockEvent.ignored, BlockEvent.ctx, hop, hk, decide_false,
    Bool.not_false, decide_true, Bool.and_self]

/-- One set of histograms is another one, or has fewer samples. -/
def HistsBehind (A B : HistMap) : Prop := A = B ∨ totalSamples A < totalSamples B

/-- Two runs that count the same stay as far apart as they were. -/
theorem histsBehind_recordOpt (A B : HistMap) (label : Option (HistKey × Fin maxSlots))
    (h : HistsBehind A B) :
    HistsBehind (recordOpt A label) (recordOpt B label) ∧
      (recordOpt A label = recordOpt B label ↔ A = B) := by
  rcases h with rfl | hlt
  · exact ⟨Or.inl rfl, iff_of_true rfl rfl⟩
  · cases label with
    | none =>
        exact ⟨Or.inr hlt, Iff.rfl⟩
    | some x =>
        -- The gap in the totals survives, and rules out equality before and after.
        have hlt' : totalSamples (recordSample A x.1 x.2)
            < totalSamples (recordSample B x.1 x.2) := by
          rw [totalSamples_recordSample, totalSamples_recordSample]
          omega
        refine ⟨Or.inr hlt', iff_of_false (fun hc => ?_) (fun hc => ?_)⟩
        · exact absurd (congrArg totalSamples hc) (Nat.ne_of_lt hlt')
        · exact absurd (congrArg totalSamples hc) (Nat.ne_of_lt hlt)

/-- A sample that only one run counts is never made up for. -/
theorem histsBehind_recordSample (A B : HistMap) (hk : HistKey) (slot : Fin maxSlots)
    (h : HistsBehind A B) :
    HistsBehind A (recordSample B hk slot) ∧ A ≠ recordSample B hk slot := by
  have hlt : totalSamples A < totalSamples (recordSample B hk slot) := by
    rw [totalSamples_recordSample]
    rcases h with rfl | hlt <;> omega
  exact ⟨Or.inr hlt, fun hc => absurd (congrArg totalSamples hc) (Nat.ne_of_lt hlt)⟩

/-- The first run lacks entries or samples the second one has, and nothing
    else tells them apart. -/
structure Behind (F G : BlockState) : Prop where
  start : ∀ k, F.start.lookup k = G.start.lookup k ∨ F.start.lookup k = none
  hists : HistsBehind F.hists G.hists

/-- The histograms agree, every missing entry is reclaimed, and so is every
    entry that will go missing. -/
structure Sync (F G : BlockState) (tr : List BlockEvent) : Prop where
  hists : F.hists = G.hists
  missing : ∀ k ts, F.start.lookup k = none → G.start.lookup k = some ts → Reclaimed k ts tr
  harmless : HarmlessTrace F tr

/-- At the end of the trace nothing can be reclaimed any more. -/
theorem sync_nil (F G : BlockState) (h : Behind F G) : F = G ↔ Sync F G [] := by
  constructor
  · intro he
    subst he
    refine ⟨rfl, fun k ts hn hs => ?_, fun pre ctx now post ts htr => ?_⟩
    · rw [hn] at hs
      exact absurd hs (by simp only [reduceCtorEq, not_false_eq_true])
    · exact absurd htr (by simp only [List.nil_eq, List.append_eq_nil_iff, reduceCtorEq,
        and_false, not_false_eq_true])
  · intro hs
    have hstart : F.start = G.start := by
      refine Finmap.ext_lookup fun k => ?_
      rcases h.start k with heq | hnone
      · exact heq
      · -- A missing entry would have to be reclaimed by an empty trace.
        rw [hnone]
        cases hg : G.start.lookup k with
        | none => rfl
        | some ts => exact (hs.missing k ts hnone hg).elim
    cases F with
    | mk st hi =>
        cases G with
        | mk st' hi' =>
            rw [BlockState.mk.injEq]
            exact ⟨hstart, hs.hists⟩

/-- An ignored event moves only the run that sees it. -/
theorem sync_ignored (F G : BlockState) (e : BlockEvent) (tr : List BlockEvent) (h : Behind F G)
    (he : e.ignored = true) :
    Behind (blockStep F e) G ∧ (Sync F G (e :: tr) ↔ Sync (blockStep F e) G tr) := by
  have hskip : ∀ k ts, Reclaimed k ts (e :: tr) ↔ Reclaimed k ts tr := fun k ts =>
    reclaimed_skip k ts e tr (Or.inl he)
  cases e with
  -- The issue handler returns before it writes.
  | issue ctx now =>
      have hop : classifyOp ctx.rwbs = 0xff := of_decide_eq_true he
      have hstep : blockStep F (.issue ctx now) = F := by
        simp only [blockStep, blockRqIssue, hop, if_true]
      refine ⟨hstep.symm ▸ h, ?_⟩
      constructor
      · intro hs
        refine ⟨by rw [hstep]; exact hs.hists, fun k ts hn hg => ?_, ?_⟩
        · rw [hstep] at hn
          exact (hskip k ts).mp (hs.missing k ts hn hg)
        · exact ((harmlessTrace_cons F _ tr).mp hs.harmless).2
      · intro hs
        rw [hstep] at hs
        refine ⟨hs.hists, fun k ts hn hg => (hskip k ts).mpr (hs.missing k ts hn hg), ?_⟩
        refine (harmlessTrace_cons F _ tr).mpr ⟨fun _ _ _ hc => ?_, hstep.symm ▸ hs.harmless⟩
        exact absurd hc (by simp only [reduceCtorEq, not_false_eq_true])
  | complete ctx now =>
      have hop : classifyOp ctx.rwbs = 0xff := of_decide_eq_true he
      have hlook : ∀ k, (blockStep F (.complete ctx now)).start.lookup k
          = if k = ctx.key then none else F.start.lookup k := complete_lookup F ctx now
      have hhists : (blockStep F (.complete ctx now)).hists = F.hists := by
        change (blockRqComplete F ctx now).hists = F.hists
        rw [complete_hists]
        cases F.start.lookup ctx.key with
        | none => rfl
        | some tsp => rw [Option.bind_some, blockSample_ignored ctx now tsp hop]; rfl
      -- It counts nothing but deletes the entry of its key, for one run only.
      refine ⟨⟨fun k => ?_, hhists.symm ▸ h.hists⟩, ?_⟩
      · rw [hlook]
        split
        · exact Or.inr rfl
        · exact h.start k
      · constructor
        · intro hs
          rcases (harmlessTrace_cons F _ tr).mp hs.harmless with ⟨hhead, htail⟩
          refine ⟨hhists.trans hs.hists, fun k ts hn hg => ?_, htail⟩
          rw [hlook] at hn
          by_cases hk : k = ctx.key
          · -- The entry the completion takes away, unless it was gone already.
            rw [hk] at hg ⊢
            rcases h.start ctx.key with heq | hnone
            · exact hhead ctx now ts rfl hop (heq.trans hg)
            · exact (hskip _ ts).mp (hs.missing _ ts hnone hg)
          · rw [if_neg hk] at hn
            exact (hskip k ts).mp (hs.missing k ts hn hg)
        · intro hs
          refine ⟨hhists.symm.trans hs.hists, fun k ts hn hg => ?_, ?_⟩
          · refine (hskip k ts).mpr (hs.missing k ts ?_ hg)
            rw [hlook, hn]
            split <;> rfl
          · refine (harmlessTrace_cons F _ tr).mpr ⟨fun ctx' now' ts hc _ hts => ?_, hs.harmless⟩
            rw [BlockEvent.complete.injEq] at hc
            rw [← hc.1] at hts ⊢
            rcases h.start ctx.key with heq | hnone
            · exact hs.missing _ ts (by rw [hlook, if_pos rfl]) (heq.symm.trans hts)
            · rw [hnone] at hts
              exact absurd hts (by simp only [reduceCtorEq, not_false_eq_true])

/-- An issue makes up for a missing entry of its key. -/
theorem sync_issue (F G : BlockState) (ctx : BlockRq) (now : Ktime) (tr : List BlockEvent)
    (h : Behind F G) (hop : classifyOp ctx.rwbs ≠ 0xff) :
    Behind (blockRqIssue F ctx now) (blockRqIssue G ctx now) ∧
      (Sync F G (.issue ctx now :: tr) ↔
        Sync (blockRqIssue F ctx now) (blockRqIssue G ctx now) tr) := by
  have hF := fun k => issue_lookup F ctx now k hop
  have hG := fun k => issue_lookup G ctx now k hop
  have hskip : ∀ k ts, ctx.key ≠ k → (Reclaimed k ts (.issue ctx now :: tr) ↔ Reclaimed k ts tr) :=
    fun k ts hk => reclaimed_skip k ts _ tr (Or.inr hk)
  have hhists : (blockRqIssue F ctx now).hists = (blockRqIssue G ctx now).hists ↔
      F.hists = G.hists := by
    rw [issue_hists, issue_hists]
  refine ⟨⟨fun k => ?_, ?_⟩, ?_⟩
  · rw [hF, hG]
    split
    · exact Or.inl rfl
    · exact h.start k
  · rw [issue_hists, issue_hists]
    exact h.hists
  · constructor
    · intro hs
      refine ⟨hhists.mpr hs.hists, fun k ts hn hg => ?_,
        ((harmlessTrace_cons F _ tr).mp hs.harmless).2⟩
      rw [hF] at hn
      rw [hG] at hg
      by_cases hk : k = ctx.key
      · -- After the issue the entry is there again.
        rw [if_pos hk] at hn
        exact absurd hn (by simp only [reduceCtorEq, not_false_eq_true])
      · rw [if_neg hk] at hn hg
        exact (hskip k ts (Ne.symm hk)).mp (hs.missing k ts hn hg)
    · intro hs
      refine ⟨hhists.mp hs.hists, fun k ts hn hg => ?_, ?_⟩
      · by_cases hk : k = ctx.key
        · -- An entry that was missing is overwritten by this issue.
          exact reclaimed_issue k ts ctx now tr hop hk.symm
        · refine (hskip k ts (Ne.symm hk)).mpr (hs.missing k ts ?_ ?_)
          · rw [hF, if_neg hk, hn]
          · rw [hG, if_neg hk, hg]
      · refine (harmlessTrace_cons F _ tr).mpr ⟨fun _ _ _ hc => ?_, hs.harmless⟩
        exact absurd hc (by simp only [reduceCtorEq, not_false_eq_true])

/-- After a classified completion the histograms agree if they did before and
    the completion did not turn a missing entry into a missing sample. -/
theorem complete_histsBehind (F G : BlockState) (ctx : BlockRq) (now : Ktime) (h : Behind F G)
    (hop : classifyOp ctx.rwbs ≠ 0xff) :
    HistsBehind (blockRqComplete F ctx now).hists (blockRqComplete G ctx now).hists ∧
      ((blockRqComplete F ctx now).hists = (blockRqComplete G ctx now).hists ↔
        F.hists = G.hists ∧ ∀ ts, F.start.lookup ctx.key = none →
          G.start.lookup ctx.key = some ts → deltaNs now.ns ts < 0) := by
  rw [complete_hists, complete_hists]
  rcases h.start ctx.key with heq | hnone
  · rw [heq]
    rcases histsBehind_recordOpt _ _ ((G.start.lookup ctx.key).bind (blockSample ctx now))
      h.hists with ⟨hb, hiff⟩
    refine ⟨hb, hiff.trans ⟨fun he => ⟨he, fun ts hn hg => ?_⟩, fun he => he.1⟩⟩
    rw [hn] at hg
    exact absurd hg (by simp only [reduceCtorEq, not_false_eq_true])
  · rw [hnone, Option.bind_none]
    cases hg : G.start.lookup ctx.key with
    | none =>
        refine ⟨h.hists, fun he => ⟨he, fun ts _ hc => ?_⟩, fun he => he.1⟩
        exact absurd hc (by simp only [reduceCtorEq, not_false_eq_true])
    | some ts =>
        rw [Option.bind_some]
        cases hsample : blockSample ctx now ts with
        | none =>
            -- Time ran backwards, so neither run counts anything.
            have hneg := (blockSample_eq_none_iff ctx now ts hop).mp hsample
            refine ⟨h.hists, fun he => ⟨he, fun ts' _ hc => ?_⟩, fun he => he.1⟩
            rw [← Option.some.inj hc]
            exact hneg
        | some x =>
            -- Only the second run counts, and it stays ahead from here on.
            have hnonneg : ¬ deltaNs now.ns ts < 0 := by
              intro hc
              rw [(blockSample_eq_none_iff ctx now ts hop).mpr hc] at hsample
              exact absurd hsample (by simp only [reduceCtorEq, not_false_eq_true])
            rcases histsBehind_recordSample _ _ x.1 x.2 h.hists with ⟨hb, hne⟩
            exact ⟨hb, iff_of_false hne fun hc => hnonneg (hc.2 ts rfl rfl)⟩

/-- A completion has to find the same entry in both runs, or nothing worth
    counting. -/
theorem sync_complete (F G : BlockState) (ctx : BlockRq) (now : Ktime) (tr : List BlockEvent)
    (h : Behind F G) (hop : classifyOp ctx.rwbs ≠ 0xff) :
    Behind (blockRqComplete F ctx now) (blockRqComplete G ctx now) ∧
      (Sync F G (.complete ctx now :: tr) ↔
        Sync (blockRqComplete F ctx now) (blockRqComplete G ctx now) tr) := by
  have hF := complete_lookup F ctx now
  have hG := complete_lookup G ctx now
  have hskip : ∀ k ts, ctx.key ≠ k →
      (Reclaimed k ts (.complete ctx now :: tr) ↔ Reclaimed k ts tr) :=
    fun k ts hk => reclaimed_skip k ts _ tr (Or.inr hk)
  rcases complete_histsBehind F G ctx now h hop with ⟨hb, hiff⟩
  refine ⟨⟨fun k => ?_, hb⟩, ?_⟩
  · rw [hF, hG]
    split
    · exact Or.inl rfl
    · exact h.start k
  · constructor
    · intro hs
      refine ⟨hiff.mpr ⟨hs.hists, fun ts hn hg => ?_⟩, fun k ts hn hg => ?_,
        ((harmlessTrace_cons F _ tr).mp hs.harmless).2⟩
      · -- Only the run without the ignored events finds an entry, and counts
        -- nothing from it.
        exact (reclaimed_complete _ ts ctx now tr hop rfl).mp (hs.missing _ ts hn hg)
      · rw [hF] at hn
        rw [hG] at hg
        by_cases hk : k = ctx.key
        · -- Both runs have deleted the entry.
          rw [if_pos hk] at hg
          exact absurd hg (by simp only [reduceCtorEq, not_false_eq_true])
        · rw [if_neg hk] at hn hg
          exact (hskip k ts (Ne.symm hk)).mp (hs.missing k ts hn hg)
    · intro hs
      rcases hiff.mp hs.hists with ⟨hhists, hneg⟩
      refine ⟨hhists, fun k ts hn hg => ?_, ?_⟩
      · by_cases hk : k = ctx.key
        · rw [hk] at hn hg ⊢
          exact (reclaimed_complete _ ts ctx now tr hop rfl).mpr (hneg ts hn hg)
        · refine (hskip k ts (Ne.symm hk)).mpr (hs.missing k ts ?_ ?_)
          · rw [hF, if_neg hk, hn]
          · rw [hG, if_neg hk, hg]
      · refine (harmlessTrace_cons F _ tr).mpr ⟨fun ctx' now' ts hc hop' _ => ?_, hs.harmless⟩
        rw [BlockEvent.complete.injEq] at hc
        rw [← hc.1] at hop'
        exact absurd hop' hop

/-- A run and a run without the ignored events, started from related states,
    end up the same exactly when they are in sync. -/
theorem sync_iff (tr : List BlockEvent) : ∀ (F G : BlockState), Behind F G →
    (blockRun F tr = blockRun G (visible tr) ↔ Sync F G tr) := by
  -- `Behind` is kept by every event, `Sync` is moved past it.
  induction tr with
  | nil => exact sync_nil
  | cons e tr ih =>
      intro F G h
      cases he : e.ignored with
      | true =>
          rcases sync_ignored F G e tr h he with ⟨hb, hiff⟩
          have hvis : visible (e :: tr) = visible tr := by
            simp only [visible, List.filter_cons, he, Bool.not_true, Bool.false_eq_true, if_false]
          rw [hiff, hvis, blockRun_cons]
          exact ih _ _ hb
      | false =>
          have hop : classifyOp e.ctx.rwbs ≠ 0xff := of_decide_eq_false he
          have hvis : visible (e :: tr) = e :: visible tr := by
            simp only [visible, List.filter_cons, he, Bool.not_false, if_true]
          rw [hvis, blockRun_cons, blockRun_cons]
          cases e with
          | issue ctx now =>
              rcases sync_issue F G ctx now tr h hop with ⟨hb, hiff⟩
              rw [hiff]
              exact ih _ _ hb
          | complete ctx now =>
              rcases sync_complete F G ctx now tr h hop with ⟨hb, hiff⟩
              rw [hiff]
              exact ih _ _ hb

/-- Leaving out the ignored events makes no difference to the final maps
    exactly when every start time an ignored completion deletes is reclaimed. -/
theorem ignored_invisible_iff (s : BlockState) (tr : List BlockEvent) :
    blockRun s (visible tr) = blockRun s tr ↔ HarmlessTrace s tr := by
  have hrefl : Behind s s := ⟨fun k => Or.inl rfl, Or.inl rfl⟩
  rw [eq_comm, sync_iff tr s s hrefl]
  refine ⟨fun h => h.harmless, fun h => ⟨rfl, fun k ts hn hs => ?_, h⟩⟩
  rw [hn] at hs
  exact absurd hs (by simp only [reduceCtorEq, not_false_eq_true])

/-- A read of sector 0 is issued, a request without data (`N`) completes at
    sector 0, and the read completes. -/
def emptyRequestTrace : List BlockEvent :=
  let rd : BlockRq := ⟨1, 0, rwbsOf 'R'⟩
  let none : BlockRq := ⟨1, 0, rwbsOf 'N'⟩
  [.issue rd (.early 0), .issue none (.early 1000), .complete none (.early 2000),
    .complete rd (.early 9000)]

/-- The read is lost: its start time was deleted by the request without data. -/
theorem emptyRequest_not_invisible :
    blockRun BlockState.empty (visible emptyRequestTrace)
      ≠ blockRun BlockState.empty emptyRequestTrace := by
  intro h
  have hcount := congrArg (fun s => sampleCount s.hists ⟨1, 0⟩ ⟨3, by decide⟩) h
  revert hcount
  decide +kernel

end Bpf

end LatencyExporter
