import LatencyExporter.Theory.AllOrNothing

/-!
# Loaded Programs over Whole Runs

Whether the fields of `Programs` tell the truth, and whether everything that
was loaded and attached is closed once in the end.

The two NFS loaders keep what they acquire to themselves until all calls have
succeeded, and close it otherwise. The block loader sets the fields as soon as
the collection is loaded. When an attachment fails after that, it closes the
collection, and the link if there is one, and leaves both in the fields. The
flag and the map stay consistent, since a flag is set only after a loader has
returned without an error. But `Close` goes through the fields, so if the
programs are returned for the sake of another subsystem, these handles are
closed a second time.

The invariant (`Inv`) carries the list of handles that were closed and not
given up. It is empty or not once block has been tried, and no later step
changes it.

## Main definitions

* `SubsystemOk`: The fields of an NFS subsystem.
* `BlockOk`: The fields of the block subsystem.
* `Inv`: The invariant.
* `ActiveIffOpen`: The flags tell which maps can be read.
* `HalfAttached`: The block programs are loaded and not all attached.
* `ConsistentRun`: The property of a run.

## Theorems

* `loaderSpec_of_run`: A loader that commits or rolls back.
* `loadNFS_spec`, `loadNFSKprobe_spec`: The NFS loaders.
* `startBlock_spec`, `startNFS_spec`, `startNFSKprobe_spec`: The start.
* `inv_retryFailed`: All ticks.
* `Inv.activeIffOpen`, `Inv.closedOnce_iff`: What the invariant says.
* `consistentRun_iff`: When a run is consistent.
-/

namespace LatencyExporter

namespace Loader

open Bpf Handles

/-- What a loader that failed leaves alone, and what one that succeeded has
    acquired. `installed` are the fields after a success. -/
def LoaderSpec (r : Option String × Programs × Handles) (p : Programs)
    (installed : Nat → List Nat → Programs) (stale : List Nat) : Prop :=
  match r with
  | (some _, p', k') => p' = p ∧ Balanced k' p.handles stale
  | (none, p', k') => ∃ objs links, p' = installed objs links ∧ objs ∉ stale ∧
      Balanced k' (installed objs links).handles stale

/-- A loader that commits or rolls back keeps the balance. What it commits is all
    that it acquired, and none of it is stale. -/
theorem loaderSpec_of_run {r : Option String × Programs × Handles} {p : Programs} {k : Handles}
    {installed : Nat → List Nat → Programs} {stale : List Nat} (hbal : Balanced k p.handles stale)
    (hperm : ∀ objs links, (installed objs links).handles.Perm (objs :: links ++ p.handles))
    (hrun : match r with
      | (some _, p', k') => RolledBack p k p' k'
      | (none, p', k') => k'.closes = k.closes ∧ ∃ objs links,
          acquiredSince k k' = objs :: links ∧ p' = installed objs links) :
    LoaderSpec r p installed stale := by
  -- Handles are numbered upwards, so a new one cannot be stale.
  rcases r with ⟨_ | err, p', k'⟩
  · rcases hrun with ⟨hcloses, objs, links, hnew, hp⟩
    rcases mem_acquiredSince (hnew ▸ List.mem_cons_self) with ⟨hge, hlt⟩
    refine ⟨objs, links, hp, fun hmem => absurd (hbal.stale_lt objs hmem) (by omega), ?_⟩
    have hheld := balanced_acquiredSince hbal (by omega) hcloses
    rw [hnew] at hheld
    exact hheld.perm (hperm objs links)
  · exact ⟨hrun.1, hbal.of_undone hrun.2⟩

/-- `loadNFS` from fields without an NFS collection. -/
theorem loadNFS_spec (calls : NfsCalls) (p : Programs) (k : Handles) (stale : List Nat)
    (hbal : Balanced k p.handles stale) (hnone : p.nfsObjs = none) :
    LoaderSpec (loadNFS calls p k) p
      (fun objs links => { p with nfsObjs := some objs, nfsHists := some objs,
                                  links := p.links ++ links }) stale := by
  refine loaderSpec_of_run hbal (fun objs links => ?_) (loadNFS_run calls p k)
  rw [List.perm_iff_count]
  intro h
  simp only [Programs.handles, hnone, List.count_append, List.count_cons, List.count_nil,
    Option.toList_some, Option.toList_none]
  omega

/-- `loadNFSKprobe` from fields without a collection of probes. -/
theorem loadNFSKprobe_spec (calls : KprobeCalls) (p : Programs) (k : Handles) (stale : List Nat)
    (hbal : Balanced k p.handles stale) (hnone : p.nfsKprobeObjs = none) :
    LoaderSpec (loadNFSKprobe calls p k) p
      (fun objs links => { p with nfsKprobeObjs := some objs, nfsKprobeHists := some objs,
                                  links := p.links ++ links }) stale := by
  have hrun := loadNFSKprobe_run calls p k
  refine loaderSpec_of_run hbal (fun objs links => ?_) ?_
  · rw [List.perm_iff_count]
    intro h
    simp only [Programs.handles, hnone, List.count_append, List.count_cons, List.count_nil,
      Option.toList_some, Option.toList_none]
    omega
  · -- The balance does not depend on which functions the links are for.
    generalize loadNFSKprobe calls p k = r at hrun ⊢
    rcases r with ⟨_ | err, p', k'⟩
    · rcases hrun with ⟨hcloses, objs, entry, ret, _, hnew, hp, _⟩
      exact ⟨hcloses, objs, _, hnew, hp⟩
    · exact hrun

/-- The fields of an NFS subsystem: it is active exactly if it has a collection,
    its map is of that collection, and it is not retried then. -/
structure SubsystemOk (active retry : Bool) (objs hists : Option Nat) (stale : List Nat) :
    Prop where
  hists_eq : hists = objs
  active_eq : active = objs.isSome
  not_stale : ∀ o, objs = some o → o ∉ stale
  retry_none : retry = true → objs = none

/-- The fields of the block subsystem: active with a collection that is open, or
    inactive with a collection that is stale, if any. -/
def BlockOk (p : Programs) (stale : List Nat) : Prop :=
  (p.blockActive = true ∧ ∃ o, p.blockObjs = some o ∧ p.blockHists = some o ∧ o ∉ stale) ∨
  (p.blockActive = false ∧ ∀ o, p.blockHists = some o → o ∈ stale)

/-- The invariant of the programs and the handles. -/
structure Inv (s : Programs × Handles) (stale : List Nat) : Prop where
  balanced : Balanced s.2 s.1.handles stale
  block : BlockOk s.1 stale
  nfs : SubsystemOk s.1.nfsActive s.1.retryNFS s.1.nfsObjs s.1.nfsHists stale
  nfsKprobe : SubsystemOk s.1.nfsKprobeActive s.1.retryNFSKprobe s.1.nfsKprobeObjs
    s.1.nfsKprobeHists stale

/-- A flag is set exactly if its map is there and belongs to a collection that
    has not been closed. -/
def ActiveIffOpen (s : Programs × Handles) : Prop :=
  (s.1.blockActive = true ↔ ∃ o, s.1.blockHists = some o ∧ s.2.closes o = 0) ∧
  (s.1.nfsActive = true ↔ ∃ o, s.1.nfsHists = some o ∧ s.2.closes o = 0) ∧
  (s.1.nfsKprobeActive = true ↔ ∃ o, s.1.nfsKprobeHists = some o ∧ s.2.closes o = 0)

/-- A subsystem nobody has tried. -/
theorem subsystemOk_untried (stale : List Nat) : SubsystemOk false false none none stale :=
  ⟨rfl, rfl, fun _ ho => absurd ho (by simp only [reduceCtorEq, not_false_eq_true]), fun _ => rfl⟩

/-- A subsystem that has been loaded. -/
theorem subsystemOk_loaded {objs : Nat} {stale : List Nat} (hfresh : objs ∉ stale) :
    SubsystemOk true false (some objs) (some objs) stale := by
  refine ⟨rfl, rfl, fun o ho => ?_, fun hc => absurd hc Bool.false_ne_true⟩
  rw [← Option.some.inj ho]
  exact hfresh

/-- A subsystem that is not loaded can be retried or not. -/
theorem SubsystemOk.retry {active retry : Bool} {objs hists : Option Nat} {stale : List Nat}
    (hok : SubsystemOk active retry objs hists stale) (hnone : objs = none) (retry' : Bool) :
    SubsystemOk active retry' objs hists stale :=
  ⟨hok.hists_eq, hok.active_eq, hok.not_stale, fun _ => hnone⟩

theorem SubsystemOk.active_iff {active retry : Bool} {objs hists : Option Nat} {stale : List Nat}
    (hok : SubsystemOk active retry objs hists stale) {k : Handles} {held : List Nat}
    (hbal : Balanced k held stale) (hheld : ∀ o, objs = some o → o ∈ held) :
    active = true ↔ ∃ o, hists = some o ∧ k.closes o = 0 := by
  rw [hok.active_eq, hok.hists_eq]
  constructor
  · intro hsome
    rcases Option.isSome_iff_exists.mp hsome with ⟨o, ho⟩
    exact ⟨o, ho, (hbal.open_of_mem o (hheld o ho) (hok.not_stale o ho)).1⟩
  · rintro ⟨o, ho, _⟩
    rw [ho, Option.isSome_some]

theorem Inv.activeIffOpen {s : Programs × Handles} {stale : List Nat} (hinv : Inv s stale) :
    ActiveIffOpen s := by
  refine ⟨?_, ?_, ?_⟩
  · -- Only block can be inactive and still have a map, which is stale then.
    rcases hinv.block with ⟨hactive, o, hobjs, hhists, hstale⟩ | ⟨hactive, hhists⟩
    · refine iff_of_true hactive ⟨o, hhists, (hinv.balanced.open_of_mem o ?_ hstale).1⟩
      simp [Programs.handles, hobjs]
    · refine iff_of_false (by rw [hactive]; exact Bool.false_ne_true) ?_
      rintro ⟨o, ho, hopen⟩
      have hclosed := hinv.balanced.stale_closed o (hhists o ho)
      omega
  · exact hinv.nfs.active_iff hinv.balanced fun o ho => by simp [Programs.handles, ho]
  · exact hinv.nfsKprobe.active_iff hinv.balanced fun o ho => by simp [Programs.handles, ho]

theorem Inv.closedOnce_iff {s : Programs × Handles} {stale : List Nat} (hinv : Inv s stale) :
    (s.1.close s.2).ClosedOnce ↔ stale = [] := by
  have hbal : Balanced s.2 (s.1.handles ++ []) stale := by
    rw [List.append_nil]
    exact hinv.balanced
  exact (balanced_closeAll s.1.handles hbal).closedOnce_iff

/-- Trying NFS keeps the invariant, with the flags that are set afterwards at
    the start and on a tick. -/
theorem inv_loadNFS (calls : NfsCalls) (s : Programs × Handles) (stale : List Nat)
    (hinv : Inv s stale) (hnone : s.1.nfsObjs = none) :
    match loadNFS calls s.1 s.2 with
    | (some _, p, k) => p = s.1 ∧ ∀ retry, Inv ({ p with retryNFS := retry }, k) stale
    | (none, p, k) => (∃ objs links, p = { s.1 with nfsObjs := some objs, nfsHists := some objs,
                                                    links := s.1.links ++ links }) ∧
        Inv ({ p with nfsActive := true, retryNFS := false }, k) stale := by
  have hspec := loadNFS_spec calls s.1 s.2 stale hinv.balanced hnone
  generalize loadNFS calls s.1 s.2 = r at hspec ⊢
  rcases r with ⟨_ | err, p, k⟩
  · rcases hspec with ⟨objs, links, rfl, hfresh, hbal⟩
    exact ⟨⟨objs, links, rfl⟩, hbal, hinv.block, subsystemOk_loaded hfresh, hinv.nfsKprobe⟩
  · rcases hspec with ⟨rfl, hbal⟩
    exact ⟨rfl, fun retry => ⟨hbal, hinv.block, hinv.nfs.retry hnone retry, hinv.nfsKprobe⟩⟩

theorem inv_loadNFSKprobe (calls : KprobeCalls) (s : Programs × Handles) (stale : List Nat)
    (hinv : Inv s stale) (hnone : s.1.nfsKprobeObjs = none) :
    match loadNFSKprobe calls s.1 s.2 with
    | (some _, p, k) => p = s.1 ∧ ∀ retry, Inv ({ p with retryNFSKprobe := retry }, k) stale
    | (none, p, k) =>
        (∃ objs links, p = { s.1 with nfsKprobeObjs := some objs, nfsKprobeHists := some objs,
                                      links := s.1.links ++ links }) ∧
        Inv ({ p with nfsKprobeActive := true, retryNFSKprobe := false }, k) stale := by
  have hspec := loadNFSKprobe_spec calls s.1 s.2 stale hinv.balanced hnone
  generalize loadNFSKprobe calls s.1 s.2 = r at hspec ⊢
  rcases r with ⟨_ | err, p, k⟩
  · rcases hspec with ⟨objs, links, rfl, hfresh, hbal⟩
    exact ⟨⟨objs, links, rfl⟩, hbal, hinv.block, hinv.nfs, subsystemOk_loaded hfresh⟩
  · rcases hspec with ⟨rfl, hbal⟩
    exact ⟨rfl, fun retry => ⟨hbal, hinv.block, hinv.nfs, hinv.nfsKprobe.retry hnone retry⟩⟩

theorem inv_retryTickNFS (calls : NfsCalls) (s : Programs × Handles) (stale : List Nat)
    (hinv : Inv s stale) : Inv (retryTickNFS calls s) stale := by
  unfold retryTickNFS
  -- Only what failed before is tried, and what failed holds nothing.
  by_cases hretry : s.1.retryNFS = true
  · have hload := inv_loadNFS calls s stale hinv (hinv.nfs.retry_none hretry)
    rw [if_pos hretry]
    generalize loadNFS calls s.1 s.2 = r at hload ⊢
    rcases r with ⟨_ | err, p, k⟩
    · exact hload.2
    · exact hload.2 p.retryNFS
  · rw [if_neg hretry]
    exact hinv

theorem inv_retryTickNFSKprobe (calls : KprobeCalls) (s : Programs × Handles) (stale : List Nat)
    (hinv : Inv s stale) : Inv (retryTickNFSKprobe calls s) stale := by
  unfold retryTickNFSKprobe
  by_cases hretry : s.1.retryNFSKprobe = true
  · have hload := inv_loadNFSKprobe calls s stale hinv (hinv.nfsKprobe.retry_none hretry)
    rw [if_pos hretry]
    generalize loadNFSKprobe calls s.1 s.2 = r at hload ⊢
    rcases r with ⟨_ | err, p, k⟩
    · exact hload.2
    · exact hload.2 p.retryNFSKprobe
  · rw [if_neg hretry]
    exact hinv

/-- Retries keep the invariant, with the same stale handles. -/
theorem inv_retryFailed (ticks : List TickCalls) (s : Programs × Handles) (stale : List Nat)
    (hinv : Inv s stale) : Inv (retryFailed ticks s) stale := by
  induction ticks generalizing s with
  | nil => exact hinv
  | cons calls ticks ih =>
      rw [retryFailed]
      -- The goroutine ends when nothing is left to retry.
      split
      · exact hinv
      · exact ih _ (inv_retryTickNFSKprobe _ _ _ (inv_retryTickNFS _ _ _ hinv))

/-- Block is loaded, and one of its programs cannot be attached. -/
def HalfAttached (calls : BlockCalls) : Prop :=
  calls.spec = none ∧ calls.loadAndAssign = none ∧
    (calls.blockRqIssue ≠ none ∨ calls.blockRqComplete ≠ none)

/-- Fields of NFS subsystems nobody has tried yet. -/
def NfsUntried (p : Programs) : Prop :=
  p.nfsObjs = none ∧ p.nfsKprobeObjs = none ∧ p.retryNFS = false ∧ p.retryNFSKprobe = false

/-- Starting block leaves stale handles exactly if it is half attached, and if
    it is not active it holds no others. -/
theorem startBlock_spec (enableBlock : Bool) (calls : BlockCalls) :
    ∃ stale, Inv (startBlock enableBlock calls (Programs.new, empty)) stale ∧
      (stale = [] ↔ ¬ (enableBlock = true ∧ HalfAttached calls)) ∧
      (stale ≠ [] → (startBlock enableBlock calls (Programs.new, empty)).1.blockActive = false) ∧
      ((startBlock enableBlock calls (Programs.new, empty)).1.blockActive = false →
        (startBlock enableBlock calls (Programs.new, empty)).1.handles = stale) ∧
      NfsUntried (startBlock enableBlock calls (Programs.new, empty)).1 := by
  have huntried := subsystemOk_untried
  have hnothing : Inv (Programs.new, empty) [] :=
    ⟨balanced_empty, .inr ⟨rfl, fun o ho => absurd ho (by simp [Programs.new])⟩, huntried [],
      huntried []⟩
  cases enableBlock with
  | false => exact ⟨[], hnothing, by simp, fun _ => rfl, fun _ => rfl, rfl, rfl, rfl, rfl⟩
  | true =>
      -- Each of the four calls may fail.
      rcases calls with ⟨_ | err, _ | err, issue, complete⟩
      · -- The collection is handle 0, and the links are handles 1 and 2.
        have hobjs : Balanced empty.acquire.2 [0] [] := balanced_acquire balanced_empty
        have hlink : Balanced empty.acquire.2.acquire.2 [1, 0] [] := balanced_acquire hobjs
        rcases issue with _ | err
        · rcases complete with _ | err
          · refine ⟨[], ⟨?_, .inl ⟨rfl, 0, rfl, rfl, List.not_mem_nil⟩, huntried [], huntried []⟩,
              ?_, fun hc => absurd rfl hc, ?_, rfl, rfl, rfl, rfl⟩
            · exact (balanced_acquire hlink).perm (by decide)
            · simp [HalfAttached]
            · exact fun hc => absurd hc.symm Bool.false_ne_true
          · -- The loader closes the first link and the collection, and keeps both.
            refine ⟨[1, 0], ⟨?_, .inr ⟨rfl, ?_⟩, huntried _, huntried _⟩, ?_, fun _ => rfl,
              fun _ => rfl, rfl, rfl, rfl, rfl⟩
            · exact balanced_closeAll_kept [1, 0] hlink (by decide)
            · intro o ho
              rw [← Option.some.inj ho]
              decide
            · simp [HalfAttached]
        · -- The collection alone.
          refine ⟨[0], ⟨?_, .inr ⟨rfl, ?_⟩, huntried _, huntried _⟩, ?_, fun _ => rfl,
            fun _ => rfl, rfl, rfl, rfl, rfl⟩
          · exact balanced_closeAll_kept [0] hobjs (by decide)
          · intro o ho
            rw [← Option.some.inj ho]
            decide
          · simp [HalfAttached]
      · exact ⟨[], hnothing, by simp [HalfAttached], fun _ => rfl, fun _ => rfl, rfl, rfl, rfl,
          rfl⟩
      · exact ⟨[], hnothing, by simp [HalfAttached], fun _ => rfl, fun _ => rfl, rfl, rfl, rfl,
          rfl⟩
      · exact ⟨[], hnothing, by simp [HalfAttached], fun _ => rfl, fun _ => rfl, rfl, rfl, rfl,
          rfl⟩

/-- Starting NFS: it is active or to be retried exactly if it is enabled. -/
theorem startNFS_spec (enableNFS : Bool) (calls : NfsCalls) (s : Programs × Handles)
    (stale : List Nat) (hinv : Inv s stale) (huntried : NfsUntried s.1) :
    Inv (startNFS enableNFS calls s) stale ∧
    (startNFS enableNFS calls s).1.blockActive = s.1.blockActive ∧
    ((startNFS enableNFS calls s).1.nfsActive || (startNFS enableNFS calls s).1.retryNFS)
      = enableNFS ∧
    (startNFS enableNFS calls s).1.nfsKprobeObjs = none ∧
    (startNFS enableNFS calls s).1.retryNFSKprobe = false ∧
    (enableNFS = false → startNFS enableNFS calls s = s) := by
  rcases huntried with ⟨hnfs, hkprobe, hretry, hretryK⟩
  cases enableNFS with
  | false =>
      refine ⟨hinv, rfl, ?_, hkprobe, hretryK, fun _ => rfl⟩
      change (s.1.nfsActive || s.1.retryNFS) = false
      rw [hinv.nfs.active_eq, hnfs, hretry]
      rfl
  | true =>
      have hload := inv_loadNFS calls s stale hinv hnfs
      simp only [startNFS, if_true, Bool.true_eq_false, false_imp_iff, and_true]
      generalize loadNFS calls s.1 s.2 = r at hload ⊢
      rcases r with ⟨_ | err, p, k⟩
      · rcases hload with ⟨⟨objs, links, rfl⟩, hloaded⟩
        rw [← hretry] at hloaded
        exact ⟨hloaded, rfl, rfl, hkprobe, hretryK⟩
      · -- A failure is not an error of the start: it is retried.
        rcases hload with ⟨rfl, hfailed⟩
        exact ⟨hfailed true, rfl, Bool.or_true _, hkprobe, hretryK⟩

/-- Starting the probes. -/
theorem startNFSKprobe_spec (enableNFSKprobe : Bool) (calls : KprobeCalls)
    (s : Programs × Handles) (stale : List Nat) (hinv : Inv s stale)
    (hkprobe : s.1.nfsKprobeObjs = none) (hretryK : s.1.retryNFSKprobe = false) :
    Inv (startNFSKprobe enableNFSKprobe calls s) stale ∧
    (startNFSKprobe enableNFSKprobe calls s).1.blockActive = s.1.blockActive ∧
    (startNFSKprobe enableNFSKprobe calls s).1.nfsActive = s.1.nfsActive ∧
    (startNFSKprobe enableNFSKprobe calls s).1.retryNFS = s.1.retryNFS ∧
    ((startNFSKprobe enableNFSKprobe calls s).1.nfsKprobeActive ||
      (startNFSKprobe enableNFSKprobe calls s).1.retryNFSKprobe) = enableNFSKprobe ∧
    (enableNFSKprobe = false → startNFSKprobe enableNFSKprobe calls s = s) := by
  cases enableNFSKprobe with
  | false =>
      refine ⟨hinv, rfl, rfl, rfl, ?_, fun _ => rfl⟩
      change (s.1.nfsKprobeActive || s.1.retryNFSKprobe) = false
      rw [hinv.nfsKprobe.active_eq, hkprobe, hretryK]
      rfl
  | true =>
      have hload := inv_loadNFSKprobe calls s stale hinv hkprobe
      simp only [startNFSKprobe, if_true, Bool.true_eq_false, false_imp_iff, and_true]
      generalize loadNFSKprobe calls s.1 s.2 = r at hload ⊢
      rcases r with ⟨_ | err, p, k⟩
      · rcases hload with ⟨⟨objs, links, rfl⟩, hloaded⟩
        rw [← hretryK] at hloaded
        exact ⟨hloaded, rfl, rfl, rfl, rfl⟩
      · rcases hload with ⟨rfl, hfailed⟩
        exact ⟨hfailed true, rfl, rfl, rfl, Bool.or_true _⟩

/-- The property of a run: after the start and after every tick the flags are
    right, and closing the programs then leaves every handle closed once. If
    the start returns no programs, every handle has been closed once by then. -/
def ConsistentRun (enable : Enabled) (calls : StartCalls) : Prop :=
  match loadAndAttach enable calls empty with
  | (.error _, k) => k.ClosedOnce
  | (.ok p, k) => ∀ ticks, ActiveIffOpen (retryFailed ticks (p, k)) ∧
      ((retryFailed ticks (p, k)).1.close (retryFailed ticks (p, k)).2).ClosedOnce

/-- Nothing that is loaded is active or to be retried. -/
def NothingLeft (p : Programs) : Prop :=
  p.blockActive = false ∧ p.nfsActive = false ∧ p.nfsKprobeActive = false ∧
    p.retryNFS = false ∧ p.retryNFSKprobe = false

/-- Something is enabled and nothing is left of it. -/
def StartFails (enable : Enabled) (p : Programs) : Prop :=
  (enable.block = true ∨ enable.nfs = true ∨ enable.nfsKprobe = true) ∧ NothingLeft p

theorem loadAndAttach_eq (enable : Enabled) (calls : StartCalls) (k : Handles) :
    (StartFails enable (startAll enable calls k).1 → loadAndAttach enable calls k
      = (.error "all requested eBPF subsystems failed to load", (startAll enable calls k).2)) ∧
    (¬ StartFails enable (startAll enable calls k).1 → loadAndAttach enable calls k
      = (.ok (startAll enable calls k).1, (startAll enable calls k).2)) := by
  have hcond : ((enable.block || enable.nfs || enable.nfsKprobe) &&
      !((startAll enable calls k).1.blockActive || (startAll enable calls k).1.nfsActive ||
        (startAll enable calls k).1.nfsKprobeActive) &&
      !(startAll enable calls k).1.retryNFS && !(startAll enable calls k).1.retryNFSKprobe) = true
      ↔ StartFails enable (startAll enable calls k).1 := by
    simp only [StartFails, NothingLeft, Bool.and_eq_true, Bool.or_eq_true, Bool.not_eq_true',
      Bool.or_eq_false_iff, and_assoc, or_assoc]
  exact ⟨fun hfails => if_pos (hcond.mpr hfails), fun hfails => if_neg fun hc =>
    hfails (hcond.mp hc)⟩

/-- The state after the start. -/
theorem startAll_spec (enable : Enabled) (calls : StartCalls) :
    ∃ stale, Inv (startAll enable calls empty) stale ∧
      (stale = [] ↔ ¬ (enable.block = true ∧ HalfAttached calls.block)) ∧
      (NothingLeft (startAll enable calls empty).1 →
        enable.nfs = false ∧ enable.nfsKprobe = false ∧
          (startAll enable calls empty).1.handles = stale) ∧
      (stale ≠ [] → enable.nfs = false → enable.nfsKprobe = false →
        NothingLeft (startAll enable calls empty).1) := by
  rcases startBlock_spec enable.block calls.block
    with ⟨stale, hinv, hstale, hinactive, hhandles, huntried⟩
  rcases startNFS_spec enable.nfs calls.nfs _ stale hinv huntried
    with ⟨hinv', hblock, hnfs, hkprobe, hretryK, hskip⟩
  rcases startNFSKprobe_spec enable.nfsKprobe calls.nfsKprobe _ stale hinv' hkprobe hretryK
    with ⟨hinv'', hblock', hnfsActive, hnfsRetry, hkprobe', hskip'⟩
  refine ⟨stale, hinv'', hstale, ?_, ?_⟩
  · rintro ⟨hb, hn, hk, hrn, hrk⟩
    -- An NFS subsystem that is enabled would be active or retried.
    have hnfsOff : enable.nfs = false := by
      rw [← hnfs, ← hnfsActive, ← hnfsRetry, Bool.or_eq_false_iff]
      exact ⟨hn, hrn⟩
    have hkprobeOff : enable.nfsKprobe = false := by
      rw [← hkprobe', Bool.or_eq_false_iff]
      exact ⟨hk, hrk⟩
    refine ⟨hnfsOff, hkprobeOff, ?_⟩
    rw [startAll, hskip' hkprobeOff, hskip hnfsOff]
    refine hhandles ?_
    rw [← hblock, ← hblock']
    exact hb
  · intro hne hnfsOff hkprobeOff
    have hn := hnfs.trans hnfsOff
    have hk := hkprobe'.trans hkprobeOff
    rw [Bool.or_eq_false_iff] at hn hk
    exact ⟨(hblock'.trans hblock).trans (hinactive hne), hnfsActive.trans hn.1, hk.1,
      hnfsRetry.trans hn.2, hk.2⟩

/-- In every run the flags tell which maps can be read. Everything is closed
    once in the end exactly if it is not the case that block is loaded but not
    all attached while NFS is enabled too, in either way. -/
theorem consistentRun_iff (enable : Enabled) (calls : StartCalls) :
    (∀ p k, loadAndAttach enable calls empty = (.ok p, k) →
      ∀ ticks, ActiveIffOpen (retryFailed ticks (p, k))) ∧
    (ConsistentRun enable calls ↔
      ¬ (enable.block = true ∧ HalfAttached calls.block ∧
        (enable.nfs = true ∨ enable.nfsKprobe = true))) := by
  rcases startAll_spec enable calls with ⟨stale, hinv, hstale, hleft, hnothing⟩
  rcases loadAndAttach_eq enable calls empty with ⟨herror, hok⟩
  -- The start fails, or it returns programs, on which the ticks work.
  by_cases hfails : StartFails enable (startAll enable calls empty).1
  · rcases hleft hfails.2 with ⟨hnfs, hkprobe, hhandles⟩
    refine ⟨?_, ?_⟩
    · intro p k hload
      rw [herror hfails, Prod.mk.injEq] at hload
      exact absurd hload.1 (by simp only [reduceCtorEq, not_false_eq_true])
    · refine iff_of_true ?_ ?_
      · -- The block loader has closed what it acquired, and nothing closes it again.
        simp only [ConsistentRun, herror hfails]
        intro h hlt
        have honce := hinv.balanced.once h
        rw [if_pos hlt, hhandles] at honce
        omega
      · rintro ⟨_, _, hc | hc⟩
        · exact absurd (hc.symm.trans hnfs) (by decide)
        · exact absurd (hc.symm.trans hkprobe) (by decide)
  · have hticks := fun ticks => inv_retryFailed ticks (startAll enable calls empty) stale hinv
    refine ⟨?_, ?_⟩
    · intro p k hload ticks
      rw [hok hfails, Prod.mk.injEq] at hload
      rw [← Except.ok.inj hload.1, ← hload.2]
      exact (hticks ticks).activeIffOpen
    · -- Closing all in the end closes stale handles once more.
      have hrun : ConsistentRun enable calls ↔ stale = [] := by
        simp only [ConsistentRun, hok hfails]
        constructor
        · exact fun hall => (hticks []).closedOnce_iff.mp (hall []).2
        · exact fun hnil ticks => ⟨(hticks ticks).activeIffOpen,
            (hticks ticks).closedOnce_iff.mpr hnil⟩
      rw [hrun, hstale, not_iff_not]
      constructor
      · -- With block alone the start would have failed.
        rintro ⟨hblock, hhalf⟩
        refine ⟨hblock, hhalf, ?_⟩
        by_contra hnone
        rw [not_or, Bool.not_eq_true, Bool.not_eq_true] at hnone
        have hne : stale ≠ [] := fun hnil => hstale.mp hnil ⟨hblock, hhalf⟩
        exact hfails ⟨.inl hblock, hnothing hne hnone.1 hnone.2⟩
      · rintro ⟨hblock, hhalf, _⟩
        exact ⟨hblock, hhalf⟩

/-- Block and NFS are enabled, and the second block program is not attached. -/
theorem blockRqComplete_closed_twice :
    ¬ ConsistentRun { block := true, nfs := true, nfsKprobe := false }
      { block := { spec := none, loadAndAssign := none, blockRqIssue := none,
                   blockRqComplete := some "permission denied" },
        nfs := { spec := none, loadAndAssign := none, attachRawTracepoint := fun _ => none },
        nfsKprobe := { spec := none, loadAndAssign := none, kprobe := fun _ => none,
                       kretprobe := fun _ => none } } := by
  intro hrun
  have honce := (hrun []).2 0 (by decide)
  exact absurd honce (by decide)

end Loader

end LatencyExporter
