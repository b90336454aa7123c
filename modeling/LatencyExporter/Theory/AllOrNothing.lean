import LatencyExporter.Core.Ebpf.Loader

/-!
# The NFS Loaders Commit or Roll Back

`loadNFS` and `loadNFSKprobe` are retried every minute on hosts where they
fail. What a failed attempt left behind would pile up: a collection in kernel
memory, or a probe that goes on filling a map nobody reads. Neither is left,
whichever of the calls fails. An attempt that fails has closed what it acquired
and has changed no field; one that succeeds has closed nothing and has put all
of it into the fields.

This is about one call, from any fields and any handles. No invariant is
needed, since a loader closes only what it acquired itself.

The probes have a second requirement. An entry probe without its return probe
would add to the start times and never take one out. A function whose entry
probe is optional and missing gets no return probe either, and a return probe
that cannot be attached fails the call, so both kinds are on the same functions
in the end.

## Main definitions

* `attachable`, `AttachRun`: What a loop does.
* `RolledBack`: A call that leaves nothing behind.
* `Probes`, `HasProbe`: Functions and the links of their probes.
* `NfsInstalled`, `KprobesInstalled`: A call that leaves everything in the fields.

## Theorems

* `attachLoop_run`: What a loop acquires, attaches and closes.
* `attachKprobes_run`, `attachKretprobes_run`: The loops for the probes.
* `loadNFS_run`, `loadNFSKprobe_run`: The two loaders.
* `loaders_all_or_nothing`: Both loaders, for every pattern of failures.
-/

namespace LatencyExporter

namespace Loader

open Bpf Handles

section Attach

variable {α : Type} (errorText : α → String) (optional : α → Bool) (attach : α → Option String)

/-- The elements a loop attaches. -/
def attachable (as : List α) : List α := as.filter fun a => (attach a).isNone

/-- What a loop does from `k` on. First it only acquires links, one for each
    element it attaches, which leads to `opened`. Then it returns them, if all
    elements could be attached that are not optional, or it closes them together
    with the links it was given and the collection. -/
def AttachRun (objs : Nat) (as : List α) (links : List Nat) (attached : List α) (k : Handles)
    (r : Except String (List Nat × List α) × Handles) : Prop :=
  ∃ opened : Handles, k.next ≤ opened.next ∧ opened.closes = k.closes ∧ match r with
    | (.error _, k') => k' = opened.closeAll (links ++ acquiredSince k opened ++ [objs])
    | (.ok (links', attached'), k') => k' = opened ∧ links' = links ++ acquiredSince k opened ∧
        attached' = attached ++ attachable attach as ∧
        (acquiredSince k opened).length = (attachable attach as).length ∧
        ∀ a ∈ as, optional a = false → attach a = none

theorem attachLoop_run (objs : Nat) (as : List α) (links : List Nat) (attached : List α)
    (k : Handles) :
    AttachRun optional attach objs as links attached k
      (attachLoop errorText optional attach objs as links attached k) := by
  induction as generalizing links attached k with
  | nil =>
      refine ⟨k, le_refl _, rfl, rfl, ?_, (List.append_nil _).symm, ?_, ?_⟩
      · rw [acquiredSince_self, List.append_nil]
      · rw [acquiredSince_self]
        rfl
      · exact fun a ha => absurd ha List.not_mem_nil
  | cons a as ih =>
      rw [attachLoop]
      cases hattach : attach a with
      | some err =>
          by_cases hoptional : optional a
          · -- An optional element is passed over.
            have hskip : attachable attach (a :: as) = attachable attach as := by
              simp only [attachable, List.filter_cons, hattach, Option.isNone_some,
                Bool.false_eq_true, if_false]
            simp only [hoptional, if_true, AttachRun, hskip, List.forall_mem_cons,
              Bool.true_eq_false, false_imp_iff, true_and]
            exact ih links attached k
          · simp only [hoptional, if_false, Bool.false_eq_true]
            -- The source closes the links so far, and the collection after them.
            refine ⟨k, le_refl _, rfl, ?_⟩
            rw [acquiredSince_self, List.append_nil, closeAll_append, ← close_eq_closeAll]
      | none =>
          have htake : attachable attach (a :: as) = a :: attachable attach as := by
            simp only [attachable, List.filter_cons, hattach, Option.isNone_none, if_true]
          rcases ih (links ++ [k.next]) (attached ++ [a]) k.acquire.2 with
            ⟨opened, hnext, hcloses, hresult⟩
          -- The link just acquired is the first of those the rest is given.
          have hlist : links ++ [k.next] ++ acquiredSince k.acquire.2 opened =
              links ++ acquiredSince k opened := by
            rw [acquiredSince_acquire hnext, List.append_assoc, List.singleton_append]
          refine ⟨opened, Nat.le_of_succ_le hnext, hcloses, ?_⟩
          dsimp only [acquire] at hresult hlist ⊢
          generalize attachLoop errorText optional attach objs as _ _ _ = r at hresult ⊢
          rcases r with ⟨_ | ⟨links', attached'⟩, k'⟩
          · rw [hlist] at hresult
            exact hresult
          · rcases hresult with ⟨hk, hlinks, hattached, hlength, hall⟩
            refine ⟨hk, hlinks.trans hlist, ?_, ?_, ?_⟩
            · rw [hattached, htake, List.append_assoc, List.singleton_append]
            · rw [acquiredSince_acquire hnext, htake, List.length_cons, List.length_cons]
              exact congrArg Nat.succ hlength
            · exact List.forall_mem_cons.mpr ⟨fun _ => hattach, hall⟩

end Attach

/-- A call from `p` and `k` to `p'` and `k'` has changed no field, and has closed
    what it acquired once and nothing else. -/
def RolledBack (p : Programs) (k : Handles) (p' : Programs) (k' : Handles) : Prop :=
  p' = p ∧ Undone k k'

/-- The collection is the first handle a loader acquires, and it is closed last. -/
theorem links_concat_perm {k opened : Handles} (hnext : k.next < opened.next) :
    (acquiredSince k.acquire.2 opened ++ [k.next]).Perm (acquiredSince k opened) := by
  rw [acquiredSince_acquire hnext]
  exact List.perm_append_singleton _ _

/-- Functions with the links of their probes. -/
abbrev Probes := List (VfsFunction × Nat)

/-- A function has a probe. -/
def HasProbe (probes : Probes) (fn : VfsFunction) : Prop := ∃ l, (fn, l) ∈ probes

theorem hasProbe_iff (probes : Probes) (fn : VfsFunction) :
    HasProbe probes fn ↔ fn ∈ probes.map Prod.fst := by
  rw [List.mem_map]
  constructor
  · rintro ⟨l, hl⟩
    exact ⟨(fn, l), hl, rfl⟩
  · rintro ⟨⟨_, l⟩, hl, rfl⟩
    exact ⟨l, hl⟩

/-- A call of `loadNFS` has closed nothing, and all that it acquired is in the
    fields: the collection, and the links after those that were there. -/
def NfsInstalled (p : Programs) (k : Handles) (p' : Programs) (k' : Handles) : Prop :=
  k'.closes = k.closes ∧ ∃ objs links, acquiredSince k k' = objs :: links ∧
    p' = { p with nfsObjs := some objs, nfsHists := some objs, links := p.links ++ links }

/-- The same for `loadNFSKprobe`. The links are those of the entry probes its
    first loop attached and of the return probes its second loop attached, and
    both are for the same functions. -/
def KprobesInstalled (calls : KprobeCalls) (p : Programs) (k : Handles) (p' : Programs)
    (k' : Handles) : Prop :=
  k'.closes = k.closes ∧ ∃ (objs : Nat) (entry ret : Probes) (k₁ : Handles),
    acquiredSince k k' = objs :: (entry.map Prod.snd ++ ret.map Prod.snd) ∧
    p' = { p with nfsKprobeObjs := some objs, nfsKprobeHists := some objs,
                  links := p.links ++ (entry.map Prod.snd ++ ret.map Prod.snd) } ∧
    attachKprobes calls objs k.acquire.2 = (.ok (entry.map Prod.snd, entry.map Prod.fst), k₁) ∧
    attachKretprobes calls objs (entry.map Prod.fst) (entry.map Prod.snd) k₁ =
      (.ok (entry.map Prod.snd ++ ret.map Prod.snd, ret.map Prod.fst), k') ∧
    (∀ fn, HasProbe entry fn ↔ calls.kprobe fn = none) ∧
    ∀ fn, HasProbe ret fn ↔ HasProbe entry fn

/-- `loadNFS` from any fields. -/
theorem loadNFS_run (calls : NfsCalls) (p : Programs) (k : Handles) :
    match loadNFS calls p k with
    | (some _, p', k') => RolledBack p k p' k'
    | (none, p', k') => NfsInstalled p k p' k' := by
  unfold loadNFS
  cases calls.spec with
  | some err => exact ⟨rfl, undone_refl k⟩
  | none =>
      cases calls.loadAndAssign with
      | some err => exact ⟨rfl, undone_refl k⟩
      | none =>
          have hloop := attachLoop_run (fun tp => "attaching raw_tracepoint/" ++ tp.name)
            (fun _ => false) calls.attachRawTracepoint k.next nfsTracepoints [] [] k.acquire.2
          rw [← attachNFS] at hloop
          dsimp only [acquire] at hloop ⊢
          generalize attachNFS calls k.next _ = r at hloop ⊢
          rcases hloop with ⟨opened, hnext, hcloses, hresult⟩
          rcases r with ⟨_ | ⟨links, attached⟩, k'⟩
          · rw [hresult]
            exact ⟨rfl, undone_of_closeAll (Nat.le_of_succ_le hnext) hcloses
              (links_concat_perm hnext)⟩
          · -- All tracepoints are attached, and the links go into the fields.
            rcases hresult with ⟨rfl, rfl, _, _, _⟩
            exact ⟨hcloses, k.next, _, acquiredSince_acquire hnext, rfl⟩

theorem mem_kprobes (fn : VfsFunction) : fn ∈ kprobes := by
  cases fn <;> simp [kprobes]

/-- The functions and the links of a loop that attaches probes. -/
theorem exists_probes (fns : List VfsFunction) (links : List Nat)
    (hlength : links.length = fns.length) :
    ∃ probes : Probes, probes.map Prod.fst = fns ∧ probes.map Prod.snd = links :=
  ⟨fns.zip links, List.map_fst_zip hlength.ge, List.map_snd_zip hlength.le⟩

/-- The first loop: the entry probes are what it acquires. -/
theorem attachKprobes_run (calls : KprobeCalls) (objs : Nat) (k : Handles) :
    ∃ opened : Handles, k.next ≤ opened.next ∧ opened.closes = k.closes ∧
      match attachKprobes calls objs k with
      | (.error _, k') => k' = opened.closeAll (acquiredSince k opened ++ [objs])
      | (.ok (links, fns), k') => k' = opened ∧ ∃ entry : Probes,
          links = entry.map Prod.snd ∧ fns = entry.map Prod.fst ∧
          entry.map Prod.snd = acquiredSince k opened ∧
          entry.map Prod.fst = attachable calls.kprobe kprobes := by
  rcases attachLoop_run (fun fn => "attaching kprobe/" ++ functionName fn) kprobeOptional
    calls.kprobe objs kprobes [] [] k with ⟨opened, hnext, hcloses, hresult⟩
  refine ⟨opened, hnext, hcloses, ?_⟩
  rw [← attachKprobes] at hresult
  generalize attachKprobes calls objs k = r at hresult ⊢
  rcases r with ⟨_ | ⟨links, fns⟩, k'⟩
  · exact hresult
  · rcases hresult with ⟨hk, hlinks, hfns, hlength, _⟩
    rw [List.nil_append] at hlinks hfns
    rw [← hlinks, ← hfns] at hlength
    rcases exists_probes fns links hlength with ⟨entry, hfst, hsnd⟩
    exact ⟨hk, entry, hsnd.symm, hfst.symm, hsnd.trans hlinks, hfst.trans hfns⟩

/-- The second loop: none of its probes is optional, so it fails or attaches one
    for each entry probe. -/
theorem attachKretprobes_run (calls : KprobeCalls) (objs : Nat) (entry : Probes) (k : Handles) :
    ∃ opened : Handles, k.next ≤ opened.next ∧ opened.closes = k.closes ∧
      match attachKretprobes calls objs (entry.map Prod.fst) (entry.map Prod.snd) k with
      | (.error _, k') =>
          k' = opened.closeAll (entry.map Prod.snd ++ acquiredSince k opened ++ [objs])
      | (.ok (links, fns), k') => k' = opened ∧ ∃ ret : Probes,
          links = entry.map Prod.snd ++ ret.map Prod.snd ∧ fns = ret.map Prod.fst ∧
          ret.map Prod.snd = acquiredSince k opened ∧ ret.map Prod.fst = entry.map Prod.fst := by
  rcases attachLoop_run (fun fn => "attaching kretprobe/" ++ functionName fn) (fun _ => false)
    calls.kretprobe objs (entry.map Prod.fst) (entry.map Prod.snd) [] k with
    ⟨opened, hnext, hcloses, hresult⟩
  refine ⟨opened, hnext, hcloses, ?_⟩
  rw [← attachKretprobes] at hresult
  generalize attachKretprobes calls objs (entry.map Prod.fst) (entry.map Prod.snd) k = r
    at hresult ⊢
  rcases r with ⟨_ | ⟨links, fns⟩, k'⟩
  · exact hresult
  · rcases hresult with ⟨hk, hlinks, hfns, hlength, hall⟩
    -- Nothing was skipped, or the loop would have returned an error.
    have hattachable : attachable calls.kretprobe (entry.map Prod.fst) = entry.map Prod.fst :=
      List.filter_eq_self.mpr fun fn hfn => Option.isNone_iff_eq_none.mpr (hall fn hfn rfl)
    rw [hattachable] at hlength hfns
    rcases exists_probes _ _ hlength with ⟨ret, hfst, hsnd⟩
    refine ⟨hk, ret, ?_, ?_, hsnd, hfst⟩
    · rw [hlinks, hsnd]
    · rw [hfns, List.nil_append, hfst]

/-- `loadNFSKprobe` from any fields. -/
theorem loadNFSKprobe_run (calls : KprobeCalls) (p : Programs) (k : Handles) :
    match loadNFSKprobe calls p k with
    | (some _, p', k') => RolledBack p k p' k'
    | (none, p', k') => KprobesInstalled calls p k p' k' := by
  unfold loadNFSKprobe
  cases calls.spec with
  | some err => exact ⟨rfl, undone_refl k⟩
  | none =>
      cases calls.loadAndAssign with
      | some err => exact ⟨rfl, undone_refl k⟩
      | none =>
          rcases attachKprobes_run calls k.next k.acquire.2 with ⟨k₁, hnext, hcloses, hentry⟩
          have hle : k.next ≤ k₁.next := Nat.le_of_succ_le hnext
          dsimp only [acquire] at hentry ⊢
          rcases hr : attachKprobes calls k.next _ with ⟨_ | ⟨links, fns⟩, k'⟩
          · rw [hr] at hentry
            rw [hentry]
            exact ⟨rfl, undone_of_closeAll hle hcloses (links_concat_perm hnext)⟩
          · rw [hr] at hentry
            rcases hentry with ⟨rfl, entry, rfl, rfl, hlinks, hfns⟩
            -- The second loop goes on with the links of the first.
            rcases attachKretprobes_run calls k.next entry k' with ⟨k₂, hnext', hcloses', hret⟩
            have hacquired : entry.map Prod.snd ++ acquiredSince k' k₂ =
                acquiredSince k.acquire.2 k₂ := by
              rw [hlinks]
              exact acquiredSince_append hnext hnext'
            have hlt : k.next < k₂.next := lt_of_lt_of_le hnext hnext'
            dsimp only
            rcases hr' : attachKretprobes calls k.next (entry.map Prod.fst) (entry.map Prod.snd) k'
              with ⟨_ | ⟨links, fns⟩, k''⟩
            · -- The second loop failed: the links of both loops are closed.
              rw [hr', hacquired] at hret
              rw [hret]
              exact ⟨rfl, undone_of_closeAll hlt.le (hcloses'.trans hcloses)
                (links_concat_perm hlt)⟩
            · rw [hr'] at hret
              rcases hret with ⟨rfl, ret, rfl, rfl, hsnd, hfst⟩
              refine ⟨hcloses'.trans hcloses, k.next, entry, ret, k', ?_, rfl, hr, hr',
                fun fn => ?_, fun fn => ?_⟩
              · rw [hsnd, hacquired]
                exact acquiredSince_acquire hlt
              · rw [hasProbe_iff, hfns, attachable, List.mem_filter, Option.isNone_iff_eq_none]
                exact and_iff_right (mem_kprobes fn)
              · rw [hasProbe_iff, hasProbe_iff, hfst]

/-- The loaders for NFS are all or nothing, from any fields and handles and for
    every pattern of failures. A call that returns an error has changed no field
    and has closed all that it acquired, once. A call that returns without one
    has closed nothing, and has put the collection and all links it acquired
    into the fields; a function then has a return probe exactly if it has an
    entry probe. -/
theorem loaders_all_or_nothing (p : Programs) (k : Handles) :
    (∀ calls : NfsCalls, match loadNFS calls p k with
      | (some _, p', k') => RolledBack p k p' k'
      | (none, p', k') => NfsInstalled p k p' k') ∧
    (∀ calls : KprobeCalls, match loadNFSKprobe calls p k with
      | (some _, p', k') => RolledBack p k p' k'
      | (none, p', k') => KprobesInstalled calls p k p' k') :=
  ⟨fun calls => loadNFS_run calls p k, fun calls => loadNFSKprobe_run calls p k⟩

end Loader

end LatencyExporter
