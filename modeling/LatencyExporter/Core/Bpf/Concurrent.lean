import LatencyExporter.Core.Bpf.Block
import LatencyExporter.Core.Bpf.Nfs

/-!
# Completion Handlers Step by Step

The completion handlers as sequences of map operations, for several runs of a
handler on different CPUs at once. A run takes one step for each
`bpf_map_lookup_elem`, `bpf_map_update_elem` and `bpf_map_delete_elem` and one
for the atomic increment; what it computes in between is local.

A lookup in a histogram map returns a pointer to the element, and the
increment goes through that pointer. An update of a key that is present
replaces its element by a new one, and the old element is no longer part of
the map. So the histogram map is an index from keys to elements here, and the
elements live beside it: incrementing an element that has been replaced
changes the element and not the map.

The three handlers take these steps in the same order. They differ in the key
they look up and in what they count for a looked-up value, which is what a
`Completion` holds.

## Main definitions

* `HistHeap`: A histogram map with the identity of its elements.
* `Completion`: What tells the completion handlers apart.
* `Pc`: Where a run of a handler stands.
* `Machine`: The maps and the runs.
* `Completion.step`, `Completion.run`: One step of one run, and a schedule.
* `blockCompletion`, `nfsCompletion`, `kprobeCompletion`: The three handlers.
-/

namespace LatencyExporter

namespace Bpf

/-- A histogram map with the identity of its elements. Elements are numbered
    in the order of their creation, and no two keys share one. -/
structure HistHeap where
  elems : Nat → Hist
  next : Nat
  index : Finmap (fun _ : HistKey => Nat)
  lt_next : ∀ hk p, index.lookup hk = some p → p < next
  inj : ∀ hk hk' p, index.lookup hk = some p → index.lookup hk' = some p → hk = hk'

/-- `bpf_map_update_elem(&hists, &hk, &zero_hist, BPF_ANY)`: a new element
    takes the place of whatever the key had. -/
def HistHeap.update (h : HistHeap) (hk : HistKey) : HistHeap where
  elems := Function.update h.elems h.next zeroHist
  next := h.next + 1
  index := h.index.insert hk h.next
  lt_next := by
    intro hk' p hp
    by_cases hkk : hk' = hk
    · rw [hkk, Finmap.lookup_insert, Option.some.injEq] at hp
      omega
    · rw [Finmap.lookup_insert_of_ne _ hkk] at hp
      exact Nat.lt_succ_of_lt (h.lt_next hk' p hp)
  inj := by
    -- The new element is numbered above all others.
    have hnew : ∀ hk' p, hk' ≠ hk → (h.index.insert hk h.next).lookup hk' = some p →
        p ≠ h.next := by
      intro hk' p hkk hp
      rw [Finmap.lookup_insert_of_ne _ hkk] at hp
      exact Nat.ne_of_lt (h.lt_next hk' p hp)
    intro a b p ha hb
    by_cases hak : a = hk
    · by_cases hbk : b = hk
      · rw [hak, hbk]
      · rw [hak, Finmap.lookup_insert, Option.some.injEq] at ha
        exact absurd ha.symm (hnew b p hbk hb)
    · by_cases hbk : b = hk
      · rw [hbk, Finmap.lookup_insert, Option.some.injEq] at hb
        exact absurd hb.symm (hnew a p hak ha)
      · rw [Finmap.lookup_insert_of_ne _ hak] at ha
        rw [Finmap.lookup_insert_of_ne _ hbk] at hb
        exact h.inj a b p ha hb

/-- `__sync_fetch_and_add(&histp->slots[slot], 1)` through a pointer. -/
def HistHeap.fetchAndAdd (h : HistHeap) (p : Nat) (slot : Fin maxSlots) : HistHeap :=
  { h with elems := Function.update h.elems p ((h.elems p).fetchAndAdd slot) }

/-- What tells the completion handlers apart: the key a run looks up, and what
    it counts for the value it finds. -/
structure Completion (A K V : Type) where
  key : A → K
  sample : A → V → Option (HistKey × Fin maxSlots)

/-- The next step of a run. The last one says whether the run reached the
    increment. -/
inductive Pc (V : Type) where
  | lookupStart
  | deleteStart (v : V)
  | lookupHist (hk : HistKey) (slot : Fin maxSlots)
  | updateHist (hk : HistKey) (slot : Fin maxSlots)
  | lookupAgain (hk : HistKey) (slot : Fin maxSlots)
  | fetchAndAdd (p : Nat) (slot : Fin maxSlots)
  | returned (counted : Bool)

/-- The maps of a program and `n` runs of its completion handler. -/
structure Machine (n : Nat) (K V : Type) where
  start : Finmap (fun _ : K => V)
  heap : HistHeap
  pc : Fin n → Pc V

section Step

variable {A K V : Type} {n : Nat} [DecidableEq K]

/-- Let a run continue elsewhere. -/
def Machine.goto (s : Machine n K V) (i : Fin n) (pc : Pc V) : Machine n K V :=
  { s with pc := Function.update s.pc i pc }

/-- One step of run `i`, which was called with `args i`. -/
def Completion.step (c : Completion A K V) (args : Fin n → A) (s : Machine n K V) (i : Fin n) :
    Machine n K V :=
  match s.pc i with
  | .lookupStart => match s.start.lookup (c.key (args i)) with
      | none => s.goto i (.returned false)
      | some v => s.goto i (.deleteStart v)
  | .deleteStart v => match c.sample (args i) v with
      | none => { s.goto i (.returned false) with start := s.start.erase (c.key (args i)) }
      | some (hk, slot) =>
          { s.goto i (.lookupHist hk slot) with start := s.start.erase (c.key (args i)) }
  | .lookupHist hk slot => match s.heap.index.lookup hk with
      | none => s.goto i (.updateHist hk slot)
      | some p => s.goto i (.fetchAndAdd p slot)
  -- Another run may have created the histogram since the lookup; it is replaced.
  | .updateHist hk slot => { s.goto i (.lookupAgain hk slot) with heap := s.heap.update hk }
  | .lookupAgain hk slot => match s.heap.index.lookup hk with
      | none => s.goto i (.returned false)
      | some p => s.goto i (.fetchAndAdd p slot)
  -- The element counts even if it is no longer the one of its key.
  | .fetchAndAdd p slot => { s.goto i (.returned true) with heap := s.heap.fetchAndAdd p slot }
  | .returned _ => s

/-- Let runs take steps in the order of a schedule. -/
def Completion.run (c : Completion A K V) (args : Fin n → A) (s : Machine n K V)
    (sched : List (Fin n)) : Machine n K V := sched.foldl (c.step args) s

end Step

/-- `tracepoint__block__block_rq_complete`, called with a request and the
    clock reading it takes. -/
def blockCompletion : Completion (BlockRq × Ktime) ReqKey UInt64 where
  key a := a.1.key
  sample a tsp := blockSample a.1 a.2 tsp

/-- `nfs_record_latency`, as the two done tracepoints call it: with a header,
    an operation code and a clock reading. -/
def nfsCompletion : Completion (PgioHeader × UInt8 × Ktime) NfsReqKey UInt64 where
  key a := nfsFillKey a.1 a.2.1
  sample a tsp := nfsSample { dev := (nfsFillKey a.1 a.2.1).dev, op := a.2.1 } a.2.2 tsp

/-- `kretprobe_nfs_vfs`, called with a thread and a clock reading. -/
def kprobeCompletion : Completion (UInt64 × Ktime) UInt64 KprobeStart where
  key a := a.1
  sample a start := kprobeSample a.2 start

end Bpf

end LatencyExporter
