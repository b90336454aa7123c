import LatencyExporter.Lib.Overwrite
import LatencyExporter.Theory.Claims
import Mathlib.Algebra.BigOperators.Group.List.Basic
import Mathlib.Algebra.Order.BigOperators.Group.List
import Mathlib.Tactic.FieldSimp
import Mathlib.Tactic.Linarith
import Mathlib.Tactic.Positivity
import Mathlib.Tactic.Ring

/-!
# Conservation of Guest Operations

A scrape turns two readings of the counters of a disk into rates. Multiplied by
the elapsed time, the rates of a run give back the operations of the guest:
none is lost between two scrapes and none is counted twice.

The collector compares each reading with the snapshot it has stored. Only a
successful scrape stores one, so the stored snapshot is always the last
successful reading, whatever failed since (`emitted_eq`): the metrics of a disk
over a run are those of consecutive successful readings. Their differences
then telescope (`sum_intervals`).

The latency is an average over the operations of an interval. An interval in
which the queue was in use but no operation finished has no average, and what
the queue grew in it is in no metric. This is the only loss.

## Main definitions

* `readings`: The readings of a disk in the successful scrapes.
* `emittedBy`, `emitted`: The metrics of a disk, by one scrape and by a run.
* `intervals`: Consecutive pairs of a list.
* `Grows`: Time passes and no counter falls.

## Theorems

* `diskLoop_metrics`: The metrics of a loop over the snapshot.
* `scrapeTask_error`, `scrapeTask_ok`: What a scrape emits for a disk and
  stores.
* `emitted_eq`: What a run emits for a disk.
* `sum_intervals`: Sums of differences.
* `opMetrics_ops`, `opMetrics_queue`: One interval.
* `guest_operations_conserved`: A run of scrapes.
-/

namespace LatencyExporter

namespace Qga

open Overwrite

/-- The reading of a disk in a successful scrape. -/
def reading (name : String) (reply : GuestReply) : Option DiskCounters :=
  match reply.counters with
  | .error _ => none
  | .ok counters => snapshot counters name

/-- The readings of a disk in the successful scrapes of a run. -/
def readings (name : String) (run : List GuestReply) : List DiskCounters :=
  run.filterMap (reading name)

/-- The metrics a scrape emits for a disk. -/
def emittedBy (name : String) (s : GuestScrape) : List DiskMetrics :=
  match s.result with
  | .ok (some r) => (r.disks.map EnrichedDisk.metrics).filter fun m => m.name = name
  | _ => []

/-- The metrics the scrapes of a run emit for a disk. -/
def emitted (cfg : CollectorConfig) (name : String) : VmState → List GuestReply → List DiskMetrics
  | _, [] => []
  | vs, reply :: run =>
      let s := scrapeTask cfg vs reply
      emittedBy name s ++ emitted cfg name s.vm run

/-- The guest answers with its counters. -/
def succeeds (reply : GuestReply) : Bool :=
  match reply.counters with
  | .error _ => false
  | .ok _ => true

/-- Each element of a list with the one after it. -/
def intervals {α : Type} : List α → List (α × α)
  | a :: b :: l => (a, b) :: intervals (b :: l)
  | _ => []

/-- Time passes from one reading to the next and no counter falls. -/
def Grows (prev curr : DiskCounters) : Prop :=
  prev.timestamp100ns < curr.timestamp100ns ∧
  prev.rdOps ≤ curr.rdOps ∧ prev.wrOps ≤ curr.wrOps ∧
  prev.rdQueueLen ≤ curr.rdQueueLen ∧ prev.wrQueueLen ≤ curr.wrQueueLen

theorem snapshot_eq (counters : List DiskCounters) :
    snapshot counters = overwrite (counters.map fun dc => (dc.name, dc)) := by
  rw [overwrite, List.foldl_map]
  rfl

/-- A snapshot has the listed names, each with counters of its own. -/
theorem snapshot_spec (counters : List DiskCounters) (name : String) :
    (∀ dc, snapshot counters name = some dc → dc.name = name) ∧
    ((snapshot counters name).isSome ↔ ∃ dc ∈ counters, dc.name = name) := by
  rw [snapshot_eq]
  refine ⟨?_, ?_⟩
  · intro dc hdc
    rcases List.mem_map.mp (mem_of_overwrite _ name dc hdc) with ⟨dc', _, heq⟩
    rw [Prod.mk.injEq] at heq
    rw [← heq.2]
    exact heq.1
  · simp only [isSome_overwrite_iff, List.mem_map, Prod.mk.injEq]
    constructor
    · rintro ⟨_, dc, hdc, hname, _⟩
      exact ⟨dc, hdc, hname⟩
    · rintro ⟨dc, hdc, hname⟩
      exact ⟨dc, dc, hdc, hname, rfl⟩

theorem computeMetrics_name (prev curr : DiskCounters) :
    (computeMetrics prev curr).name = curr.name := by
  unfold computeMetrics
  split <;> rfl

/-- The loop derives the metrics of the names it goes through. -/
theorem diskLoop_metrics (fetched : Qmp.PvcMap) (prev curr : String → Option DiskCounters)
    (diskMap : Int → Option String) (names : List String) (c : Refresh.Cache Qmp.PvcMap) :
    (diskLoop fetched prev curr diskMap names c).1.map EnrichedDisk.metrics
      = names.filterMap (measured prev curr) := by
  induction names generalizing c with
  | nil => rfl
  | cons name names ih =>
      cases hm : measured prev curr name with
      | none =>
          rw [diskLoop_skip fetched prev curr diskMap name names c hm, ih,
            List.filterMap_cons_none hm]
      | some m =>
          rw [diskLoop_take fetched prev curr diskMap name names c m hm,
            List.filterMap_cons_some hm]
          -- The label does not matter here, nor what becomes of the cache.
          cases (parseDiskIndex m.name).bind diskMap with
          | none => exact congrArg (m :: ·) (ih c)
          | some volName => exact congrArg (m :: ·) (ih _)

theorem measured_name (counters : List DiskCounters) (prev : String → Option DiskCounters)
    (name : String) (m : DiskMetrics) (hm : measured prev (snapshot counters) name = some m) :
    m.name = name := by
  unfold measured at hm
  -- The name is that of the current reading.
  split at hm
  · next currCounters prevCounters hcurr hprev =>
      simp only [Option.ite_none_right_eq_some, Option.some.injEq] at hm
      rw [← hm.2, computeMetrics_name]
      exact (snapshot_spec counters name).1 currCounters hcurr
  · exact absurd hm (by simp only [reduceCtorEq, not_false_eq_true])

/-- Of distinct names, only its own contributes metrics under a name. -/
theorem filter_measured (counters : List DiskCounters) (prev : String → Option DiskCounters)
    (name : String) (names : List String) (hnodup : names.Nodup) :
    (names.filterMap (measured prev (snapshot counters))).filter (fun m => m.name = name)
      = if name ∈ names then (measured prev (snapshot counters) name).toList else [] := by
  induction names with
  | nil => rfl
  | cons first names ih =>
      rw [List.nodup_cons] at hnodup
      have hrest := ih hnodup.2
      have hmine : ∀ m, measured prev (snapshot counters) first = some m → m.name = first :=
        measured_name counters prev first
      -- Either this is the name in question, or it contributes nothing.
      by_cases hname : first = name
      · rw [hname] at hnodup hmine ⊢
        rw [if_neg hnodup.1] at hrest
        rw [if_pos List.mem_cons_self]
        cases hm : measured prev (snapshot counters) name with
        | none => rw [List.filterMap_cons_none hm, hrest, Option.toList_none]
        | some m =>
            rw [List.filterMap_cons_some hm, List.filter_cons_of_pos (by simpa using hmine m hm),
              hrest, Option.toList_some]
      · have hmem : name ∈ first :: names ↔ name ∈ names := by
          rw [List.mem_cons]
          exact or_iff_right (Ne.symm hname)
        simp only [hmem]
        cases hm : measured prev (snapshot counters) first with
        | none => rw [List.filterMap_cons_none hm, hrest]
        | some m =>
            have hne : m.name ≠ name := by
              rw [hmine m hm]
              exact hname
            rw [List.filterMap_cons_some hm, List.filter_cons_of_neg (by simpa using hne), hrest]

/-- A scrape that fails emits nothing and keeps the stored snapshot. -/
theorem scrapeTask_error (cfg : CollectorConfig) (vs : VmState) (reply : GuestReply)
    (err : ScrapeError) (hreply : reply.counters = .error err) (hopen : vs.closed = false)
    (name : String) :
    emittedBy name (scrapeTask cfg vs reply) = [] ∧
    (scrapeTask cfg vs reply).vm.prevSnapshot = vs.prevSnapshot ∧
    (scrapeTask cfg vs reply).vm.closed = false := by
  rcases handleScrapeError_frame cfg vs err with ⟨_, _, _, hvm⟩
  have hscrape : scrapeVM cfg vs reply
      = { result := .error err, vm := vs, pvcRefreshed := false } := by
    simp only [scrapeVM, hopen, hreply, Bool.false_eq_true, if_false]
  simp only [scrapeTask, hscrape, emittedBy, hvm, hopen, and_self]

/-- A scrape that succeeds emits the metrics against the stored snapshot, and
    stores its own. -/
theorem scrapeTask_ok (cfg : CollectorConfig) (vs : VmState) (reply : GuestReply)
    (counters : List DiskCounters) (hreply : reply.counters = .ok counters)
    (hopen : vs.closed = false) (name : String) (hpresent : ∃ dc ∈ counters, dc.name = name) :
    emittedBy name (scrapeTask cfg vs reply)
      = (vs.prevSnapshot.bind fun prev => measured prev (snapshot counters) name).toList ∧
    (scrapeTask cfg vs reply).vm.prevSnapshot = some (snapshot counters) ∧
    (scrapeTask cfg vs reply).vm.closed = false := by
  have htask : scrapeTask cfg vs reply = scrapeVM cfg vs reply := by
    simp only [scrapeTask, scrapeVM, hopen, hreply, Bool.false_eq_true, if_false]
  have hmem : name ∈ reply.order := (reply.mem_order counters hreply name).mpr hpresent
  rw [htask]
  refine ⟨?_, ?_, ?_⟩
  · -- Without a stored snapshot there is nothing to compare with.
    cases hprev : vs.prevSnapshot with
    | none =>
        simp only [scrapeVM, hopen, hreply, hprev, emittedBy, Bool.false_eq_true, if_false,
          List.length_nil, if_true, Option.bind_none, Option.toList_none]
    | some prev =>
        have hloop := fun fetched c =>
          diskLoop_metrics fetched prev (snapshot counters) vs.diskMap reply.order c
        have hfilter := filter_measured counters prev name reply.order reply.order_nodup
        rw [if_pos hmem] at hfilter
        simp only [scrapeVM, hopen, hreply, hprev, Bool.false_eq_true, if_false,
          Option.bind_some]
        -- An empty list of disks is returned as no result at all.
        rw [emittedBy, ← hfilter, ← hloop (Qmp.fetchPVCMap reply.dynClient vs.ns vs.vmi)
          { map := vs.pvcMap, refreshed := false }]
        split
        · next r hr =>
            split at hr
            · exact absurd hr (by simp only [Except.ok.injEq, reduceCtorEq, not_false_eq_true])
            · simp only [Except.ok.injEq, Option.some.injEq] at hr
              rw [← hr]
        · next hr =>
            split at hr
            · next hlen =>
                rw [List.eq_nil_of_length_eq_zero hlen]
                rfl
            · exact absurd rfl (hr _)
  · simp only [scrapeVM, hopen, hreply, Bool.false_eq_true, if_false]
  · simp only [scrapeVM, hopen, hreply, Bool.false_eq_true, if_false]

theorem measured_of_grows (prev curr : String → Option DiskCounters) (name : String)
    (a b : DiskCounters) (ha : prev name = some a) (hb : curr name = some b) (hgrows : Grows a b) :
    measured prev curr name = some (computeMetrics a b) := by
  have hlt : a.timestamp100ns.toNat < b.timestamp100ns.toNat := UInt64.lt_iff_toNat_lt.mp hgrows.1
  -- Time passes, so the metrics are not discarded.
  have hpos : (computeMetrics a b).elapsedSec > 0 := by
    rw [computeMetrics, if_neg (by rw [UInt64.le_iff_toNat_le]; omega)]
    have hsub : 0 < (b.timestamp100ns - a.timestamp100ns).toNat := by
      rw [UInt64.toNat_sub_of_le _ _ (UInt64.le_iff_toNat_le.mpr hlt.le)]
      omega
    change (0 : ℚ) < ((b.timestamp100ns - a.timestamp100ns).toNat : ℚ) / 10 ^ 7
    positivity
  simp only [measured, ha, hb, if_pos hpos]

/-- The metrics of a run are those of its consecutive successful readings,
    starting from the stored one. -/
theorem emitted_eq (cfg : CollectorConfig) (name : String) (run : List GuestReply)
    (hpresent : ∀ reply ∈ run, ∀ counters, reply.counters = .ok counters →
      ∃ dc ∈ counters, dc.name = name) :
    ∀ (vs : VmState) (stored : Option DiskCounters), vs.closed = false →
      vs.prevSnapshot.bind (fun prev => prev name) = stored →
      (stored.toList ++ readings name run).IsChain Grows →
      emitted cfg name vs run
        = (intervals (stored.toList ++ readings name run)).map fun i => computeMetrics i.1 i.2 := by
  -- By induction on the run; the stored reading is generalised.
  induction run with
  | nil =>
      intro vs stored _ _ _
      cases stored <;> rfl
  | cons reply run ih =>
      intro vs stored hopen hstored hchain
      have ih' := ih fun r hr => hpresent r (List.mem_cons_of_mem _ hr)
      cases hreply : reply.counters with
      | error err =>
          -- Nothing is emitted and the stored reading stays, so the next interval is longer.
          rcases scrapeTask_error cfg vs reply err hreply hopen name with ⟨hnone, hprev, hopen'⟩
          have hreading : reading name reply = none := by rw [reading, hreply]
          rw [readings, List.filterMap_cons_none hreading, ← readings] at hchain ⊢
          rw [emitted, hnone, List.nil_append]
          exact ih' _ stored hopen' (by rw [hprev, hstored]) hchain
      | ok counters =>
          have hmem := hpresent reply List.mem_cons_self counters hreply
          rcases scrapeTask_ok cfg vs reply counters hreply hopen name hmem
            with ⟨hemit, hprev, hopen'⟩
          rcases Option.isSome_iff_exists.mp ((snapshot_spec counters name).2.mpr hmem)
            with ⟨curr, hcurr⟩
          have hreading : reading name reply = some curr := by rw [reading, hreply, ← hcurr]
          rw [readings, List.filterMap_cons_some hreading, ← readings] at hchain ⊢
          have hrest : emitted cfg name (scrapeTask cfg vs reply).vm run
              = (intervals (curr :: readings name run)).map fun i => computeMetrics i.1 i.2 := by
            refine ih' _ (some curr) hopen' (by rw [hprev, Option.bind_some, hcurr]) ?_
            exact hchain.right_of_append
          rw [emitted, hemit, hrest]
          -- The first reading has nothing to be compared with.
          cases stored with
          | none =>
              cases hsnap : vs.prevSnapshot with
              | none => rfl
              | some prev =>
                  rw [hsnap, Option.bind_some] at hstored
                  have hnone : measured prev (snapshot counters) name = none := by
                    simp only [measured, hcurr, hstored]
                  rw [Option.bind_some, hnone]
                  rfl
          | some last =>
              rcases Option.bind_eq_some_iff.mp hstored with ⟨prev, hsnap, hlast⟩
              rw [Option.toList_some, List.singleton_append, List.isChain_cons_cons] at hchain
              rw [hsnap, Option.bind_some,
                measured_of_grows prev (snapshot counters) name last curr hlast hcurr hchain.1]
              rfl

section Telescope

variable {α : Type} (f : α → ℚ)

/-- Differences of consecutive elements add up to the difference of the ends. -/
theorem sum_intervals (a : α) (l : List α) :
    ((intervals (a :: l)).map fun i => f i.2 - f i.1).sum
      = f ((a :: l).getLast (List.cons_ne_nil a l)) - f a := by
  -- The inner ends cancel.
  induction l generalizing a with
  | nil => exact (sub_self _).symm
  | cons b l ih =>
      rw [intervals, List.map_cons, List.sum_cons, ih b, List.getLast_cons (List.cons_ne_nil b l)]
      ring

/-- What holds from each element of a chain to the next holds of its intervals. -/
theorem forall_intervals (R : α → α → Prop) (l : List α) (hchain : l.IsChain R) :
    ∀ i ∈ intervals l, R i.1 i.2 := by
  induction l with
  | nil => exact fun i hi => absurd hi List.not_mem_nil
  | cons a l ih =>
      cases l with
      | nil => exact fun i hi => absurd hi List.not_mem_nil
      | cons b l =>
          rw [List.isChain_cons_cons] at hchain
          intro i hi
          rcases List.mem_cons.mp hi with rfl | hi
          · exact hchain.1
          · exact ih hchain.2 i hi

/-- A quantity that is the difference in each interval telescopes. -/
theorem sum_eq_of_intervals (R : α → α → Prop) (g : α → α → ℚ)
    (hg : ∀ a b, R a b → g a b = f b - f a) (a : α) (l : List α) (hchain : (a :: l).IsChain R) :
    ((intervals (a :: l)).map fun i => g i.1 i.2).sum
      = f ((a :: l).getLast (List.cons_ne_nil a l)) - f a := by
  rw [← sum_intervals]
  exact congrArg List.sum (List.map_congr_left fun i hi =>
    hg i.1 i.2 (forall_intervals R _ hchain i hi))

/-- One that is at most the difference in each interval is at most the
    difference of the ends. -/
theorem sum_le_of_intervals (R : α → α → Prop) (g : α → α → ℚ)
    (hg : ∀ a b, R a b → g a b ≤ f b - f a) (a : α) (l : List α) (hchain : (a :: l).IsChain R) :
    ((intervals (a :: l)).map fun i => g i.1 i.2).sum
      ≤ f ((a :: l).getLast (List.cons_ne_nil a l)) - f a := by
  rw [← sum_intervals]
  exact List.sum_le_sum fun i hi => hg i.1 i.2 (forall_intervals R _ hchain i hi)

end Telescope

theorem toNat_sub_cast (a b : UInt64) (h : a ≤ b) :
    (((b - a).toNat : Nat) : ℚ) = (b.toNat : ℚ) - a.toNat := by
  rw [UInt64.toNat_sub_of_le _ _ h, Nat.cast_sub (UInt64.le_iff_toNat_le.mp h)]

/-- The rate of an interval times its length is the number of operations. -/
theorem opMetrics_ops (ops queueLen : UInt64) (elapsedSec : ℚ) (hpos : 0 < elapsedSec) :
    (opMetrics ops queueLen elapsedSec).2 * elapsedSec = ops.toNat := by
  unfold opMetrics
  split
  · exact div_mul_cancel₀ _ hpos.ne'
  · -- No operations: the rate is zero, whatever the time.
    next hops =>
      have hzero : ops = 0 := UInt64.not_lt.mp hops |> fun h => UInt64.le_zero_iff.mp h
      rw [hzero]
      exact zero_mul _

/-- The time of the operations of an interval is the growth of the queue, or
    none if there were no operations. -/
theorem opMetrics_queue (ops queueLen : UInt64) (elapsedSec : ℚ) (hpos : 0 < elapsedSec) :
    (opMetrics ops queueLen elapsedSec).1 * (opMetrics ops queueLen elapsedSec).2 * elapsedSec
      = if ops = 0 then 0 else (queueLen.toNat : ℚ) / 10 ^ 7 := by
  rw [mul_assoc, opMetrics_ops ops queueLen elapsedSec hpos]
  -- The latency is a quotient by the operations, which cancels unless there are none.
  by_cases hzero : ops = 0
  · rw [if_pos hzero, hzero]
    exact mul_zero _
  · have hops : ops > 0 := UInt64.pos_iff_ne_zero.mpr hzero
    have hcast : ((ops.toNat : Nat) : ℚ) ≠ 0 := by
      rw [Nat.cast_ne_zero]
      exact fun hc => hzero (UInt64.toNat_inj.mp hc)
    rw [if_neg hzero, opMetrics, if_pos hops]
    field_simp

/-- Where time passes, the elapsed time is the difference of the readings. -/
theorem elapsedSec_of_grows (a b : DiskCounters) (hgrows : Grows a b) :
    0 < (computeMetrics a b).elapsedSec ∧
    (computeMetrics a b).elapsedSec
      = (b.timestamp100ns.toNat : ℚ) / 10 ^ 7 - a.timestamp100ns.toNat / 10 ^ 7 := by
  have hlt : a.timestamp100ns.toNat < b.timestamp100ns.toNat := UInt64.lt_iff_toNat_lt.mp hgrows.1
  have hcast : (a.timestamp100ns.toNat : ℚ) < b.timestamp100ns.toNat := by exact_mod_cast hlt
  have helapsed : (computeMetrics a b).elapsedSec
      = (b.timestamp100ns.toNat : ℚ) / 10 ^ 7 - a.timestamp100ns.toNat / 10 ^ 7 := by
    rw [computeMetrics, if_neg (by rw [UInt64.le_iff_toNat_le]; omega), ← sub_div,
      ← toNat_sub_cast _ _ (UInt64.le_iff_toNat_le.mpr hlt.le)]
  refine ⟨?_, helapsed⟩
  rw [helapsed, ← sub_div]
  exact div_pos (sub_pos.mpr hcast) (by norm_num)

/-- The operations of one kind in one interval, and the time they took. -/
theorem interval_of_opMetrics (opsA opsB queueA queueB : UInt64) (e lat iops : ℚ) (he : 0 < e)
    (hops : opsA ≤ opsB) (hqueue : queueA ≤ queueB)
    (hm : (lat, iops) = opMetrics (opsB - opsA) (queueB - queueA) e) :
    iops * e = (opsB.toNat : ℚ) - opsA.toNat ∧
    lat * iops * e ≤ (queueB.toNat : ℚ) / 10 ^ 7 - queueA.toNat / 10 ^ 7 ∧
    ((opsA = opsB → queueA = queueB) →
      lat * iops * e = (queueB.toNat : ℚ) / 10 ^ 7 - queueA.toNat / 10 ^ 7) := by
  have hlat : lat = (opMetrics (opsB - opsA) (queueB - queueA) e).1 := congrArg Prod.fst hm
  have hiops : iops = (opMetrics (opsB - opsA) (queueB - queueA) e).2 := congrArg Prod.snd hm
  have hgrowth : (((queueB - queueA).toNat : Nat) : ℚ) / 10 ^ 7
      = (queueB.toNat : ℚ) / 10 ^ 7 - queueA.toNat / 10 ^ 7 := by
    rw [toNat_sub_cast queueA queueB hqueue, sub_div]
  rw [hlat, hiops, opMetrics_ops _ _ e he, opMetrics_queue _ _ e he, ← hgrowth]
  refine ⟨toNat_sub_cast opsA opsB hops, ?_, ?_⟩
  · split
    · positivity
    · exact le_refl _
  · intro hbusy
    split
    · -- Without operations the queue did not grow either.
      next hzero =>
        have hidle : opsA = opsB := by
          have hdiff := UInt64.toNat_sub_of_le _ _ hops
          rw [hzero, UInt64.toNat_zero] at hdiff
          have hle := UInt64.le_iff_toNat_le.mp hops
          exact UInt64.toNat_inj.mp (by omega)
        rw [hgrowth, hbusy hidle, sub_self]
    · rfl

/-- One kind of operation over consecutive readings, reads and writes alike. -/
theorem kind_conserved (ops queue : DiskCounters → UInt64) (lat iops : DiskMetrics → ℚ)
    (hkind : ∀ a b, Grows a b → ops a ≤ ops b ∧ queue a ≤ queue b ∧
      (lat (computeMetrics a b), iops (computeMetrics a b))
        = opMetrics (ops b - ops a) (queue b - queue a) (computeMetrics a b).elapsedSec)
    (a : DiskCounters) (l : List DiskCounters) (hchain : (a :: l).IsChain Grows) :
    let ms := (intervals (a :: l)).map fun i => computeMetrics i.1 i.2
    let last := (a :: l).getLast (List.cons_ne_nil a l)
    (ms.map fun m => iops m * m.elapsedSec).sum = ((ops last).toNat : ℚ) - (ops a).toNat ∧
    (ms.map fun m => lat m * iops m * m.elapsedSec).sum
      ≤ ((queue last).toNat : ℚ) / 10 ^ 7 - (queue a).toNat / 10 ^ 7 ∧
    ((a :: l).IsChain (fun x y => ops x = ops y → queue x = queue y) →
      (ms.map fun m => lat m * iops m * m.elapsedSec).sum
        = ((queue last).toNat : ℚ) / 10 ^ 7 - (queue a).toNat / 10 ^ 7) := by
  -- Each interval by itself.
  have hinterval := fun x y (h : Grows x y) =>
    interval_of_opMetrics (ops x) (ops y) (queue x) (queue y) _ _ _ (elapsedSec_of_grows x y h).1
      (hkind x y h).1 (hkind x y h).2.1 (hkind x y h).2.2
  simp only [List.map_map]
  refine ⟨?_, ?_, ?_⟩
  · exact sum_eq_of_intervals (fun x => ((ops x).toNat : ℚ)) Grows _
      (fun x y h => (hinterval x y h).1) a l hchain
  · exact sum_le_of_intervals (fun x => ((queue x).toNat : ℚ) / 10 ^ 7) Grows _
      (fun x y h => (hinterval x y h).2.1) a l hchain
  · intro hbusy
    exact sum_eq_of_intervals (fun x => ((queue x).toNat : ℚ) / 10 ^ 7)
      (fun x y => Grows x y ∧ (ops x = ops y → queue x = queue y)) _
      (fun x y h => (hinterval x y h.1).2.2 h.2) a l
      (List.isChain_iff_getElem.mpr fun i hi => ⟨hchain.getElem i hi, hbusy.getElem i hi⟩)

/-- Over every run of scrapes of a machine that is newly tracked, failed ones
    included, the rates of a disk that is in every successful reading add up to
    the operations between the first and the last of them, and the elapsed
    times to the whole time. The latencies add up to no more than the growth of
    the queue, and to all of it unless the queue grows in an interval without
    operations. -/
theorem guest_operations_conserved (cfg : CollectorConfig) (vs : VmState)
    (hfresh : vs.prevSnapshot = none) (hopen : vs.closed = false) (run : List GuestReply)
    (name : String)
    (hpresent : ∀ reply ∈ run, ∀ counters, reply.counters = .ok counters →
      ∃ dc ∈ counters, dc.name = name)
    (hgrows : (readings name run).IsChain Grows) :
    emitted cfg name vs run = emitted cfg name vs (run.filter succeeds) ∧
    ∀ first last, (readings name run).head? = some first →
      (readings name run).getLast? = some last →
      ((emitted cfg name vs run).map fun m => m.rdIOPS * m.elapsedSec).sum
        = (last.rdOps.toNat : ℚ) - first.rdOps.toNat ∧
      ((emitted cfg name vs run).map fun m => m.wrIOPS * m.elapsedSec).sum
        = (last.wrOps.toNat : ℚ) - first.wrOps.toNat ∧
      ((emitted cfg name vs run).map fun m => m.elapsedSec).sum
        = (last.timestamp100ns.toNat : ℚ) / 10 ^ 7 - first.timestamp100ns.toNat / 10 ^ 7 ∧
      ((emitted cfg name vs run).map fun m => m.rdLatSec * m.rdIOPS * m.elapsedSec).sum
        ≤ (last.rdQueueLen.toNat : ℚ) / 10 ^ 7 - first.rdQueueLen.toNat / 10 ^ 7 ∧
      ((readings name run).IsChain (fun a b => a.rdOps = b.rdOps → a.rdQueueLen = b.rdQueueLen) →
        ((emitted cfg name vs run).map fun m => m.rdLatSec * m.rdIOPS * m.elapsedSec).sum
          = (last.rdQueueLen.toNat : ℚ) / 10 ^ 7 - first.rdQueueLen.toNat / 10 ^ 7) ∧
      ((emitted cfg name vs run).map fun m => m.wrLatSec * m.wrIOPS * m.elapsedSec).sum
        ≤ (last.wrQueueLen.toNat : ℚ) / 10 ^ 7 - first.wrQueueLen.toNat / 10 ^ 7 ∧
      ((readings name run).IsChain (fun a b => a.wrOps = b.wrOps → a.wrQueueLen = b.wrQueueLen) →
        ((emitted cfg name vs run).map fun m => m.wrLatSec * m.wrIOPS * m.elapsedSec).sum
          = (last.wrQueueLen.toNat : ℚ) / 10 ^ 7 - first.wrQueueLen.toNat / 10 ^ 7) := by
  have hemit := emitted_eq cfg name run hpresent vs none hopen (by rw [hfresh]; rfl) hgrows
  rw [Option.toList_none, List.nil_append] at hemit
  -- A failed scrape has no reading, so leaving it out changes none.
  have hsame : readings name (run.filter succeeds) = readings name run := by
    rw [readings, List.filterMap_filter]
    refine List.filterMap_congr fun reply _ => ?_
    unfold succeeds reading
    cases reply.counters <;> rfl
  -- Both runs have the same readings, hence the same intervals.
  refine ⟨?_, ?_⟩
  · have hemit' := emitted_eq cfg name (run.filter succeeds)
      (fun reply hr => hpresent reply (List.mem_of_mem_filter hr)) vs none hopen
      (by rw [hfresh]; rfl) (by rw [hsame]; exact hgrows)
    rw [hemit, hemit', hsame]
    rfl
  · intro first last hfirst hlast
    cases hreadings : readings name run with
    | nil =>
        rw [hreadings] at hfirst
        exact absurd hfirst (by simp only [List.head?_nil, reduceCtorEq, not_false_eq_true])
    | cons a l =>
        rw [hreadings] at hfirst hlast hgrows hemit
        rw [List.head?_cons, Option.some.injEq] at hfirst
        rw [List.getLast?_eq_getLast_of_ne_nil (List.cons_ne_nil a l), Option.some.injEq] at hlast
        rw [hemit, ← hfirst, ← hlast]
        have hnot : ∀ x y, Grows x y → ¬ y.timestamp100ns ≤ x.timestamp100ns :=
          fun x y h => UInt64.not_le.mpr h.1
        -- Reads and writes are the same computation on other fields.
        rcases kind_conserved DiskCounters.rdOps DiskCounters.rdQueueLen DiskMetrics.rdLatSec
          DiskMetrics.rdIOPS (fun x y h => ⟨h.2.1, h.2.2.2.1, by
            simp only [computeMetrics, if_neg (hnot x y h)]⟩) a l hgrows with ⟨hrd, hrdle, hrdeq⟩
        rcases kind_conserved DiskCounters.wrOps DiskCounters.wrQueueLen DiskMetrics.wrLatSec
          DiskMetrics.wrIOPS (fun x y h => ⟨h.2.2.1, h.2.2.2.2, by
            simp only [computeMetrics, if_neg (hnot x y h)]⟩) a l hgrows with ⟨hwr, hwrle, hwreq⟩
        refine ⟨hrd, hwr, ?_, hrdle, hrdeq, hwrle, hwreq⟩
        rw [List.map_map]
        exact sum_eq_of_intervals (fun x => (x.timestamp100ns.toNat : ℚ) / 10 ^ 7) Grows _
          (fun x y h => (elapsedSec_of_grows x y h).2) a l hgrows

/-- A guest with one disk. -/
def oneDisk (dc : DiskCounters) : GuestReply where
  counters := .ok [dc]
  order := [dc.name]
  order_nodup := List.nodup_singleton _
  mem_order := by
    intro cs hcs name
    rw [← Except.ok.inj hcs, List.mem_singleton]
    simp only [List.mem_singleton, exists_eq_left]
    exact eq_comm
  dynClient := none

/-- A guest that does not answer. -/
def noAnswer : GuestReply where
  counters := .error (.other "timeout")
  order := []
  order_nodup := List.nodup_nil
  mem_order := by
    intro cs hcs
    exact absurd hcs (by simp only [reduceCtorEq, not_false_eq_true])
  dynClient := none

/-- A machine before its first scrape. -/
def newVm : VmState :=
  { ns := "ns", vmi := "vm", podName := "pod", prevSnapshot := none, pvcMap := .empty,
    diskMap := fun _ => none, retryCount := 0, stopped := false, stopReason := "",
    closed := false }

/-- Counters of the drive `0 C:` after a number of reads and of seconds. -/
def driveC (rdOps seconds : UInt64) : DiskCounters :=
  { name := "0 C:", rdQueueLen := rdOps * 1000, wrQueueLen := 0, rdOps := rdOps, wrOps := 0,
    timestamp100ns := seconds * 10000000 }

/-- Two readings with a failed scrape between them. -/
theorem guest_operations_conserved_gap :
    ((emitted { nodeName := "node", maxRetries := 3 } "0 C:" newVm
        [oneDisk (driveC 5 10), noAnswer, oneDisk (driveC 25 70)]).map
      fun m => m.rdIOPS * m.elapsedSec).sum = 20 := by
  have hpresent : ∀ reply ∈ [oneDisk (driveC 5 10), noAnswer, oneDisk (driveC 25 70)],
      ∀ counters, reply.counters = .ok counters → ∃ dc ∈ counters, dc.name = "0 C:" := by
    intro reply hreply counters hcounters
    simp only [List.mem_cons, List.not_mem_nil, or_false] at hreply
    rcases hreply with rfl | rfl | rfl
    · rw [← Except.ok.inj hcounters]
      exact ⟨_, List.mem_cons_self, rfl⟩
    · exact absurd hcounters (by simp only [noAnswer, reduceCtorEq, not_false_eq_true])
    · rw [← Except.ok.inj hcounters]
      exact ⟨_, List.mem_cons_self, rfl⟩
  have hreadings : readings "0 C:" [oneDisk (driveC 5 10), noAnswer, oneDisk (driveC 25 70)]
      = [driveC 5 10, driveC 25 70] := by rfl
  have hgrows : Grows (driveC 5 10) (driveC 25 70) := by
    unfold Grows
    decide
  have hall := (guest_operations_conserved { nodeName := "node", maxRetries := 3 } newVm rfl rfl _
    "0 C:" hpresent (by rw [hreadings]; exact List.isChain_pair.mpr hgrows)).2
    (driveC 5 10) (driveC 25 70) (by rw [hreadings]; rfl) (by rw [hreadings]; rfl)
  rw [hall.1]
  change ((25 : Nat) : ℚ) - ((5 : Nat) : ℚ) = 20
  norm_num

end Qga

end LatencyExporter
