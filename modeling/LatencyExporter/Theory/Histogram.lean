import LatencyExporter.Core.Ebpf.Histogram
import LatencyExporter.Theory.Bits
import Mathlib.Algebra.BigOperators.Group.Finset.Basic
import Mathlib.Data.Nat.Cast.Order.Field
import Mathlib.Order.Interval.Finset.Fin
import Mathlib.Tactic.Linarith
import Mathlib.Tactic.NormNum

/-!
# Exported Buckets against Recorded Latencies

The two halves of a latency histogram, put together. The kernel half counts a
latency in the slot `slotIndex` gives, which stands for the microseconds from
`2 ^ i` up to `2 ^ (i + 1)`. The Go half publishes, for a boundary, the running
total up to the last slot whose ceiling it does not exceed, and takes the
ceiling of slot `i` to be `2 ^ i`: the lower edge.

So a request is counted under a boundary exactly when the lower edge of its
slot is within the boundary (`exported_eq`). A boundary that falls inside
a slot therefore counts requests that are slower than it, though never by more
than a factor of two, and it never misses one that is fast enough.

## Main definitions

* `Latency`: A duration as the handlers measure it.
* `seconds`: A duration as a number of seconds.
* `slotsOf`: The slot array after a list of requests.
* `exported`: The value exported for a boundary after a list of requests.
* `SoundBuckets`: No boundary counts more requests than are fast enough.
* `Straddles`: A boundary lies between a request and the edge of its slot.
* `unclampedSlot`: The slot of a request before it is limited.
* `CountedUnder`, `NotCountedUnder`: The difference a request makes to a
  boundary.

## Theorems

* `foldl_totalsStep`: The first loop over any list of slots.
* `runningTotal_eq`: The running total is the sum of the slots so far.
* `foldl_latest`: Keeping the latest match of an ascending list.
* `lastSlot_spec`: The second loop finds the highest slot in range.
* `bucketAt_eq`: Reading a boundary back from the map.
* `slotsOf_eq`: A slot counts the requests whose latency falls in it.
* `sum_slots_le`: Adding up slots counts the requests up to a slot.
* `exported_eq`: What a boundary counts.
* `soundBuckets_iff`: Buckets are sound when no boundary straddles.
* `exported_insert`: What a request adds to a boundary.
* `bucket_complete_within_factor_two`: Fast requests are counted, and no slower
  ones than twice the boundary.
-/

namespace LatencyExporter

namespace Ebpf

open Bpf

/-- The first loop over a list of distinct slots: the running total of a slot
    is the sum over the slots up to it, and slots not in the list keep what
    they had. -/
theorem foldl_totalsStep (c : Fin maxSlots → Nat) (l : List (Fin maxSlots)) :
    ∀ (t : Totals) (n : Nat), t.cumulative = UInt64.ofNat n → t.count = UInt64.ofNat n →
      let t' := l.foldl (totalsStep fun i => UInt64.ofNat (c i)) t
      t'.cumulative = UInt64.ofNat (n + (l.map c).sum) ∧
      t'.count = UInt64.ofNat (n + (l.map c).sum) ∧
      (∀ i, i ∉ l → t'.runningTotal i = t.runningTotal i) ∧
      (∀ l₁ i l₂, l = l₁ ++ i :: l₂ → i ∉ l₂ →
        t'.runningTotal i = UInt64.ofNat (n + (l₁.map c).sum + c i)) := by
  induction l with
  | nil =>
      intro t n hcum hcount
      refine ⟨by simpa using hcum, by simpa using hcount, fun i _ => rfl, ?_⟩
      intro l₁ i l₂ hl _
      simp only [List.nil_eq, List.append_eq_nil_iff, reduceCtorEq, and_false] at hl
  | cons a l ih =>
      intro t n hcum hcount
      have hcum' : (totalsStep (fun i => UInt64.ofNat (c i)) t a).cumulative
          = UInt64.ofNat (n + c a) := by
        simp only [totalsStep, hcum, UInt64.ofNat_add]
      have hcount' : (totalsStep (fun i => UInt64.ofNat (c i)) t a).count
          = UInt64.ofNat (n + c a) := by
        simp only [totalsStep, hcount, UInt64.ofNat_add]
      rcases ih _ (n + c a) hcum' hcount' with ⟨h1, h2, h3, h4⟩
      simp only [List.foldl_cons, List.map_cons, List.sum_cons, ← Nat.add_assoc]
      refine ⟨h1, h2, ?_, ?_⟩
      · -- A round writes the running total of its own slot only.
        intro i hi
        rw [h3 i (fun hc => hi (List.mem_cons_of_mem _ hc))]
        exact Function.update_of_ne (fun hc => hi (List.mem_cons.mpr (Or.inl hc))) _ _
      · intro l₁ i l₂ hl hi
        cases l₁ with
        | nil =>
            -- The slot of this round, which no later round writes again.
            rw [List.nil_append, List.cons.injEq] at hl
            rw [← hl.1, h3 a (hl.1 ▸ hl.2 ▸ hi)]
            simp only [totalsStep, Function.update_self, List.map_nil, List.sum_nil, Nat.add_zero,
              hcum, UInt64.ofNat_add]
        | cons a' l₁ =>
            rw [List.cons_append, List.cons.injEq] at hl
            rw [h4 l₁ i l₂ hl.2 hi, hl.1, List.map_cons, List.sum_cons, Nat.add_assoc n]

/-- A position in the ascending list of slots splits it into the smaller and
    the larger ones. -/
theorem finRange_split (i : Fin maxSlots) :
    ∃ l₁ l₂, List.finRange maxSlots = l₁ ++ i :: l₂ ∧ i ∉ l₂ ∧
      ∀ j, j ∈ l₁ ↔ j < i := by
  rcases List.append_of_mem (List.mem_finRange i) with ⟨l₁, l₂, h⟩
  have hp : (l₁ ++ i :: l₂).Pairwise (· < ·) := h ▸ List.pairwise_lt_finRange maxSlots
  rw [List.pairwise_append, List.pairwise_cons] at hp
  rcases hp with ⟨_, ⟨hi, _⟩, hcross⟩
  refine ⟨l₁, l₂, h, fun hc => lt_irrefl i (hi i hc), fun j => ⟨fun hj => ?_, fun hj => ?_⟩⟩
  · exact hcross j hj i List.mem_cons_self
  · have hmem : j ∈ l₁ ++ i :: l₂ := h ▸ List.mem_finRange j
    rcases List.mem_append.mp hmem with h1 | h2
    · exact h1
    · -- Anything from `i` on is at least `i`.
      rcases List.mem_cons.mp h2 with rfl | h2
      · exact absurd hj (lt_irrefl _)
      · exact absurd hj (lt_asymm (hi j h2))

theorem runningTotal_eq (c : Fin maxSlots → Nat) (i : Fin maxSlots) :
    (totals fun i => UInt64.ofNat (c i)).runningTotal i
      = UInt64.ofNat (∑ j ∈ Finset.Iic i, c j) := by
  rcases finRange_split i with ⟨l₁, l₂, hl, hi, hlt⟩
  have hrun := (foldl_totalsStep c (List.finRange maxSlots) Totals.zero 0 rfl rfl).2.2.2
    l₁ i l₂ hl hi
  have hnodup : (l₁ ++ i :: l₂).Nodup := hl ▸ List.nodup_finRange maxSlots
  -- The slots gone through so far are those up to this one.
  have hset : Finset.Iic i = insert i l₁.toFinset := by
    ext j
    rw [Finset.mem_Iic, Finset.mem_insert, List.mem_toFinset, hlt, le_iff_eq_or_lt]
  have hnot : i ∉ l₁.toFinset := by
    rw [List.mem_toFinset, hlt]
    exact lt_irrefl i
  rw [totals, hrun, hset, Finset.sum_insert hnot,
    List.sum_toFinset _ (List.nodup_append.mp hnodup).1, Nat.zero_add, Nat.add_comm]

/-- Keeping the latest match of an ascending list finds the greatest one. -/
theorem foldl_latest (p : Fin maxSlots → Prop) [DecidablePred p] (l : List (Fin maxSlots))
    (hl : l.Pairwise (· < ·)) :
    match l.foldl (fun slot i => if p i then some i else slot) none with
    | none => ∀ j ∈ l, ¬ p j
    | some s => p s ∧ ∀ j ∈ l, p j → j ≤ s := by
  induction l using List.reverseRecOn with
  | nil => exact fun j hj => absurd hj List.not_mem_nil
  | append_singleton l a ih =>
      rw [List.pairwise_append] at hl
      have hlast : ∀ j ∈ l, j < a := fun j hj => hl.2.2 j hj a List.mem_cons_self
      rw [List.foldl_concat]
      by_cases ha : p a
      · rw [if_pos ha]
        refine ⟨ha, fun j hj _ => ?_⟩
        rcases List.mem_append.mp hj with h | h
        · exact (hlast j h).le
        · exact (List.mem_singleton.mp h).le
      · rw [if_neg ha]
        have ih' := ih hl.1
        -- The new element does not match, so the earlier answer stands.
        cases hr : l.foldl (fun slot i => if p i then some i else slot) none with
        | none =>
            rw [hr] at ih'
            intro j hj
            rcases List.mem_append.mp hj with h | h
            · exact ih' j h
            · exact (List.mem_singleton.mp h) ▸ ha
        | some s =>
            rw [hr] at ih'
            refine ⟨ih'.1, fun j hj hp => ?_⟩
            rcases List.mem_append.mp hj with h | h
            · exact ih'.2 j h hp
            · exact absurd ((List.mem_singleton.mp h) ▸ hp) ha

theorem slotCeiling_mono (i j : Fin maxSlots) (h : i ≤ j) : slotCeiling i ≤ slotCeiling j := by
  unfold slotCeiling
  have hpow : (2 : ℚ) ^ i.val ≤ 2 ^ j.val := pow_le_pow_right₀ (by norm_num) h
  linarith

/-- The second loop settles on the highest slot whose ceiling is within the
    boundary, if there is one. -/
theorem lastSlot_spec (b : ℚ) :
    match lastSlot b with
    | none => ∀ j, ¬ slotCeiling j ≤ b
    | some s => ∀ j, j ≤ s ↔ slotCeiling j ≤ b := by
  have h := foldl_latest (fun i => slotCeiling i ≤ b) (List.finRange maxSlots)
    (List.pairwise_lt_finRange maxSlots)
  unfold lastSlot
  split at h
  · exact fun j => h j (List.mem_finRange j)
  · next s _ =>
      refine fun j => ⟨fun hj => le_trans (slotCeiling_mono j s hj) h.1, fun hj => ?_⟩
      exact h.2 j (List.mem_finRange j) hj

/-- Storing a value for each boundary and reading one of them back. -/
theorem bucketAt_eq (slots : Fin maxSlots → UInt64) (promBuckets : List ℚ) (b : ℚ)
    (hb : b ∈ promBuckets) :
    bucketAt (slotsToConstHistogram slots promBuckets) b = bucketValue (totals slots) b := by
  -- Every insertion writes the same value for a bound, so a bound that occurs
  -- twice is read like one that occurs once.
  have hread : ∀ (l : List ℚ) (m : Finmap (fun _ : ℚ => UInt64)),
      (b ∈ l ∨ m.lookup b = some (bucketValue (totals slots) b)) →
      (l.foldl (fun m b => m.insert b (bucketValue (totals slots) b)) m).lookup b
        = some (bucketValue (totals slots) b) := by
    intro l
    induction l with
    | nil => exact fun m h => h.resolve_left List.not_mem_nil
    | cons a l ih =>
        intro m h
        refine ih _ ?_
        by_cases hab : b = a
        · exact Or.inr (by rw [← hab, Finmap.lookup_insert])
        · rw [Finmap.lookup_insert_of_ne _ hab]
          exact h.imp_left fun hm => (List.mem_cons.mp hm).resolve_left hab
  simp only [bucketAt, slotsToConstHistogram, hread promBuckets ∅ (Or.inl hb), Option.getD_some]

/-- A duration the completion handlers count: a non-negative `__s64`. -/
abbrev Latency := Fin (2 ^ 63)

/-- A duration in seconds. -/
def seconds (d : Latency) : ℚ := (d.val : ℚ) / 1000000000

/-- The slot array user space reads after a list of requests completed. -/
def slotsOf (ds : List Latency) : Fin maxSlots → UInt64 :=
  slotsRead (ds.foldl (fun h d => h.fetchAndAdd (latencySlot d.val)) zeroHist)

/-- The value exported for a boundary after a list of requests completed. -/
def exported (ds : List Latency) (promBuckets : List ℚ) (b : ℚ) : Nat :=
  (bucketAt (slotsToConstHistogram (slotsOf ds) promBuckets) b).toNat

theorem slotsOf_eq (ds : List Latency) (i : Fin maxSlots) :
    slotsOf ds i = UInt64.ofNat (ds.countP fun d => latencySlot d.val = i) := by
  have hcount : ∀ (h : Hist), (ds.foldl (fun h d => h.fetchAndAdd (latencySlot d.val)) h).slots i
      = h.slots i + ds.countP fun d => latencySlot d.val = i := by
    induction ds with
    | nil => exact fun h => rfl
    | cons d ds ih =>
        intro h
        rw [List.foldl_cons, ih, List.countP_cons]
        simp only [Hist.fetchAndAdd, eq_comm (a := i), decide_eq_true_eq]
        split <;> omega
  simp only [slotsOf, slotsRead, hcount, zeroHist, Nat.zero_add]

/-- Adding up the slots up to a given one counts the requests in them. -/
theorem sum_slots_le (ds : List Latency) (s : Fin maxSlots) :
    ∑ j ∈ Finset.Iic s, ds.countP (fun d => latencySlot d.val = j)
      = ds.countP fun d => latencySlot d.val ≤ s := by
  induction ds with
  | nil => simp only [List.countP_nil, Finset.sum_const_zero]
  | cons d ds ih =>
      simp only [List.countP_cons, Finset.sum_add_distrib, ih, decide_eq_true_eq,
        Finset.sum_ite_eq, Finset.mem_Iic]

/-- A boundary counts the requests whose slot has its ceiling within the
    boundary. -/
theorem exported_eq (ds : List Latency) (promBuckets : List ℚ) (b : ℚ) (hb : b ∈ promBuckets) :
    exported ds promBuckets b
      = (ds.countP fun d => slotCeiling (latencySlot d.val) ≤ b) % 2 ^ 64 := by
  have hslots : slotsOf ds = fun i => UInt64.ofNat (ds.countP fun d => latencySlot d.val = i) :=
    funext (slotsOf_eq ds)
  have hspec := lastSlot_spec b
  rw [exported, bucketAt_eq _ _ _ hb, bucketValue, hslots]
  split at hspec
  · -- No slot lies under the bound.
    next hr =>
      have hzero : (ds.countP fun d => slotCeiling (latencySlot d.val) ≤ b) = 0 :=
        List.countP_eq_zero.mpr fun d _ => by simpa using hspec (latencySlot d.val)
      rw [hr, hzero]
      rfl
  · next s hr =>
      rw [hr]
      simp only [runningTotal_eq, sum_slots_le, hspec, UInt64.toNat_ofNat']

theorem slotCeiling_latencySlot (d : Latency) :
    slotCeiling (latencySlot d.val) = (2 : ℚ) ^ slotIndex d.val / 1000000 := by
  rw [slotCeiling, latencySlot_val d.val d.isLt]

/-- From one microsecond on, a boundary is not below the ceiling of any
    request that is fast enough for it. -/
theorem slotCeiling_le_of_seconds_le (d : Latency) (b : ℚ) (hb : 1 / 1000000 ≤ b)
    (hd : seconds d ≤ b) : slotCeiling (latencySlot d.val) ≤ b := by
  rw [slotCeiling_latencySlot]
  have hlow : (2 : ℚ) ^ slotIndex d.val ≤ ((max 1 (d.val / 1000) : Nat) : ℚ) := by
    exact_mod_cast slotIndex_lower d.val
  have htrunc : ((d.val / 1000 : Nat) : ℚ) ≤ (d.val : ℚ) / 1000 := Nat.cast_div_le
  unfold seconds at hd
  rw [Nat.cast_max, Nat.cast_one] at hlow
  rcases le_max_iff.mp hlow with h | h <;> linarith

/-- Below the last slot, a request is faster than twice any boundary its
    ceiling is within. -/
theorem seconds_lt_of_slotCeiling_le (d : Latency) (b : ℚ)
    (hslot : Nat.log 2 (max 1 (d.val / 1000)) < 25)
    (hb : slotCeiling (latencySlot d.val) ≤ b) : seconds d < 2 * b := by
  rw [slotCeiling_latencySlot] at hb
  have hup : (d.val : ℚ) < 1000 * 2 ^ (slotIndex d.val + 1) := by
    exact_mod_cast slotIndex_upper d.val hslot
  have hpow : (2 : ℚ) ^ (slotIndex d.val + 1) = 2 ^ slotIndex d.val * 2 := pow_succ _ _
  unfold seconds
  linarith

/-- Every boundary's value is at most the number of requests that were at
    least as fast as the boundary. -/
def SoundBuckets (ds : List Latency) (promBuckets : List ℚ) : Prop :=
  ∀ b ∈ promBuckets, exported ds promBuckets b ≤ ds.countP fun d => seconds d ≤ b

/-- The boundary lies between the lower edge of the request's slot and the
    request itself. -/
def Straddles (b : ℚ) (d : Latency) : Prop :=
  (2 : ℚ) ^ slotIndex d.val / 1000000 ≤ b ∧ b < seconds d

/-- Buckets are sound when no boundary straddles a request, and as long as the
    64-bit counters have not wrapped they are sound in no other case. -/
theorem soundBuckets_iff (ds : List Latency) (promBuckets : List ℚ) :
    ((∀ b ∈ promBuckets, ∀ d ∈ ds, ¬ Straddles b d) → SoundBuckets ds promBuckets) ∧
    (ds.length < 2 ^ 64 →
      (SoundBuckets ds promBuckets ↔ ∀ b ∈ promBuckets, ∀ d ∈ ds, ¬ Straddles b d)) := by
  have hsound : (∀ b ∈ promBuckets, ∀ d ∈ ds, ¬ Straddles b d) → SoundBuckets ds promBuckets := by
    intro hno b hb
    rw [exported_eq ds promBuckets b hb]
    refine le_trans (Nat.mod_le _ _) (List.countP_mono_left fun d hd hceil => ?_)
    simp only [decide_eq_true_eq, slotCeiling_latencySlot] at hceil ⊢
    exact not_lt.mp fun hlt => hno b hb d hd ⟨hceil, hlt⟩
  refine ⟨hsound, fun hlen => ⟨fun hs b hb d hd hstr => ?_, hsound⟩⟩
  have hle := hs b hb
  rw [exported_eq ds promBuckets b hb,
    Nat.mod_eq_of_lt (lt_of_le_of_lt List.countP_le_length hlen)] at hle
  have hceil : slotCeiling (latencySlot d.val) ≤ b := by
    rw [slotCeiling_latencySlot]
    exact hstr.1
  -- A straddled boundary is at least a microsecond, the least ceiling.
  have hb1 : 1 / 1000000 ≤ b := by
    have h1 : (1 : ℚ) ≤ 2 ^ slotIndex d.val := one_le_pow₀ (by norm_num)
    have h2 := hstr.1
    linarith
  rcases List.append_of_mem hd with ⟨pre, post, rfl⟩
  have hmono : ∀ l : List Latency, (l.countP fun d => seconds d ≤ b)
      ≤ l.countP fun d => slotCeiling (latencySlot d.val) ≤ b := by
    intro l
    refine List.countP_mono_left fun d' _ hfast => ?_
    simp only [decide_eq_true_eq] at hfast ⊢
    exact slotCeiling_le_of_seconds_le d' b hb1 hfast
  -- The straddling request is counted but not fast enough.
  have hslow : ¬ seconds d ≤ b := not_le.mpr hstr.2
  have hpre := hmono pre
  have hpost := hmono post
  simp only [List.countP_append, List.countP_cons, hceil, hslow, decide_true, decide_false,
    Bool.false_eq_true, if_true, if_false] at hle
  omega

/-- A request of 16 ms is exported as taking at most 10 ms. -/
theorem not_soundBuckets_16ms : ¬ SoundBuckets [16000000] [1 / 100, 1 / 10, 1] := by
  intro h
  have h1 := h (1 / 100) List.mem_cons_self
  exact absurd h1 (by decide +kernel)

/-- The slot of a request before it is limited to the last one. -/
def unclampedSlot (d : Latency) : Nat := (log2l (UInt64.ofInt (latencyUs d.val))).toNat

/-- A request is counted under a boundary when leaving it out of the run
    lowers the boundary's value by one. -/
def CountedUnder (pre : List Latency) (d : Latency) (post : List Latency) (promBuckets : List ℚ)
    (b : ℚ) : Prop :=
  exported (pre ++ d :: post) promBuckets b = exported (pre ++ post) promBuckets b + 1

/-- It is not counted when leaving it out makes no difference. -/
def NotCountedUnder (pre : List Latency) (d : Latency) (post : List Latency)
    (promBuckets : List ℚ) (b : ℚ) : Prop :=
  exported (pre ++ d :: post) promBuckets b = exported (pre ++ post) promBuckets b

theorem exported_of_length_lt (ds : List Latency) (promBuckets : List ℚ) (b : ℚ)
    (hb : b ∈ promBuckets) (hlen : ds.length < 2 ^ 64) :
    exported ds promBuckets b = ds.countP fun d => slotCeiling (latencySlot d.val) ≤ b := by
  rw [exported_eq ds promBuckets b hb]
  exact Nat.mod_eq_of_lt (lt_of_le_of_lt List.countP_le_length hlen)

/-- What a request adds to the value of a boundary. -/
theorem exported_insert (pre post : List Latency) (d : Latency) (promBuckets : List ℚ) (b : ℚ)
    (hb : b ∈ promBuckets) (hlen : (pre ++ d :: post).length < 2 ^ 64) :
    exported (pre ++ d :: post) promBuckets b = exported (pre ++ post) promBuckets b
      + if slotCeiling (latencySlot d.val) ≤ b then 1 else 0 := by
  have hlen' : (pre ++ post).length < 2 ^ 64 := by
    simp only [List.length_append, List.length_cons] at hlen ⊢
    omega
  -- Neither count wraps, and they differ by the request in question.
  rw [exported_of_length_lt _ _ _ hb hlen, exported_of_length_lt _ _ _ hb hlen',
    List.countP_append, List.countP_append, List.countP_cons, ← Nat.add_assoc]
  simp only [decide_eq_true_eq]

/-- From one microsecond on, the value of a boundary lies between the number of
    requests that are fast enough and the number of those that are faster than
    twice the boundary or beyond the last slot. Request by request: each adds
    one to the value or nothing, one that is fast enough adds one, and one that
    takes twice as long or longer and is not beyond the last slot adds nothing. -/
theorem bucket_complete_within_factor_two (ds : List Latency) (promBuckets : List ℚ) (b : ℚ)
    (hb : b ∈ promBuckets) (hus : 1 / 1000000 ≤ b) (hlen : ds.length < 2 ^ 64) :
    (ds.countP fun d => seconds d ≤ b) ≤ exported ds promBuckets b ∧
    exported ds promBuckets b ≤ (ds.countP fun d => seconds d < 2 * b ∨ 25 ≤ unclampedSlot d) ∧
    ∀ pre d post, ds = pre ++ d :: post →
      (CountedUnder pre d post promBuckets b ∨ NotCountedUnder pre d post promBuckets b) ∧
      (seconds d ≤ b → CountedUnder pre d post promBuckets b) ∧
      (2 * b ≤ seconds d → unclampedSlot d < 25 → NotCountedUnder pre d post promBuckets b) := by
  have hnear : ∀ d : Latency, slotCeiling (latencySlot d.val) ≤ b → unclampedSlot d < 25 →
      seconds d < 2 * b := by
    intro d hceil hslot
    rw [unclampedSlot, log2l_latencyUs d.val d.isLt] at hslot
    exact seconds_lt_of_slotCeiling_le d b hslot hceil
  refine ⟨?_, ?_, fun pre d post hds => ?_⟩
  · rw [exported_of_length_lt ds promBuckets b hb hlen]
    refine List.countP_mono_left fun d _ hfast => ?_
    rw [decide_eq_true_eq] at hfast ⊢
    exact slotCeiling_le_of_seconds_le d b hus hfast
  · rw [exported_of_length_lt ds promBuckets b hb hlen]
    refine List.countP_mono_left fun d _ hceil => ?_
    rw [decide_eq_true_eq] at hceil ⊢
    rcases Nat.lt_or_ge (unclampedSlot d) 25 with hslot | hslot
    · exact Or.inl (hnear d hceil hslot)
    · exact Or.inr hslot
  · rw [hds] at hlen
    have hadd := exported_insert pre post d promBuckets b hb hlen
    by_cases hceil : slotCeiling (latencySlot d.val) ≤ b
    · rw [if_pos hceil] at hadd
      refine ⟨Or.inl hadd, fun _ => hadd, fun hslow hslot => ?_⟩
      exact absurd (hnear d hceil hslot) (not_lt.mpr hslow)
    · rw [if_neg hceil] at hadd
      refine ⟨Or.inr hadd, fun hfast => ?_, fun _ _ => hadd⟩
      exact absurd (slotCeiling_le_of_seconds_le d b hus hfast) hceil

/-- Requests of 3, 16 and 40 ms and of 100 s. -/
def mixedRequests : List Latency := [16000000, 3000000, 40000000, 100000000000]

/-- A boundary of 10 ms counts the first two: the one of 3 ms is fast enough,
    that of 16 ms is faster than twice the boundary, and that of 100 s is beyond
    the last slot. -/
theorem bucket_complete_mixed :
    (mixedRequests.countP fun d => seconds d ≤ 1 / 100) = 1 ∧
    1 ≤ exported mixedRequests [1 / 10, 1 / 100, 1] (1 / 100) ∧
    exported mixedRequests [1 / 10, 1 / 100, 1] (1 / 100) = 2 ∧
    exported mixedRequests [1 / 10, 1 / 100, 1] (1 / 100) ≤ 3 ∧
    (mixedRequests.countP fun d => seconds d < 2 * (1 / 100) ∨ 25 ≤ unclampedSlot d) = 3 ∧
    CountedUnder [16000000] 3000000 [40000000, 100000000000] [1 / 10, 1 / 100, 1] (1 / 100) ∧
    NotCountedUnder [16000000, 3000000] 40000000 [100000000000] [1 / 10, 1 / 100, 1]
      (1 / 100) := by
  have hfast : (mixedRequests.countP fun d => seconds d ≤ 1 / 100) = 1 := by decide +kernel
  have hnear : (mixedRequests.countP fun d => seconds d < 2 * (1 / 100) ∨ 25 ≤ unclampedSlot d)
      = 3 := by decide +kernel
  rcases bucket_complete_within_factor_two mixedRequests [1 / 10, 1 / 100, 1] (1 / 100)
    (List.mem_cons_of_mem _ List.mem_cons_self) (by norm_num) (by decide)
    with ⟨hlow, hhigh, heach⟩
  rw [hfast] at hlow
  rw [hnear] at hhigh
  have h3 := heach [16000000] 3000000 [40000000, 100000000000] rfl
  have h40 := heach [16000000, 3000000] 40000000 [100000000000] rfl
  refine ⟨hfast, hlow, by decide +kernel, hhigh, hnear, h3.2.1 (by decide +kernel), h40.2.2 ?_ ?_⟩
  · decide +kernel
  · decide +kernel

end Ebpf

end LatencyExporter
