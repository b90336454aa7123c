import LatencyExporter.Core.Bpf.Common
import Mathlib.Data.Nat.Log

/-!
# The Integer Logarithm and the Slot of a Latency

`log2` halves the range of its argument four times, each time shifting when
the upper half is occupied and collecting the shift in the result by a bitwise
or. `narrow_stage` is one such halving. The shifts are distinct powers of two,
so the or is a sum, and the sum of the shifts is the position of the highest
set bit.

`latencySlot_val` is what the rest of the development uses: the slot of a
non-negative difference is the floor of the logarithm of its microseconds,
cut off at the last slot. The range restriction is the range of `__s64`.

## Main definitions

* `slotIndex`: The slot of a latency in closed form.

## Theorems

* `narrow_stage`: One halving keeps the value positive and below the limit.
* `or_stages`: Shifts by different powers of two add up.
* `log2_bracket`: `log2` brackets its argument between powers of two.
* `log2l_bracket`: The same for `log2l`.
* `log2l_toNat`: `log2l` is the floor of the logarithm.
* `log2l_floor_monotone`: The floor by its bounds, and that it never decreases.
* `latencyUs_toNat`: The microseconds of a non-negative difference.
* `log2l_latencyUs`: The slot before it is cut off.
* `latencySlot_val`: The slot of a non-negative difference.
* `slotIndex_lower`: A latency reaches the lower edge of its slot.
* `slotIndex_upper`: Below the last slot, it stays under the upper edge.
-/

namespace LatencyExporter

namespace Bpf

/-- One halving of the cascade: a positive value below `2 ^ (2 * K)` is
    shifted by `K` when it exceeds the limit, and ends up below `2 ^ K`. -/
theorem narrow_stage (v lim k : UInt32) (K : Nat) (hK : K < 32)
    (hk : ((1 : UInt32) <<< k).toNat = K) (hlim : lim.toNat + 1 = 2 ^ K)
    (hpos : 0 < v.toNat) (hlt : v.toNat < 2 ^ (2 * K)) :
    ∃ s, (truth (v > lim) <<< k).toNat = s ∧ (s = 0 ∨ s = K) ∧
      0 < (v >>> (truth (v > lim) <<< k)).toNat ∧
      (v >>> (truth (v > lim) <<< k)).toNat < 2 ^ K ∧
      (v >>> (truth (v > lim) <<< k)).toNat = v.toNat / 2 ^ s := by
  have hgt : v > lim ↔ 2 ^ K ≤ v.toNat := by
    rw [gt_iff_lt, UInt32.lt_iff_toNat_lt]
    omega
  by_cases h : v > lim
  · -- The upper half has a bit: drop the lower half.
    have hs : (truth (v > lim) <<< k).toNat = K := by
      simp only [truth, h, decide_true, if_true, hk]
    refine ⟨K, hs, Or.inr rfl, ?_⟩
    rw [UInt32.toNat_shiftRight, hs, Nat.mod_eq_of_lt hK, Nat.shiftRight_eq_div_pow]
    rw [hgt] at h
    refine ⟨Nat.div_pos h (Nat.two_pow_pos K), ?_, rfl⟩
    rw [Nat.div_lt_iff_lt_mul (Nat.two_pow_pos K), ← Nat.pow_add, ← Nat.two_mul]
    exact hlt
  · -- The value fits the lower half and stays as it is.
    have hs : truth (v > lim) <<< k = 0 := by
      simp only [truth, h, decide_false, Bool.false_eq_true, if_false, UInt32.zero_shiftLeft]
    refine ⟨0, by rw [hs]; rfl, Or.inl rfl, ?_⟩
    rw [hgt] at h
    rw [hs, UInt32.shiftRight_zero, Nat.pow_zero, Nat.div_one]
    exact ⟨hpos, by omega, rfl⟩

/-- The four shifts and the final bit occupy different bits, so collecting
    them by a bitwise or is adding them. -/
theorem or_stages (a b c d e : Nat) (ha : a = 0 ∨ a = 16) (hb : b = 0 ∨ b = 8)
    (hc : c = 0 ∨ c = 4) (hd : d = 0 ∨ d = 2) (he : e = 0 ∨ e = 1) :
    a ||| b ||| c ||| d ||| e = a + b + c + d + e := by
  rcases ha with rfl | rfl <;> rcases hb with rfl | rfl <;> rcases hc with rfl | rfl <;>
    rcases hd with rfl | rfl <;> rcases he with rfl | rfl <;> rfl

theorem log2_bracket (v : UInt32) (hpos : 0 < v.toNat) :
    2 ^ (log2 v).toNat ≤ v.toNat ∧ v.toNat < 2 ^ ((log2 v).toNat + 1) := by
  have hv : v.toNat < 2 ^ (2 * 16) := v.toNat_lt
  rcases narrow_stage v 0xFFFF 4 16 (by decide) (by decide) (by decide) hpos hv with
    ⟨a, hsa, ha, hpa, hla, hva⟩
  rcases narrow_stage _ 0xFF 3 8 (by decide) (by decide) (by decide) hpa hla with
    ⟨b, hsb, hb, hpb, hlb, hvb⟩
  rcases narrow_stage _ 0xF 2 4 (by decide) (by decide) (by decide) hpb hlb with
    ⟨c, hsc, hc, hpc, hlc, hvc⟩
  rcases narrow_stage _ 0x3 1 2 (by decide) (by decide) (by decide) hpc hlc with
    ⟨d, hsd, hd, hpd, hld, hvd⟩
  -- What is left after the four shifts is one, two or three.
  set w := v >>> (truth (v > 0xFFFF) <<< 4)
  set x := w >>> (truth (w > 0xFF) <<< 3)
  set y := x >>> (truth (x > 0xF) <<< 2)
  set z := y >>> (truth (y > 0x3) <<< 1)
  have hz1 : (z >>> 1).toNat = z.toNat / 2 := by
    rw [UInt32.toNat_shiftRight, Nat.shiftRight_eq_div_pow]
    rfl
  have hr : (log2 v).toNat = a + b + c + d + z.toNat / 2 := by
    have hdef : log2 v = (truth (v > 0xFFFF) <<< 4 ||| truth (w > 0xFF) <<< 3 |||
        truth (x > 0xF) <<< 2 ||| truth (y > 0x3) <<< 1 ||| (z >>> 1)).toUInt64 := rfl
    rw [hdef, UInt32.toNat_toUInt64]
    simp only [UInt32.toNat_or, hsa, hsb, hsc, hsd, hz1]
    exact or_stages a b c d _ ha hb hc hd (by omega)
  have hquot : z.toNat = v.toNat / 2 ^ (a + b + c + d) := by
    rw [hvd, hvc, hvb, hva, Nat.div_div_eq_div_mul, Nat.div_div_eq_div_mul,
      Nat.div_div_eq_div_mul, Nat.pow_add, Nat.pow_add, Nat.pow_add, Nat.mul_assoc, Nat.mul_assoc]
  -- The quotient pins the argument between consecutive multiples of a power.
  have hlow : 2 ^ (a + b + c + d) * z.toNat ≤ v.toNat := by
    rw [hquot]
    exact Nat.mul_div_le _ _
  have hhigh : v.toNat < 2 ^ (a + b + c + d) * (z.toNat + 1) := by
    rw [hquot]
    exact Nat.lt_mul_div_succ _ (Nat.two_pow_pos _)
  rw [hr]
  have hcase : z.toNat = 1 ∨ z.toNat = 2 ∨ z.toNat = 3 := by omega
  rcases hcase with hz | hz | hz <;> rw [hz] at hlow hhigh ⊢ <;>
    simp only [Nat.pow_add, Nat.pow_one, Nat.reduceDiv, Nat.pow_zero] at hlow hhigh ⊢ <;>
    omega

theorem log2l_bracket (v : UInt64) (hpos : 0 < v.toNat) :
    2 ^ (log2l v).toNat ≤ v.toNat ∧ v.toNat < 2 ^ ((log2l v).toNat + 1) := by
  have hhi : (v >>> 32).toUInt32.toNat = v.toNat / 2 ^ 32 := by
    have hlt := v.toNat_lt
    rw [UInt64.toNat_toUInt32, UInt64.toNat_shiftRight, Nat.shiftRight_eq_div_pow]
    change v.toNat / 2 ^ 32 % 2 ^ 32 = _
    omega
  by_cases h : (v >>> 32).toUInt32 = 0
  · -- The value fits into 32 bits.
    have hz : v.toNat / 2 ^ 32 = 0 := by
      rw [← hhi, h]
      rfl
    have hlow : v.toUInt32.toNat = v.toNat := by
      rw [UInt64.toNat_toUInt32]
      omega
    have hdef : log2l v = log2 v.toUInt32 := by
      simp only [log2l, h, ne_eq, not_true_eq_false, if_false]
    rw [hdef, ← hlow]
    exact log2_bracket _ (by omega)
  · have hne : (v >>> 32).toUInt32.toNat ≠ 0 := fun hc => h (UInt32.toNat_inj.mp hc)
    rcases log2_bracket (v >>> 32).toUInt32 (by omega) with ⟨hlo, hup⟩
    rw [hhi] at hlo hup
    -- The high word has 32 bits, so adding 32 to its logarithm cannot wrap.
    have hr : (log2 (v >>> 32).toUInt32).toNat < 32 := by
      by_contra hc
      have hbig : 2 ^ 32 ≤ 2 ^ (log2 (v >>> 32).toUInt32).toNat :=
        Nat.pow_le_pow_right (by decide) (by omega)
      have hlt := v.toNat_lt
      omega
    have hdef : (log2l v).toNat = (log2 (v >>> 32).toUInt32).toNat + 32 := by
      simp only [log2l, h, ne_eq, not_false_eq_true, if_true]
      rw [UInt64.toNat_add]
      change (_ + 32) % 2 ^ 64 = _
      omega
    rw [hdef]
    simp only [Nat.pow_add, Nat.pow_one] at hup ⊢
    omega

theorem log2l_toNat (v : UInt64) (hpos : 0 < v.toNat) :
    (log2l v).toNat = Nat.log 2 v.toNat := by
  rcases log2l_bracket v hpos with ⟨hlo, hup⟩
  exact ((Nat.log_eq_iff (Or.inr ⟨by decide, by omega⟩)).mpr ⟨hlo, hup⟩).symm

/-- `log2l` is the floor of the logarithm to base two of every 64-bit value but
    zero, and so it never decreases. -/
theorem log2l_floor_monotone (v : UInt64) (hv : 1 ≤ v) :
    2 ^ (log2l v).toNat ≤ v.toNat ∧ v.toNat < 2 ^ ((log2l v).toNat + 1) ∧
      (log2l v).toNat ≤ 63 ∧ ∀ w : UInt64, v ≤ w → log2l v ≤ log2l w := by
  have hpos : 0 < v.toNat := UInt64.le_iff_toNat_le.mp hv
  rcases log2l_bracket v hpos with ⟨hlo, hup⟩
  have hlog := log2l_toNat v hpos
  refine ⟨hlo, hup, ?_, fun w hvw => ?_⟩
  · have hlt : Nat.log 2 v.toNat < 64 := Nat.log_lt_of_lt_pow hpos.ne' v.toNat_lt
    omega
  · have hle : v.toNat ≤ w.toNat := UInt64.le_iff_toNat_le.mp hvw
    rw [UInt64.le_iff_toNat_le, hlog, log2l_toNat w (lt_of_lt_of_le hpos hle)]
    exact Nat.log_mono_right hle

/-- The largest value below `2 ^ 32` and the one above it, in different words. -/
theorem log2l_floor_monotone_word :
    (log2l 0xffffffff).toNat ≤ 63 ∧ log2l 0xffffffff ≤ log2l 0x100000000 :=
  ⟨(log2l_floor_monotone 0xffffffff (by decide)).2.2.1,
    (log2l_floor_monotone 0xffffffff (by decide)).2.2.2 0x100000000 (by decide)⟩

/-- The slot of a latency in closed form. -/
def slotIndex (d : Nat) : Nat := min 25 (Nat.log 2 (max 1 (d / 1000)))

theorem latencyUs_toNat (d : Nat) : latencyUs (d : Int) = ((max 1 (d / 1000) : Nat) : Int) := by
  have htdiv : (d : Int).tdiv 1000 = ((d / 1000 : Nat) : Int) := by
    rw [Int.tdiv_eq_ediv_of_nonneg (by omega)]
    omega
  simp only [latencyUs, htdiv]
  split <;> omega

/-- The logarithm the handlers take, before it is cut off. -/
theorem log2l_latencyUs (d : Nat) (hd : d < 2 ^ 63) :
    (log2l (UInt64.ofInt (latencyUs (d : Int)))).toNat = Nat.log 2 (max 1 (d / 1000)) := by
  have harg : (UInt64.ofInt (latencyUs (d : Int))).toNat = max 1 (d / 1000) := by
    rw [latencyUs_toNat, UInt64.ofInt, UInt64.toNat_ofNat']
    omega
  rw [log2l_toNat _ (by omega), harg]

theorem latencySlot_val (d : Nat) (hd : d < 2 ^ 63) :
    (latencySlot (d : Int)).val = slotIndex d := by
  have hlog := log2l_latencyUs d hd
  unfold latencySlot clampSlot slotIndex
  split
  · next h =>
      rw [hlog] at h
      simp only [hlog, maxSlots] at h ⊢
      omega
  · next h =>
      rw [hlog] at h
      simp only [maxSlots] at h ⊢
      omega

/-- A latency reaches the lower edge of its slot, once it is a microsecond. -/
theorem slotIndex_lower (d : Nat) : 2 ^ slotIndex d ≤ max 1 (d / 1000) := by
  have hle : slotIndex d ≤ Nat.log 2 (max 1 (d / 1000)) := Nat.min_le_right _ _
  exact le_trans (Nat.pow_le_pow_right (by decide) hle) (Nat.pow_log_le_self 2 (by omega))

/-- Below the last slot a latency stays under the upper edge of its slot. -/
theorem slotIndex_upper (d : Nat) (h : Nat.log 2 (max 1 (d / 1000)) < 25) :
    d < 1000 * 2 ^ (slotIndex d + 1) := by
  have heq : slotIndex d = Nat.log 2 (max 1 (d / 1000)) := by
    unfold slotIndex
    omega
  have hlt : max 1 (d / 1000) < 2 ^ (slotIndex d + 1) := by
    rw [heq]
    exact Nat.lt_pow_succ_log_self (by decide) _
  omega

end Bpf

end LatencyExporter
