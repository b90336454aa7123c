import LatencyExporter.Core.Config
import Mathlib.Tactic.Linarith
import Mathlib.Tactic.NormNum

/-!
# The Two Readings of the Boundaries

One option says where the buckets of all histograms end. The QMP collector hands
its integers to QEMU, which wants them in ascending order; the eBPF collector
uses its numbers as seconds. Both skip what they cannot read, and only the
second sorts.

The two agree if the option is what it looks like it should be: integers in
ascending order. They agree in no other case (`boundariesAgree_iff`): a
descending or repeated integer reaches QEMU as it is, and a part that only the
second parser reads, such as `1e7` or `inf`, is a bucket in one place and not in
the other.

## Main definitions

* `BoundariesAgree`: What the two parsers should make of the option.
* `Ascending`, `IntegersOnly`: What the option has to be for that.
* `readSeconds`: What the second parser makes of a part.

## Theorems

* `readSeconds_of_integersOnly`: The second parser on integers.
* `length_lt_of_not_integersOnly`: And on anything else.
* `boundariesAgree_iff`: When the two agree.
-/

namespace LatencyExporter

namespace Settings

/-- If the first parser reads anything, it is in strictly ascending order, and
    the second reads the same in seconds. -/
def BoundariesAgree (parser : FloatParser) (s : List Char) : Prop :=
  parseBoundariesNs s ≠ [] →
    (parseBoundariesNs s).Pairwise (· < ·) ∧
    parseBoundariesSeconds parser s
      = (parseBoundariesNs s).map fun ns => .finite ((ns : ℚ) / 10 ^ 9)

/-- The integers among the parts ascend. -/
def Ascending (s : List Char) : Prop :=
  (s.splitOn ',').Pairwise fun p q => ∀ m, parseInt decimal 64 (trimSpace p) = some m →
    ∀ n, parseInt decimal 64 (trimSpace q) = some n → m < n

/-- No part is read by the second parser only. -/
def IntegersOnly (parser : FloatParser) (s : List Char) : Prop :=
  ∀ p ∈ s.splitOn ',', trimSpace p ≠ [] → (parser.parse (trimSpace p)).isSome →
    (parseInt decimal 64 (trimSpace p)).isSome

/-- What the second parser makes of a part. -/
def readSeconds (parser : FloatParser) (p : List Char) : Option Float64 :=
  if trimSpace p = [] then none
  else (parser.parse (trimSpace p)).map fun ns => ns.div (10 ^ 9)

theorem parseBoundariesSeconds_eq (parser : FloatParser) (s : List Char) :
    parseBoundariesSeconds parser s
      = ((s.splitOn ',').filterMap (readSeconds parser)).mergeSort Float64.le := rfl

/-- What the first parser reads, the second reads too. -/
theorem readSeconds_of_parseInt (parser : FloatParser) (p : List Char) (n : Int)
    (hn : parseInt decimal 64 (trimSpace p) = some n) :
    readSeconds parser p = some (.finite ((n : ℚ) / 10 ^ 9)) := by
  have hne : trimSpace p ≠ [] := by
    intro hc
    have hnone : parseInt decimal 64 [] = none := rfl
    rw [hc, hnone] at hn
    exact absurd hn (by simp only [reduceCtorEq, not_false_eq_true])
  rw [readSeconds, if_neg hne, parser.parse_int _ n hn, Option.map_some, Float64.div]

theorem readSeconds_of_integersOnly (parser : FloatParser) (s : List Char)
    (honly : IntegersOnly parser s) :
    (s.splitOn ',').filterMap (readSeconds parser)
      = (parseBoundariesNs s).map fun ns => .finite ((ns : ℚ) / 10 ^ 9) := by
  rw [parseBoundariesNs, List.map_filterMap]
  refine List.filterMap_congr fun p hp => ?_
  cases hn : parseInt decimal 64 (trimSpace p) with
  | some n => exact readSeconds_of_parseInt parser p n hn
  | none =>
      -- Not an integer, so it is empty or no number at all.
      rw [Option.map_none, readSeconds]
      by_cases hempty : trimSpace p = []
      · rw [if_pos hempty]
      · rw [if_neg hempty, Option.map_eq_none_iff, ← Option.not_isSome_iff_eq_none]
        intro hsome
        have hint := honly p hp hempty hsome
        rw [hn] at hint
        exact absurd hint Bool.false_ne_true

/-- A part that only the second parser reads makes its result longer. -/
theorem length_lt_of_not_integersOnly (parser : FloatParser) (s : List Char)
    (honly : ¬ IntegersOnly parser s) :
    (parseBoundariesNs s).length < (parseBoundariesSeconds parser s).length := by
  simp only [IntegersOnly, not_forall] at honly
  rcases honly with ⟨p, hp, hne, hsome, hint⟩
  have hread : (readSeconds parser p).isSome := by
    rw [readSeconds, if_neg hne, Option.isSome_map]
    exact hsome
  -- The second parser reads at least as many parts as the first.
  have hmono : ∀ l : List (List Char),
      (l.countP fun p => (parseInt decimal 64 (trimSpace p)).isSome)
        ≤ l.countP fun p => (readSeconds parser p).isSome := by
    intro l
    refine List.countP_mono_left fun q _ hq => ?_
    rcases Option.isSome_iff_exists.mp hq with ⟨n, hn⟩
    rw [readSeconds_of_parseInt parser q n hn, Option.isSome_some]
  rw [parseBoundariesSeconds_eq, List.length_mergeSort, parseBoundariesNs,
    List.length_filterMap_eq_countP, List.length_filterMap_eq_countP]
  rcases List.append_of_mem hp with ⟨before, after, hsplit⟩
  rw [hsplit, List.countP_append, List.countP_append, List.countP_cons, List.countP_cons,
    if_neg hint, if_pos hread]
  have hbefore := hmono before
  have hafter := hmono after
  omega

theorem ascending_iff (s : List Char) : (parseBoundariesNs s).Pairwise (· < ·) ↔ Ascending s := by
  rw [parseBoundariesNs, List.pairwise_filterMap]
  rfl

/-- If it has an integer at all, the two parsers agree on the option exactly if
    its integers ascend and it has no other numbers. -/
theorem boundariesAgree_iff (parser : FloatParser) (s : List Char) :
    BoundariesAgree parser s ↔
      (parseBoundariesNs s ≠ [] → Ascending s ∧ IntegersOnly parser s) := by
  refine imp_congr_right fun _ => ?_
  rw [ascending_iff]
  refine and_congr_right fun hasc => ⟨fun heq => ?_, fun honly => ?_⟩
  · -- Another number would make the lists differ in length.
    by_contra honly
    have hlt := length_lt_of_not_integersOnly parser s honly
    rw [heq, List.length_map] at hlt
    exact absurd hlt (lt_irrefl _)
  · rw [parseBoundariesSeconds_eq, readSeconds_of_integersOnly parser s honly]
    -- Sorting what ascends already changes nothing.
    refine List.mergeSort_of_pairwise (List.pairwise_map.mpr ?_)
    refine ((ascending_iff s).mpr hasc).imp fun {m n} hlt => ?_
    have hcast : (m : ℚ) ≤ n := by exact_mod_cast hlt.le
    simp only [Float64.le, decide_eq_true_eq]
    linarith

/-- A parser that reads nothing but integers. -/
def integerParser : FloatParser where
  parse s := (parseInt decimal 64 s).map fun n : Int => .finite n
  parse_int s n hn := by rw [hn, Option.map_some]

/-- Descending boundaries reach QEMU in the order in which they are given. -/
theorem descending_boundaries : ¬ BoundariesAgree integerParser "20000000,10000000".toList := by
  intro h
  have hns : parseBoundariesNs "20000000,10000000".toList = [20000000, 10000000] := by decide
  have hasc := (h (by rw [hns]; decide)).1
  rw [hns] at hasc
  exact absurd hasc (by decide)

end Settings

end LatencyExporter
