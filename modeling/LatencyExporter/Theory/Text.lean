import LatencyExporter.Core.Strings
import Mathlib.Data.List.TakeDrop

/-!
# Numbers and Words in Texts

What is printed in decimal is read back as the number it was, and a line of
words is taken apart into the words. Both are about the functions of
`Core.Strings` alone, and are what the round trips of the formats rest on.

Splitting goes by white space, of any kind and any amount. `fields_append` says
how it works: a white space ends what is before it, and both sides are split on
their own. A text on a line need not be a word then. It contributes its own
words, be they none, one or several.

## Main definitions

* `latinSpace`: The white space of Latin-1.
* `Word`: A text that is not empty and has no white space.
* `FitsInt`: The range of an `int`.

## Theorems

* `isSpace_cases`, `isSpace_of_isDigit`: Digits are not white space.
* `decimal_toDigits`, `parseUint_toDigits`, `atoi_repr`: Printed numbers are read
  as they were.
* `repr_injective`: Printed numbers tell numbers apart.
* `fields_append`, `fields_intercalate`: Words of a line.
* `fields_word`: A word is one word.
* `splitN2_append`: A text with a separator.
-/

namespace LatencyExporter

/-- The white space of Latin-1. -/
def latinSpace : List Char := ['\t', '\n', '\x0b', '\x0c', '\r', ' ', '\u0085', '\u00a0']

/-- The white space of other scripts is beyond Latin-1. -/
theorem isSpace_cases (c : Char) (hc : isSpace c = true) : c ∈ latinSpace ∨ 256 ≤ c.toNat := by
  have hlist : (latinSpace ++ ['\u1680', '\u2028', '\u2029', '\u202f', '\u205f', '\u3000']).all
      (fun c => c ∈ latinSpace ∨ 256 ≤ c.toNat) = true := by decide
  rw [isSpace, Bool.or_eq_true, decide_eq_true_iff, Bool.and_eq_true, decide_eq_true_iff] at hc
  rcases hc with hc | ⟨hle, _⟩
  · exact decide_eq_true_iff.mp (List.all_eq_true.mp hlist c hc)
  · have hval : ('\u2000').toNat ≤ c.toNat := UInt32.le_iff_toNat_le.mp hle
    exact Or.inr (le_trans (by decide) hval)

/-- A digit is not white space. -/
theorem isSpace_of_isDigit (c : Char) (hc : c.isDigit = true) : isSpace c = false := by
  by_contra hspace
  have hlist : latinSpace.all (fun c => !c.isDigit) = true := by decide
  rcases isSpace_cases c (Bool.not_eq_false _ ▸ hspace) with hmem | hle
  · have hdigit := List.all_eq_true.mp hlist c hmem
    rw [hc] at hdigit
    exact absurd hdigit Bool.false_ne_true
  · rw [Char.isDigit, Bool.and_eq_true, decide_eq_true_iff, decide_eq_true_iff] at hc
    have hnine : c.toNat ≤ ('9').toNat := UInt32.le_iff_toNat_le.mp hc.2
    exact absurd (le_trans hle hnine) (by decide)

theorem isDigit_of_mem_toDigits (n : Nat) (c : Char) (hc : c ∈ Nat.toDigits 10 n) :
    c.isDigit = true := Nat.isDigit_of_mem_toDigits (by omega) (by omega) hc

/-- Digits are read as the number they were printed from. -/
theorem decimal_toDigits (n : Nat) : decimal (Nat.toDigits 10 n) = some n := by
  have hall : (Nat.toDigits 10 n).all Char.isDigit = true :=
    List.all_eq_true.mpr fun c hc => isDigit_of_mem_toDigits n c hc
  have hvalue : Nat.ofDigitChars 10 (Nat.toDigits 10 n) 0 = n :=
    Nat.ofDigitChars_toDigits (by omega) (by omega)
  rw [decimal, if_pos ⟨Nat.toDigits_ne_nil, hall⟩, Option.some.injEq]
  exact hvalue

/-- Numbers that are printed alike are the same. -/
theorem repr_injective : Function.Injective Nat.repr := by
  intro n n' heq
  have hlist := congrArg String.toList heq
  rw [Nat.toList_repr, Nat.toList_repr] at hlist
  rw [← Option.some.injEq, ← decimal_toDigits n, hlist, decimal_toDigits]

/-- So is a number that fits. -/
theorem parseUint_toDigits (bits n : Nat) (hn : n < 2 ^ bits) :
    parseUint bits (Nat.toDigits 10 n) = some n := by
  rw [parseUint, decimal_toDigits, Option.filter_some_pos (by simpa using hn)]

/-- The range of an `int` of 64 bits. -/
def FitsInt (z : Int) : Prop := -((2 ^ 63 : Nat) : Int) ≤ z ∧ z < ((2 ^ 63 : Nat) : Int)

instance (z : Int) : Decidable (FitsInt z) := instDecidableAnd

/-- And an integer, with its sign. -/
theorem atoi_repr (z : Int) (hz : FitsInt z) : atoi z.repr.toList = some z := by
  rcases hz with ⟨hlow, hhigh⟩
  rw [Int.repr_eq_if]
  split
  · next hpos =>
      have hdigits := isDigit_of_mem_toDigits z.toNat
      rw [Nat.toList_repr, atoi]
      · rw [decimal_toDigits, Option.bind_some, if_pos (by omega), Option.some.injEq]
        omega
      -- What is not negative starts with a digit and not with a sign.
      · intro rest heq
        rw [heq] at hdigits
        exact absurd (hdigits '-' List.mem_cons_self) (by decide)
      · intro rest heq
        rw [heq] at hdigits
        exact absurd (hdigits '+' List.mem_cons_self) (by decide)
  · next hneg =>
      -- The sign is read first.
      rw [String.toList_append, Nat.toList_repr]
      change (decimal (Nat.toDigits 10 (-z).toNat)).bind _ = _
      rw [decimal_toDigits, Option.bind_some, if_pos (by omega), Option.some.injEq]
      omega

/-- A text that is not empty and has no white space. -/
def Word (s : List Char) : Prop := s ≠ [] ∧ ∀ c ∈ s, isSpace c = false

instance (s : List Char) : Decidable (Word s) :=
  @instDecidableAnd _ _ inferInstance (List.decidableBAll _ s)

theorem word_toDigits (n : Nat) : Word (Nat.toDigits 10 n) :=
  ⟨Nat.toDigits_ne_nil, fun c hc => isSpace_of_isDigit c (isDigit_of_mem_toDigits n c hc)⟩

/-- Two words with a character between them that is no white space. -/
theorem Word.append_cons {s t : List Char} (hs : Word s) {c : Char} (hc : isSpace c = false)
    (ht : Word t) : Word (s ++ c :: t) := by
  refine ⟨List.append_ne_nil_of_left_ne_nil hs.1 _, fun d hd => ?_⟩
  rcases List.mem_append.mp hd with hd | hd
  · exact hs.2 d hd
  · rcases List.mem_cons.mp hd with rfl | hd
    · exact hc
    · exact ht.2 d hd

/-- A printed integer is a word. -/
theorem word_repr (z : Int) : Word z.repr.toList := by
  rw [Int.repr_eq_if]
  split
  · rw [Nat.toList_repr]
    exact word_toDigits _
  · rw [String.toList_append, Nat.toList_repr]
    refine ⟨List.append_ne_nil_of_right_ne_nil _ Nat.toDigits_ne_nil, fun c hc => ?_⟩
    rcases List.mem_append.mp hc with hc | hc
    · rw [List.mem_singleton.mp hc]
      decide
    · exact (word_toDigits _).2 c hc

/-- A word is one word. -/
theorem fields_word {s : List Char} (hs : Word s) : fields s = [s] := by
  rw [fields, List.splitOnP_eq_singleton hs.2, List.filter_singleton, decide_eq_true hs.1]
  rfl

/-- A white space ends what is before it. -/
theorem fields_append (s t : List Char) (c : Char) (hc : isSpace c = true) :
    fields (s ++ c :: t) = fields s ++ fields t := by
  rw [fields, List.splitOnP_append_cons s t hc, List.filter_append]
  rfl

/-- The words of texts put on one line. -/
theorem fields_intercalate (texts : List (List Char)) :
    fields ([' '].intercalate texts) = texts.flatMap fields := by
  induction texts with
  | nil => rfl
  | cons s texts ih =>
      cases texts with
      | nil => rw [List.intercalate_singleton, List.flatMap_singleton]
      | cons t texts =>
          rw [List.intercalate_cons_cons, List.append_assoc, List.singleton_append,
            fields_append s _ ' ' (by decide), ih]
          rfl

/-- Words are their own words. -/
theorem flatMap_fields_words (words : List (List Char)) (hwords : ∀ s ∈ words, Word s) :
    words.flatMap fields = words := by
  induction words with
  | nil => rfl
  | cons s words ih =>
      rw [List.forall_mem_cons] at hwords
      rw [List.flatMap_cons, fields_word hwords.1, ih hwords.2, List.singleton_append]

/-- A text is split at the first separator. -/
theorem splitN2_append (sep : Char) (s t : List Char) (hs : sep ∉ s) :
    splitN2 sep (s ++ sep :: t) = [s, t] := by
  have hbefore : ∀ c ∈ s, decide (c ≠ sep) = true := fun c hc =>
    decide_eq_true fun heq => hs (heq ▸ hc)
  have hspan : (s ++ sep :: t).span (· ≠ sep) = (s, sep :: t) := by
    rw [List.span_eq_takeWhile_dropWhile, List.takeWhile_append_of_pos hbefore,
      List.dropWhile_append_of_pos hbefore, List.takeWhile_cons_of_neg (by simp),
      List.dropWhile_cons_of_neg (by simp), List.append_nil]
  rw [splitN2, hspan]

end LatencyExporter
