import LatencyExporter.Lib.Json
import Mathlib.Data.List.Basic

/-!
# Writing JSON

A writer of JSON texts without blanks, as Go's `encoding/json` has one. Besides
the characters that have to be escaped it escapes those that mean something in
a web page, and the two line separators that are none in JSON.

What is written is read back (`parse_marshal`), whatever characters the strings
have: no string can end early or stand for another one.

## Main definitions

* `itemOf`, `itemChars`: How a character of a string is written.
* `numberChars`, `marshal`: The writer.

## Theorems

* `decodeItems_map`: Strings without surrogates.
* `spells_marshal`, `written_marshal`: What is written is a spelling.
* `parse_marshal`: What is written is read back.
-/

namespace Json

section Strings

/-- Whether a character is written as its number. -/
def isNumbered (c : Char) : Bool :=
  (c.toNat < 0x20 && !(c ∈ ['\x08', '\x0c', '\n', '\r', '\t'])) ||
    c ∈ ['<', '>', '&', '\u2028', '\u2029']

/-- How a character of a string is written. -/
def itemOf (c : Char) : Item := if isNumbered c then .unit c.toNat else .char c

/-- A hexadecimal digit, in lower case. -/
def hexChar (n : Nat) : Char := n.digitChar

/-- The letter for a character that has one. -/
def shortLetter : Char → Option Char
  | '"' => some '"'
  | '\\' => some '\\'
  | '\x08' => some 'b'
  | '\x0c' => some 'f'
  | '\n' => some 'n'
  | '\r' => some 'r'
  | '\t' => some 't'
  | _ => none

/-- The characters of an item. -/
def itemChars : Item → List Char
  | .char c => match shortLetter c with
      | some e => ['\\', e]
      | none => [c]
  | .unit n =>
      ['\\', 'u', hexChar (n / 4096 % 16), hexChar (n / 256 % 16), hexChar (n / 16 % 16),
        hexChar (n % 16)]

/-- A string without its quotes. -/
def escape (s : List Char) : List Char := s.flatMap fun c => itemChars (itemOf c)

/-- Hexadecimal digits are read back. -/
theorem hexDigit_hexChar (n : Nat) (hn : n < 16) : hexDigit (hexChar n) = some n := by
  have hall : ∀ n < 16, hexDigit (hexChar n) = some n := by decide
  exact hall n hn

/-- Four digits are enough for a code unit. -/
theorem itemText_unit (n : Nat) (hn : n < 65536) : ItemText (.unit n) (itemChars (.unit n)) := by
  have hvalue : n = 16 * (16 * (16 * (n / 4096 % 16) + n / 256 % 16) + n / 16 % 16) + n % 16 := by
    omega
  have htext := ItemText.unit _ _ _ _ _ _ _ _ (hexDigit_hexChar (n / 4096 % 16) (by omega))
    (hexDigit_hexChar (n / 256 % 16) (by omega)) (hexDigit_hexChar (n / 16 % 16) (by omega))
    (hexDigit_hexChar (n % 16) (by omega))
  rw [← hvalue] at htext
  exact htext

/-- A character is written as it is or with its letter. -/
theorem itemText_char (c : Char) (hc : isNumbered c = false) :
    ItemText (.char c) (itemChars (.char c)) := by
  cases hletter : shortLetter c with
  | some e =>
      have hchars : itemChars (.char c) = ['\\', e] := by simp only [itemChars, hletter]
      rw [hchars]
      refine .short e c ?_
      unfold shortLetter at hletter
      split at hletter <;> first
        | (rw [← Option.some.inj hletter]; rfl)
        | exact absurd hletter (by simp only [reduceCtorEq, not_false_eq_true])
  | none =>
      have hchars : itemChars (.char c) = [c] := by simp only [itemChars, hletter]
      rw [hchars]
      -- A control character without a letter is written as its number.
      have hne : ∀ e ∈ ['"', '\\', '\x08', '\x0c', '\n', '\r', '\t'], c ≠ e := by
        intro e he hce
        rw [hce] at hletter
        revert hletter
        revert he
        simp only [List.mem_cons, List.not_mem_nil, or_false]
        rintro (rfl | rfl | rfl | rfl | rfl | rfl | rfl) <;> decide
      refine .plain c ?_ (hne _ (by decide)) (hne _ (by decide))
      by_contra hlow
      have hlow : c.toNat < 0x20 := by omega
      have hnot : c ∉ ['\x08', '\x0c', '\n', '\r', '\t'] := by
        intro hmem
        exact hne c (List.mem_cons_of_mem _ (List.mem_cons_of_mem _ hmem)) rfl
      simp only [isNumbered, hlow, hnot, decide_true, decide_false, Bool.not_false, Bool.and_self,
        Bool.true_or, Bool.true_eq_false] at hc

/-- Characters that are written as numbers are no surrogates. -/
theorem isNumbered_lt {c : Char} (hc : isNumbered c = true) :
    c.toNat < 0xd800 := by
  rw [isNumbered, Bool.or_eq_true, Bool.and_eq_true, decide_eq_true_eq, decide_eq_true_eq] at hc
  rcases hc with ⟨hlow, _⟩ | hmem
  · omega
  · revert hmem
    simp only [List.mem_cons, List.not_mem_nil, or_false]
    rintro (rfl | rfl | rfl | rfl | rfl) <;> decide

/-- Every character is written as an item. -/
theorem itemText_itemOf (c : Char) : ItemText (itemOf c) (itemChars (itemOf c)) := by
  unfold itemOf
  by_cases hc : isNumbered c = true
  · rw [if_pos hc]
    have hlt := isNumbered_lt hc
    exact itemText_unit _ (by omega)
  · rw [if_neg hc]
    exact itemText_char c (Bool.not_eq_true _ ▸ hc)

/-- A string is written item by item. -/
theorem itemsText_escape (s : List Char) : ItemsText (s.map itemOf) (escape s) := by
  induction s with
  | nil => exact .nil
  | cons c s ih => exact .cons (itemText_itemOf c) ih

/-- Reading the items back, one at a time. -/
theorem decodeItems_cons (c : Char) (items : List Item) :
    decodeItems (itemOf c :: items) = c :: decodeItems items := by
  unfold itemOf
  by_cases hc : isNumbered c = true
  · rw [if_pos hc]
    have hlt := isNumbered_lt hc
    have hhigh : isHigh c.toNat = false := by
      simp only [isHigh, Bool.and_eq_false_iff, decide_eq_false_iff_not]
      omega
    have hlow : isLow c.toNat = false := by
      simp only [isLow, Bool.and_eq_false_iff, decide_eq_false_iff_not]
      omega
    -- Two units could be a pair, but this one is no half of a pair.
    cases items with
    | nil => simp [decodeItems, hhigh, hlow]
    | cons item items => cases item <;> simp [decodeItems, hhigh, hlow]
  · rw [if_neg hc]
    simp only [decodeItems]

/-- A string is read back. -/
theorem decodeItems_map (s : List Char) : decodeItems (s.map itemOf) = s := by
  induction s with
  | nil => rfl
  | cons c s ih => rw [List.map_cons, decodeItems_cons, ih]

end Strings

section Numbers

/-- The characters of an exponent. -/
def exponentChars : Option Int → List Char
  | none => []
  | some k => 'e' :: ((if k < 0 then ['-'] else []) ++ Nat.toDigits 10 k.natAbs)

/-- The characters of a number. -/
def numberChars (x : Number) : List Char :=
  (if x.negative then ['-'] else []) ++
    (Nat.toDigits 10 x.whole ++ (fractionText x.fraction ++ exponentChars x.exponent))

/-- The digits of a number as digits. -/
theorem exists_digits (n : Nat) :
    ∃ (d : Fin 10) (ds : List (Fin 10)), Nat.toDigits 10 n = (d :: ds).map digitChar ∧
      ds.foldl (fun k d => 10 * k + d.val) d.val = n := by
  induction n using Nat.strong_induction_on with
  | _ n ih =>
      -- As for the scanner, the last digit comes off.
      by_cases hn : n < 10
      · exact ⟨⟨n, hn⟩, [], Nat.toDigits_of_lt_base hn, rfl⟩
      · rcases ih (n / 10) (by omega) with ⟨d, ds, hds, hvalue⟩
        refine ⟨d, ds ++ [⟨n % 10, by omega⟩], ?_, ?_⟩
        · rw [Nat.toDigits_of_base_le (by omega) (by omega), hds, ← List.cons_append,
            List.map_append]
          rfl
        · rw [List.foldl_concat, hvalue]
          simp only
          omega

/-- An exponent is written without a plus. -/
theorem exponentText_exponentChars (exponent : Option Int) :
    ExponentText exponent (exponentChars exponent) := by
  cases exponent with
  | none => exact .none
  | some k =>
      rcases exists_digits k.natAbs with ⟨d, ds, hds, hvalue⟩
      have hk : k = exponentValue (decide (k < 0)) d ds := by
        simp only [exponentValue, hvalue, decide_eq_true_eq]
        split <;> omega
      rw [exponentChars, hds]
      refine (congrArg (fun k' => ExponentText (some k') _) hk).mpr ?_
      refine .some 'e' (.inl rfl) _ (decide (k < 0)) ?_ d ds
      by_cases hneg : k < 0
      · exact .inl ⟨if_pos hneg, decide_eq_true hneg⟩
      · exact .inr ⟨.inr (if_neg hneg), decide_eq_false hneg⟩

/-- A number is written part by part. -/
theorem numberText_numberChars (x : Number) : NumberText x (numberChars x) :=
  .intro _ (exponentText_exponentChars x.exponent)

end Numbers

section Values

mutual

/-- The text of a value. -/
def marshal : Value → List Char
  | .null => "null".toList
  | .bool true => "true".toList
  | .bool false => "false".toList
  | .num x => numberChars x
  | .str s => '"' :: (escape s ++ ['"'])
  | .arr vs => '[' :: (marshalElems vs ++ [']'])
  | .obj ms => '{' :: (marshalMembers ms ++ ['}'])

/-- The elements of an array. -/
def marshalElems : List Value → List Char
  | [] => []
  | [v] => marshal v
  | v :: vs => marshal v ++ ',' :: marshalElems vs

/-- The members of an object. -/
def marshalMembers : List (List Char × Value) → List Char
  | [] => []
  | [(k, v)] => '"' :: (escape k ++ '"' :: ':' :: marshal v)
  | (k, v) :: ms => '"' :: (escape k ++ '"' :: ':' :: (marshal v ++ ',' :: marshalMembers ms))

end

theorem blank_nil : Blank [] := fun _ hc => absurd hc List.not_mem_nil

/-- A string between its quotes. -/
theorem spells_str (s : List Char) :
    Spells (.value (.str s)) ('"' :: (escape s ++ ['"'])) := by
  have h := Spells.str (itemsText_escape s)
  rw [decodeItems_map] at h
  exact h

mutual

/-- What is written is a spelling. -/
theorem spells_marshal : ∀ v : Value, Spells (.value v) (marshal v)
  | .null => .null
  | .bool true => .true
  | .bool false => .false
  | .num x => .num (numberText_numberChars x)
  | .str s => spells_str s
  | .arr [] => .emptyArr blank_nil
  | .arr (v :: vs) => .arr (spells_marshalElems (v :: vs) (List.cons_ne_nil v vs))
  | .obj [] => .emptyObj blank_nil
  | .obj (m :: ms) => .obj (spells_marshalMembers (m :: ms) (List.cons_ne_nil m ms))

theorem spells_marshalElems :
    ∀ vs : List Value, vs ≠ [] → Spells (.elems vs) (marshalElems vs)
  | [], hne => absurd rfl hne
  | [v], _ => by
      have h := Spells.elem blank_nil (spells_marshal v) blank_nil
      rw [List.nil_append, List.append_nil] at h
      exact h
  | v :: v' :: vs, _ =>
      .elems blank_nil (spells_marshal v) blank_nil
        (spells_marshalElems (v' :: vs) (List.cons_ne_nil v' vs))

theorem spells_marshalMembers :
    ∀ ms : List (List Char × Value), ms ≠ [] → Spells (.members ms) (marshalMembers ms)
  | [], hne => absurd rfl hne
  | [(k, v)], _ => by
      have h := Spells.member blank_nil (itemsText_escape k) blank_nil blank_nil
        (spells_marshal v) blank_nil
      rw [decodeItems_map, List.append_nil] at h
      exact h
  | (k, v) :: m :: ms, _ => by
      have h := Spells.members blank_nil (itemsText_escape k) blank_nil blank_nil
        (spells_marshal v) blank_nil (spells_marshalMembers (m :: ms) (List.cons_ne_nil m ms))
      rw [decodeItems_map] at h
      exact h

end

/-- The text has no blanks. -/
theorem written_marshal {v : Value} (hdepth : depth v ≤ maxDepth) : Written v (marshal v) := by
  refine ⟨⟨[], marshal v, [], blank_nil, blank_nil, spells_marshal v, ?_⟩, hdepth⟩
  rw [List.append_nil, List.nil_append]

/-- What is written is read back. -/
theorem parse_marshal (v : Value) (hdepth : depth v ≤ maxDepth) : parse (marshal v) = some v :=
  parse_written (written_marshal hdepth)

end Values

end Json
