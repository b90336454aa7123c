import Mathlib.Data.Nat.Digits.Defs

/-!
# JSON Texts

Reading JSON the way a scanner does: one character at a time, with a stack of
the arrays and objects that are open. `parse` runs the scanner over a text and
one blank more, which ends a number at the end of the text.

A text may be written in many ways: blanks between the parts, escapes for
characters, leading zeros in an exponent. `Spells` is the grammar, without
reference to the scanner, and `parse_written` says that the scanner reads each
spelling of a value as the value, as long as it is not nested too deep.

Characters beyond the basic plane may be written as two surrogates in a row. A
surrogate without its partner is read as the replacement character.

## Main definitions

* `Number`, `Value`: Values. Of a number remain its digits and the value of its
  exponent; members of an object keep their order, and keys may repeat.
* `Item`, `decodeItems`: The characters of a string as they are written.
* `NumState`, `Control`, `Mode`, `step`, `parse`: The scanner.
* `NumberText`, `ItemsText`, `Spells`, `Text`: The grammar.
* `depth`, `Written`: Texts that are not nested too deep.

## Theorems

* `number_text`: Numbers are read back.
* `run_items`: Strings are read back.
* `run_spells`: Values are read back, wherever one is expected.
* `parse_written`: Texts are read back.
-/

namespace Json

/-- A number. A missing fraction has no digits. -/
structure Number where
  negative : Bool
  whole : Nat
  fraction : List (Fin 10)
  exponent : Option Int
deriving DecidableEq

/-- A value. -/
inductive Value where
  | null
  | bool (b : Bool)
  | num (x : Number)
  | str (s : List Char)
  | arr (vs : List Value)
  | obj (ms : List (List Char × Value))

/-- A part of a string as it is written: a character, or a UTF-16 unit given by
    its number. -/
inductive Item where
  | char (c : Char)
  | unit (n : Nat)

/-- The character for what cannot be decoded. -/
def replacement : Char := '\ufffd'

/-- The first half of a surrogate pair. -/
def isHigh (n : Nat) : Bool := 0xd800 ≤ n && n < 0xdc00

/-- The second half of a surrogate pair. -/
def isLow (n : Nat) : Bool := 0xdc00 ≤ n && n < 0xe000

/-- The string that is written as a list of items. -/
def decodeItems : List Item → List Char
  | [] => []
  | .char c :: rest => c :: decodeItems rest
  | .unit n :: .unit m :: rest =>
      if isHigh n && isLow m then
        Char.ofNat (0x10000 + (n - 0xd800) * 0x400 + (m - 0xdc00)) :: decodeItems rest
      else if isHigh n || isLow n then replacement :: decodeItems (.unit m :: rest)
      else Char.ofNat n :: decodeItems (.unit m :: rest)
  | .unit n :: rest =>
      if isHigh n || isLow n then replacement :: decodeItems rest
      else Char.ofNat n :: decodeItems rest

section Characters

/-- Blanks between the parts of a text. -/
def isBlank (c : Char) : Bool := c == ' ' || c == '\t' || c == '\n' || c == '\r'

/-- The value of a decimal digit. -/
def digit (c : Char) : Option (Fin 10) :=
  if c.isDigit then some (Fin.ofNat 10 (c.toNat - '0'.toNat)) else none

/-- The decimal digit of a value. -/
def digitChar (d : Fin 10) : Char := d.val.digitChar

/-- The value of a hexadecimal digit. -/
def hexDigit (c : Char) : Option Nat :=
  if c.isDigit then some (c.toNat - '0'.toNat)
  else if 'a' ≤ c ∧ c ≤ 'f' then some (c.toNat - 'a'.toNat + 10)
  else if 'A' ≤ c ∧ c ≤ 'F' then some (c.toNat - 'A'.toNat + 10)
  else none

/-- The character that is meant by a letter after a backslash. -/
def shortEscape : Char → Option Char
  | '"' => some '"'
  | '\\' => some '\\'
  | '/' => some '/'
  | 'b' => some '\x08'
  | 'f' => some '\x0c'
  | 'n' => some '\n'
  | 'r' => some '\r'
  | 't' => some '\t'
  | _ => none

/-- Digits are read back. -/
theorem digit_digitChar (d : Fin 10) : digit (digitChar d) = some d := by
  revert d
  decide

end Characters

section Scanner

/-- How far a number has been read. -/
inductive NumState where
  | minus
  | zero (negative : Bool)
  | whole (negative : Bool) (n : Nat)
  | dot (negative : Bool) (n : Nat)
  | fraction (x : Number)
  | e (x : Number)
  | eSign (x : Number) (negative : Bool)
  | exponent (x : Number) (negative : Bool) (k : Nat)

/-- After the first digit. A number that begins with a zero has no other digit
    before the point. -/
def NumState.first (negative : Bool) (d : Fin 10) : NumState :=
  if d = 0 then .zero negative else .whole negative d.val

/-- The first character of a number. -/
def NumState.start (c : Char) : Option NumState :=
  if c = '-' then some .minus else (digit c).map (NumState.first false)

/-- After the digits before the point. -/
def NumState.afterWhole (negative : Bool) (n : Nat) (c : Char) : Option NumState :=
  if c = '.' then some (.dot negative n)
  else if c = 'e' ∨ c = 'E' then some (.e ⟨negative, n, [], none⟩)
  else none

/-- A character that continues a number. -/
def NumState.next : NumState → Char → Option NumState
  | .minus, c => (digit c).map (NumState.first true)
  | .zero negative, c => NumState.afterWhole negative 0 c
  | .whole negative n, c => match digit c with
      | some d => some (.whole negative (10 * n + d.val))
      | none => NumState.afterWhole negative n c
  | .dot negative n, c => (digit c).map fun d => .fraction ⟨negative, n, [d], none⟩
  | .fraction x, c => match digit c with
      | some d => some (.fraction { x with fraction := x.fraction ++ [d] })
      | none => if c = 'e' ∨ c = 'E' then some (.e x) else none
  | .e x, c =>
      if c = '+' then some (.eSign x false)
      else if c = '-' then some (.eSign x true)
      else (digit c).map fun d => .exponent x false d.val
  | .eSign x negative, c => (digit c).map fun d => .exponent x negative d.val
  | .exponent x negative k, c => (digit c).map fun d => .exponent x negative (10 * k + d.val)

/-- The number, if it may end here. -/
def NumState.number : NumState → Option Number
  | .zero negative => some ⟨negative, 0, [], none⟩
  | .whole negative n => some ⟨negative, n, [], none⟩
  | .fraction x => some x
  | .exponent x negative k => some { x with exponent := some (if negative then -k else k) }
  | _ => none

/-- An array or an object that is open, with the values it has so far. A value
    of the object is expected under a key. -/
inductive Frame where
  | arr (vs : List Value)
  | obj (ms : List (List Char × Value)) (key : List Char)

/-- What is expected next. -/
inductive Control where
  | value (stack : List Frame)
  | firstElem (stack : List Frame)
  | firstKey (stack : List Frame)
  | key (ms : List (List Char × Value)) (stack : List Frame)
  | colon (ms : List (List Char × Value)) (key : List Char) (stack : List Frame)
  | elemEnd (vs : List Value) (stack : List Frame)
  | memberEnd (ms : List (List Char × Value)) (stack : List Frame)
  | done (v : Value)

/-- How many arrays and objects may be open at a time. -/
def maxDepth : Nat := 10000

/-- A value is complete. -/
def finish (v : Value) : List Frame → Control
  | [] => .done v
  | .arr vs :: stack => .elemEnd (vs ++ [v]) stack
  | .obj ms key :: stack => .memberEnd (ms ++ [(key, v)]) stack

/-- Where a value goes, if one may come now. -/
def Control.expects : Control → Option (List Frame)
  | .value stack => some stack
  | .firstElem stack => some (.arr [] :: stack)
  | _ => none

/-- A value without parts. -/
def Control.scalar (v : Value) (ctl : Control) : Option Control := ctl.expects.map (finish v)

/-- A string, as a value or as a key. -/
def Control.string (s : List Char) : Control → Option Control
  | .firstKey stack => some (.colon [] s stack)
  | .key ms stack => some (.colon ms s stack)
  | ctl => ctl.scalar (.str s)

/-- An opening bracket. -/
def Control.opening (inside : List Frame → Control) (ctl : Control) : Option Control :=
  ctl.expects.bind fun stack => if stack.length < maxDepth then some (inside stack) else none

/-- Brackets, commas and colons. -/
def Control.punctuation (ctl : Control) (c : Char) : Option Control :=
  if c = '[' then ctl.opening .firstElem
  else if c = '{' then ctl.opening .firstKey
  else match ctl with
    | .firstElem stack => if c = ']' then some (finish (.arr []) stack) else none
    | .elemEnd vs stack =>
        if c = ']' then some (finish (.arr vs) stack)
        else if c = ',' then some (.value (.arr vs :: stack))
        else none
    | .firstKey stack => if c = '}' then some (finish (.obj []) stack) else none
    | .memberEnd ms stack =>
        if c = '}' then some (finish (.obj ms) stack)
        else if c = ',' then some (.key ms stack)
        else none
    | .colon ms k stack => if c = ':' then some (.value (.obj ms k :: stack)) else none
    | _ => none

/-- What is being read. A hexadecimal number keeps count of its digits. -/
inductive Mode where
  | between
  | string (items : List Item)
  | escape (items : List Item)
  | hex (items : List Item) (n count : Nat)
  | number (q : NumState)
  | word (rest : List Char) (v : Value)

/-- A character between the parts. -/
def between (ctl : Control) (c : Char) : Option (Mode × Control) :=
  if isBlank c then some (.between, ctl)
  else if c = '"' then some (.string [], ctl)
  else if c = 't' then some (.word "rue".toList (.bool true), ctl)
  else if c = 'f' then some (.word "alse".toList (.bool false), ctl)
  else if c = 'n' then some (.word "ull".toList .null, ctl)
  else match NumState.start c with
    | some q => some (.number q, ctl)
    | none => (ctl.punctuation c).map (Mode.between, ·)

/-- One character. -/
def step : Mode × Control → Char → Option (Mode × Control)
  | (.between, ctl), c => between ctl c
  | (.string items, ctl), c =>
      if c = '"' then (ctl.string (decodeItems items)).map (Mode.between, ·)
      else if c = '\\' then some (.escape items, ctl)
      else if c.toNat < 0x20 then none
      else some (.string (items ++ [.char c]), ctl)
  | (.escape items, ctl), c =>
      if c = 'u' then some (.hex items 0 0, ctl)
      else (shortEscape c).map fun c => (.string (items ++ [.char c]), ctl)
  | (.hex items n count, ctl), c => (hexDigit c).map fun d =>
      if count = 3 then (.string (items ++ [.unit (16 * n + d)]), ctl)
      else (.hex items (16 * n + d) (count + 1), ctl)
  | (.number q, ctl), c => match q.next c with
      | some q => some (.number q, ctl)
      -- The number has ended, and the character is the next one after it.
      | none => q.number.bind fun x => (ctl.scalar (.num x)).bind fun ctl => between ctl c
  | (.word [] _, _), _ => none
  | (.word [x] v, ctl), c => if c = x then (ctl.scalar v).map (Mode.between, ·) else none
  | (.word (x :: rest) v, ctl), c => if c = x then some (.word rest v, ctl) else none

/-- Characters one after the other. -/
def run (s : Mode × Control) (cs : List Char) : Option (Mode × Control) := cs.foldlM step s

/-- The value of a text. -/
def parse (cs : List Char) : Option Value :=
  match run (.between, .value []) (cs ++ [' ']) with
  | some (.between, .done v) => some v
  | _ => none

end Scanner

section Grammar

/-- Blanks. -/
def Blank (cs : List Char) : Prop := ∀ c ∈ cs, isBlank c = true

/-- The digits of the fraction. -/
def fractionText : List (Fin 10) → List Char
  | [] => []
  | ds => '.' :: ds.map digitChar

/-- The value of an exponent. -/
def exponentValue (negative : Bool) (d : Fin 10) (ds : List (Fin 10)) : Int :=
  let k : Nat := ds.foldl (fun k d => 10 * k + d.val) d.val
  if negative then -k else k

/-- The ways to write an exponent. -/
inductive ExponentText : Option Int → List Char → Prop where
  | none : ExponentText none []
  | some (mark : Char) (hmark : mark = 'e' ∨ mark = 'E') (sign : List Char) (negative : Bool)
      (hsign : sign = ['-'] ∧ negative = true ∨ (sign = ['+'] ∨ sign = []) ∧ negative = false)
      (d : Fin 10) (ds : List (Fin 10)) :
      ExponentText (some (exponentValue negative d ds))
        (mark :: (sign ++ (d :: ds).map digitChar))

/-- The ways to write a number. -/
inductive NumberText (x : Number) : List Char → Prop where
  | intro (exponent : List Char) (hexponent : ExponentText x.exponent exponent) :
      NumberText x ((if x.negative then ['-'] else []) ++
        (Nat.toDigits 10 x.whole ++ (fractionText x.fraction ++ exponent)))

/-- The ways to write an item of a string. -/
inductive ItemText : Item → List Char → Prop where
  | plain (c : Char) (hlow : 0x20 ≤ c.toNat) (hquote : c ≠ '"') (hslash : c ≠ '\\') :
      ItemText (.char c) [c]
  | short (e c : Char) (hc : shortEscape e = some c) : ItemText (.char c) ['\\', e]
  | unit (a b c d : Char) (i j k l : Nat) (ha : hexDigit a = some i) (hb : hexDigit b = some j)
      (hc : hexDigit c = some k) (hd : hexDigit d = some l) :
      ItemText (.unit (16 * (16 * (16 * i + j) + k) + l)) ['\\', 'u', a, b, c, d]

/-- The ways to write the items of a string. -/
inductive ItemsText : List Item → List Char → Prop where
  | nil : ItemsText [] []
  | cons {item : Item} {items : List Item} {cs rest : List Char} (hitem : ItemText item cs)
      (hrest : ItemsText items rest) : ItemsText (item :: items) (cs ++ rest)

/-- What can be written: a value, the elements of an array or the members of an
    object, of which there is at least one. -/
inductive Phrase where
  | value (v : Value)
  | elems (vs : List Value)
  | members (ms : List (List Char × Value))

/-- The ways to write a phrase. -/
inductive Spells : Phrase → List Char → Prop where
  | null : Spells (.value .null) "null".toList
  | true : Spells (.value (.bool true)) "true".toList
  | false : Spells (.value (.bool false)) "false".toList
  | num {x : Number} {cs : List Char} (h : NumberText x cs) : Spells (.value (.num x)) cs
  | str {items : List Item} {cs : List Char} (h : ItemsText items cs) :
      Spells (.value (.str (decodeItems items))) ('"' :: (cs ++ ['"']))
  | emptyArr {w : List Char} (hw : Blank w) : Spells (.value (.arr [])) ('[' :: (w ++ [']']))
  | arr {vs : List Value} {cs : List Char} (h : Spells (.elems vs) cs) :
      Spells (.value (.arr vs)) ('[' :: (cs ++ [']']))
  | emptyObj {w : List Char} (hw : Blank w) : Spells (.value (.obj [])) ('{' :: (w ++ ['}']))
  | obj {ms : List (List Char × Value)} {cs : List Char} (h : Spells (.members ms) cs) :
      Spells (.value (.obj ms)) ('{' :: (cs ++ ['}']))
  | elem {v : Value} {w cs w' : List Char} (hw : Blank w) (h : Spells (.value v) cs)
      (hw' : Blank w') : Spells (.elems [v]) (w ++ (cs ++ w'))
  | elems {v : Value} {vs : List Value} {w cs w' rest : List Char} (hw : Blank w)
      (h : Spells (.value v) cs) (hw' : Blank w') (hrest : Spells (.elems vs) rest) :
      Spells (.elems (v :: vs)) (w ++ (cs ++ (w' ++ ',' :: rest)))
  | member {items : List Item} {v : Value} {w key w₁ w₂ cs w' : List Char} (hw : Blank w)
      (hkey : ItemsText items key) (hw₁ : Blank w₁) (hw₂ : Blank w₂) (h : Spells (.value v) cs)
      (hw' : Blank w') :
      Spells (.members [(decodeItems items, v)])
        (w ++ '"' :: (key ++ '"' :: (w₁ ++ ':' :: (w₂ ++ (cs ++ w')))))
  | members {items : List Item} {v : Value} {ms : List (List Char × Value)}
      {w key w₁ w₂ cs w' rest : List Char} (hw : Blank w) (hkey : ItemsText items key)
      (hw₁ : Blank w₁) (hw₂ : Blank w₂) (h : Spells (.value v) cs) (hw' : Blank w')
      (hrest : Spells (.members ms) rest) :
      Spells (.members ((decodeItems items, v) :: ms))
        (w ++ '"' :: (key ++ '"' :: (w₁ ++ ':' :: (w₂ ++ (cs ++ (w' ++ ',' :: rest))))))

/-- A text of a value, with blanks around it. -/
def Text (v : Value) (cs : List Char) : Prop :=
  ∃ w cs' w', Blank w ∧ Blank w' ∧ Spells (.value v) cs' ∧ cs = w ++ (cs' ++ w')

mutual

/-- How deep a value is nested. -/
def depth : Value → Nat
  | .arr vs => depthElems vs + 1
  | .obj ms => depthMembers ms + 1
  | _ => 0

/-- How deep the deepest of some values is nested. -/
def depthElems : List Value → Nat
  | [] => 0
  | v :: vs => max (depth v) (depthElems vs)

/-- How deep the deepest of some members is nested. -/
def depthMembers : List (List Char × Value) → Nat
  | [] => 0
  | (_, v) :: ms => max (depth v) (depthMembers ms)

end

end Grammar

section Numbers

/-- Characters that continue a number. -/
def NumState.feed (q : NumState) (cs : List Char) : Option NumState := cs.foldlM NumState.next q

/-- Characters are read in two parts. -/
theorem NumState.feed_append {q q' : NumState} {cs cs' : List Char} (h : q.feed cs = some q') :
    q.feed (cs ++ cs') = q'.feed cs' := by
  rw [feed, List.foldlM_append, ← feed, h]
  rfl

/-- One character, then the others. -/
theorem NumState.feed_cons {q q' : NumState} {c : Char} {cs : List Char}
    (h : q.next c = some q') : q.feed (c :: cs) = q'.feed cs := by
  rw [feed, List.foldlM_cons, h]
  rfl

theorem digit_natDigitChar (n : Nat) (hn : n < 10) :
    digit n.digitChar = some ⟨n, hn⟩ := digit_digitChar ⟨n, hn⟩

/-- After all digits before the point. -/
def NumState.ofWhole (negative : Bool) (n : Nat) : NumState :=
  if n = 0 then .zero negative else .whole negative n

theorem NumState.ofWhole_pos (negative : Bool) {n : Nat} (hn : 0 < n) :
    NumState.ofWhole negative n = .whole negative n := if_neg hn.ne'

/-- The digits of a whole number are read from the first one on. -/
theorem feed_toDigits (negative : Bool) (n : Nat) :
    ∃ c cs d, Nat.toDigits 10 n = c :: cs ∧ digit c = some d ∧
      (NumState.first negative d).feed cs = some (.ofWhole negative n) := by
  induction n using Nat.strong_induction_on with
  | _ n ih =>
      -- The last digit comes off, as the digits are written from the other end.
      by_cases hn : n < 10
      · refine ⟨n.digitChar, [], ⟨n, hn⟩, Nat.toDigits_of_lt_base hn, digit_natDigitChar n hn, ?_⟩
        simp only [NumState.feed, List.foldlM_nil, NumState.first, NumState.ofWhole, Fin.ext_iff]
        rfl
      · have hsplit := Nat.toDigits_of_base_le (b := 10) (n := n) (by omega) (by omega)
        rcases ih (n / 10) (by omega) with ⟨c, cs, d, hcs, hd, hfeed⟩
        have hlast := digit_natDigitChar (n % 10) (by omega)
        refine ⟨c, cs ++ [(n % 10).digitChar], d, by rw [hsplit, hcs, List.cons_append], hd, ?_⟩
        rw [NumState.feed_append hfeed, NumState.ofWhole_pos _ (by omega)]
        have hnext : (NumState.whole negative (n / 10)).next (n % 10).digitChar
            = some (.whole negative n) := by
          simp only [NumState.next, hlast, Option.some.injEq, NumState.whole.injEq, true_and]
          omega
        rw [NumState.feed_cons hnext, NumState.ofWhole_pos _ (by omega)]
        rfl

/-- Each digit is put behind those that have been read. -/
theorem feed_fractionDigits (x : Number) (ds : List (Fin 10)) :
    (NumState.fraction x).feed (ds.map digitChar)
      = some (.fraction { x with fraction := x.fraction ++ ds }) := by
  induction ds generalizing x with
  | nil => rw [List.append_nil]; rfl
  | cons d ds ih =>
      have hnext : (NumState.fraction x).next (digitChar d)
          = some (.fraction { x with fraction := x.fraction ++ [d] }) := by
        simp only [NumState.next, digit_digitChar]
      rw [List.map_cons, NumState.feed_cons hnext, ih, List.append_assoc, List.singleton_append]

/-- After the fraction. -/
def NumState.ofFraction (negative : Bool) (n : Nat) : List (Fin 10) → NumState
  | [] => .ofWhole negative n
  | ds => .fraction ⟨negative, n, ds, none⟩

/-- A point and the digits after it, or no fraction at all. -/
theorem feed_fractionText (negative : Bool) (n : Nat) (ds : List (Fin 10)) :
    (NumState.ofWhole negative n).feed (fractionText ds) = some (.ofFraction negative n ds) := by
  cases ds with
  | nil => rfl
  | cons d ds =>
      -- A point may come after a zero as after any whole number.
      have hdot : (NumState.ofWhole negative n).next '.' = some (.dot negative n) := by
        unfold NumState.ofWhole
        by_cases hn : n = 0
        · rw [if_pos hn, hn]
          rfl
        · rw [if_neg hn]
          rfl
      have hnext : (NumState.dot negative n).next (digitChar d)
          = some (.fraction ⟨negative, n, [d], none⟩) := by
        simp only [NumState.next, digit_digitChar, Option.map_some]
      rw [fractionText, NumState.feed_cons hdot, List.map_cons, NumState.feed_cons hnext,
        feed_fractionDigits]
      · rfl
      · exact List.cons_ne_nil _ _

/-- Each digit of the exponent is one more decimal place. -/
theorem feed_exponentDigits (x : Number) (negative : Bool) (k : Nat) (ds : List (Fin 10)) :
    (NumState.exponent x negative k).feed (ds.map digitChar)
      = some (.exponent x negative (ds.foldl (fun k d => 10 * k + d.val) k)) := by
  induction ds generalizing k with
  | nil => rfl
  | cons d ds ih =>
      have hnext : (NumState.exponent x negative k).next (digitChar d)
          = some (.exponent x negative (10 * k + d)) := by
        simp only [NumState.next, digit_digitChar, Option.map_some]
      rw [List.map_cons, NumState.feed_cons hnext, ih, List.foldl_cons]

/-- A mark for the exponent may follow the digits. -/
theorem next_mark (negative : Bool) (n : Nat) (ds : List (Fin 10)) {mark : Char}
    (hmark : mark = 'e' ∨ mark = 'E') :
    (NumState.ofFraction negative n ds).next mark = some (.e ⟨negative, n, ds, none⟩) := by
  have hdigit : digit mark = none := by
    rcases hmark with rfl | rfl <;> rfl
  have hdot : mark ≠ '.' := by
    rcases hmark with rfl | rfl <;> decide
  -- Without a fraction the mark comes after a whole number, where a point may come too.
  cases ds with
  | nil =>
      unfold NumState.ofFraction NumState.ofWhole
      by_cases hn : n = 0
      · simp only [hn, if_true, NumState.next, NumState.afterWhole, hdot, hmark, if_false]
      · simp only [hn, if_false, NumState.next, hdigit, NumState.afterWhole, hdot, hmark, if_true]
  | cons d ds => simp only [NumState.ofFraction, NumState.next, hdigit, hmark, if_true]

/-- An exponent may follow the digits, or the number ends there. -/
theorem feed_exponentText (negative : Bool) (n : Nat) (ds : List (Fin 10)) {exponent : Option Int}
    {cs : List Char} (h : ExponentText exponent cs) :
    ∃ q, (NumState.ofFraction negative n ds).feed cs = some q ∧
      q.number = some ⟨negative, n, ds, exponent⟩ := by
  cases h with
  | none =>
      refine ⟨_, rfl, ?_⟩
      cases ds with
      | nil =>
          unfold NumState.ofFraction NumState.ofWhole
          by_cases hn : n = 0
          · rw [if_pos hn, hn]
            rfl
          · rw [if_neg hn]
            rfl
      | cons d ds => rfl
  | some mark hmark sign neg hsign d rest =>
      refine ⟨.exponent ⟨negative, n, ds, none⟩ neg (rest.foldl (fun k d => 10 * k + d.val) d.val),
        ?_, rfl⟩
      rw [NumState.feed_cons (next_mark negative n ds hmark), List.map_cons]
      have hdigit : digitChar d ≠ '+' ∧ digitChar d ≠ '-' := by
        revert d
        decide
      -- A minus, a plus or no sign.
      rcases hsign with ⟨rfl, rfl⟩ | ⟨rfl | rfl, rfl⟩
      · have hminus : (NumState.e ⟨negative, n, ds, none⟩).next '-'
            = some (.eSign ⟨negative, n, ds, none⟩ true) := rfl
        have hnext : (NumState.eSign ⟨negative, n, ds, none⟩ true).next (digitChar d)
            = some (.exponent ⟨negative, n, ds, none⟩ true d) := by
          simp only [NumState.next, digit_digitChar, Option.map_some]
        rw [List.singleton_append, NumState.feed_cons hminus, NumState.feed_cons hnext,
          feed_exponentDigits]
      · have hplus : (NumState.e ⟨negative, n, ds, none⟩).next '+'
            = some (.eSign ⟨negative, n, ds, none⟩ false) := rfl
        have hnext : (NumState.eSign ⟨negative, n, ds, none⟩ false).next (digitChar d)
            = some (.exponent ⟨negative, n, ds, none⟩ false d) := by
          simp only [NumState.next, digit_digitChar, Option.map_some]
        rw [List.singleton_append, NumState.feed_cons hplus, NumState.feed_cons hnext,
          feed_exponentDigits]
      · have hnext : (NumState.e ⟨negative, n, ds, none⟩).next (digitChar d)
            = some (.exponent ⟨negative, n, ds, none⟩ false d) := by
          simp only [NumState.next, hdigit.1, hdigit.2, if_false, digit_digitChar, Option.map_some]
        rw [List.nil_append, NumState.feed_cons hnext, feed_exponentDigits]

/-- A number is read back, from its first character on. -/
theorem number_text {x : Number} {cs : List Char} (h : NumberText x cs) :
    ∃ c rest q q', cs = c :: rest ∧ NumState.start c = some q ∧ q.feed rest = some q' ∧
      q'.number = some x := by
  cases h with
  | intro exponent hexponent =>
      rcases feed_toDigits x.negative x.whole with ⟨c, cs, d, hcs, hd, hfeed⟩
      rcases feed_exponentText x.negative x.whole x.fraction hexponent with ⟨q', hq', hx⟩
      -- From the first digit on, the rest of the number follows.
      have hrest : (NumState.first x.negative d).feed
          (cs ++ (fractionText x.fraction ++ exponent)) = some q' := by
        rw [NumState.feed_append hfeed,
          NumState.feed_append (feed_fractionText x.negative x.whole x.fraction), hq']
      rw [hcs]
      -- Only a minus comes before the first digit.
      by_cases hneg : x.negative = true
      · rw [hneg] at hrest ⊢
        refine ⟨'-', c :: cs ++ (fractionText x.fraction ++ exponent), .minus, q', rfl, rfl, ?_, hx⟩
        have hnext : NumState.minus.next c = some (.first true d) := by
          simp only [NumState.next, hd, Option.map_some]
        rw [List.cons_append, NumState.feed_cons hnext, hrest]
      · rw [Bool.not_eq_true] at hneg
        rw [hneg] at hrest ⊢
        have hminus : c ≠ '-' := by
          intro hc
          rw [hc] at hd
          have hnone : digit '-' = none := rfl
          rw [hnone] at hd
          exact absurd hd (by simp only [reduceCtorEq, not_false_eq_true])
        refine ⟨c, cs ++ (fractionText x.fraction ++ exponent), .first false d, q', rfl, ?_, hrest,
          hx⟩
        rw [NumState.start, if_neg hminus, hd, Option.map_some]

end Numbers

section Reading

/-- One character, then the others. -/
theorem run_cons {s s' : Mode × Control} {c : Char} {cs : List Char} (h : step s c = some s') :
    run s (c :: cs) = run s' cs := by
  rw [run, List.foldlM_cons, h]
  rfl

/-- A character after a value. -/
def isDelim (c : Char) : Bool := isBlank c || c == ',' || c == ']' || c == '}'

theorem isDelim_cases {c : Char} (hc : isDelim c = true) :
    c ∈ [' ', '\t', '\n', '\r', ',', ']', '}'] := by
  simpa [isDelim, isBlank, or_assoc] using hc

/-- No number goes on with such a character. -/
theorem next_of_isDelim (q : NumState) {c : Char} (hc : isDelim c = true) : q.next c = none := by
  have hdigit : digit c = none := by
    have hmem := isDelim_cases hc
    revert hmem
    simp only [List.mem_cons, List.not_mem_nil, or_false]
    rintro (rfl | rfl | rfl | rfl | rfl | rfl | rfl) <;> rfl
  have hother : c ≠ '.' ∧ c ≠ 'e' ∧ c ≠ 'E' ∧ c ≠ '+' ∧ c ≠ '-' := by
    have hmem := isDelim_cases hc
    refine ⟨?_, ?_, ?_, ?_, ?_⟩ <;> rintro rfl <;> revert hmem <;> decide
  -- No digit, no point and no sign: nothing that any state goes on with.
  cases q <;>
    simp only [NumState.next, NumState.afterWhole, hdigit, hother, Option.map_none, or_self,
      if_false]

/-- Blanks between the parts are skipped. -/
theorem run_blank {w : List Char} (hw : Blank w) (ctl : Control) (rest : List Char) :
    run (.between, ctl) (w ++ rest) = run (.between, ctl) rest := by
  induction w with
  | nil => rfl
  | cons c w ih =>
      have hstep : step (.between, ctl) c = some (.between, ctl) := by
        rw [step, between, if_pos (hw c List.mem_cons_self)]
      rw [List.cons_append, run_cons hstep]
      exact ih fun c hc => hw c (List.mem_cons_of_mem _ hc)

/-- No number begins with a blank, a quote or the letter of a word. -/
theorem start_isNone : ∀ a ∈ [' ', '\t', '\n', '\r', '"', 't', 'f', 'n'],
    (NumState.start a).isNone = true := by
  intro a ha
  simp only [List.mem_cons, List.not_mem_nil, or_false] at ha
  rcases ha with rfl | rfl | rfl | rfl | rfl | rfl | rfl | rfl <;> rfl

/-- A number and what comes after it. -/
theorem run_number {x : Number} {cs : List Char} (h : NumberText x cs) {ctl : Control}
    {stack : List Frame} (hctl : ctl.expects = some stack) {c : Char} (hc : isDelim c = true)
    (rest : List Char) :
    run (.between, ctl) (cs ++ c :: rest) = run (.between, finish (.num x) stack) (c :: rest) := by
  rcases number_text h with ⟨a, cs', q, q', rfl, hstart, hfeed, hx⟩
  have hbetween : step (.between, ctl) a = some (.number q, ctl) := by
    have hnot : a ∉ [' ', '\t', '\n', '\r', '"', 't', 'f', 'n'] := by
      intro hmem
      rw [Option.isNone_iff_eq_none.mp (start_isNone a hmem)] at hstart
      exact absurd hstart (by simp only [reduceCtorEq, not_false_eq_true])
    simp only [List.mem_cons, List.not_mem_nil, or_false, not_or] at hnot
    have hblank : isBlank a = false := by simp [isBlank, hnot]
    simp only [step, between, hblank, hnot, hstart, Bool.false_eq_true, if_false]
  -- Within the number the scanner only goes from one state of the number to the next.
  have hnumber : ∀ (cs : List Char) (q : NumState), q.feed cs = some q' →
      run (.number q, ctl) (cs ++ c :: rest) = run (.number q', ctl) (c :: rest) := by
    intro cs
    induction cs with
    | nil =>
        intro q hq
        rw [Option.some.inj hq]
        rfl
    | cons b cs ih =>
        intro q hq
        rw [NumState.feed, List.foldlM_cons, Option.bind_eq_bind, Option.bind_eq_some_iff] at hq
        rcases hq with ⟨q₁, hq₁, hrest⟩
        have hstep : step (.number q, ctl) b = some (.number q₁, ctl) := by
          rw [step, hq₁]
        rw [List.cons_append, run_cons hstep]
        exact ih q₁ hrest
  rw [List.cons_append, run_cons hbetween, hnumber cs' q hfeed]
  -- The delimiter ends the number and is then looked at again.
  rw [run, List.foldlM_cons, run, List.foldlM_cons]
  have hstep : step (.number q', ctl) c = between (finish (.num x) stack) c := by
    simp only [step, next_of_isDelim q' hc, hx, Option.bind_some, Control.scalar, hctl,
      Option.map_some]
  rw [hstep]
  rfl

/-- One item of a string, as it is or after a backslash. -/
theorem run_item {item : Item} {cs : List Char} (h : ItemText item cs) (items : List Item)
    (ctl : Control) (rest : List Char) :
    run (.string items, ctl) (cs ++ rest) = run (.string (items ++ [item]), ctl) rest := by
  have hslash : step (.string items, ctl) '\\' = some (.escape items, ctl) := rfl
  cases h with
  | plain c hlow hquote hback =>
      have hstep : step (.string items, ctl) c = some (.string (items ++ [.char c]), ctl) := by
        simp only [step, hquote, hback, Nat.not_lt.mpr hlow, if_false]
      exact run_cons hstep
  | short e c hc =>
      -- The letter that announces a code unit has no meaning of its own.
      have hu : e ≠ 'u' := by
        intro he
        have hnone : shortEscape 'u' = none := rfl
        rw [he, hnone] at hc
        exact absurd hc (by simp only [reduceCtorEq, not_false_eq_true])
      have hstep : step (.escape items, ctl) e = some (.string (items ++ [.char c]), ctl) := by
        simp only [step, hu, if_false, hc, Option.map_some]
      rw [List.cons_append, run_cons hslash]
      exact run_cons hstep
  | unit a b c d i j k l ha hb hc hd =>
      have hu : step (.escape items, ctl) 'u' = some (.hex items 0 0, ctl) := rfl
      -- Four digits, each of which moves the ones before it up.
      have h0 : step (.hex items 0 0, ctl) a = some (.hex items i 1, ctl) := by
        simp [step, ha]
      have h1 : step (.hex items i 1, ctl) b = some (.hex items (16 * i + j) 2, ctl) := by
        simp [step, hb]
      have h2 : step (.hex items (16 * i + j) 2, ctl) c
          = some (.hex items (16 * (16 * i + j) + k) 3, ctl) := by
        simp [step, hc]
      have h3 : step (.hex items (16 * (16 * i + j) + k) 3, ctl) d
          = some (.string (items ++ [.unit (16 * (16 * (16 * i + j) + k) + l)]), ctl) := by
        simp [step, hd]
      simp only [List.cons_append, List.nil_append, run_cons hslash, run_cons hu, run_cons h0,
        run_cons h1, run_cons h2, run_cons h3]

/-- The items of a string are read back. -/
theorem run_items {its : List Item} {cs : List Char} (h : ItemsText its cs) (items : List Item)
    (ctl : Control) (rest : List Char) :
    run (.string items, ctl) (cs ++ rest) = run (.string (items ++ its), ctl) rest := by
  induction h generalizing items with
  | nil => rw [List.append_nil, List.nil_append]
  | cons hitem _ ih =>
      rw [List.append_assoc, run_item hitem, ih, List.append_assoc, List.singleton_append]

/-- A string, as a value or as a key. -/
theorem run_string {items : List Item} {cs : List Char} (h : ItemsText items cs)
    {ctl ctl' : Control} (hctl : ctl.string (decodeItems items) = some ctl') (rest : List Char) :
    run (.between, ctl) ('"' :: (cs ++ '"' :: rest)) = run (.between, ctl') rest := by
  have hopen : step (.between, ctl) '"' = some (.string [], ctl) := rfl
  have hclose : step (.string items, ctl) '"' = some (.between, ctl') := by
    simp only [step, if_true, hctl, Option.map_some]
  rw [run_cons hopen, run_items h, List.nil_append, run_cons hclose]

/-- Where a value is expected, a string is one. -/
theorem string_of_expects {ctl : Control} {stack : List Frame} (hctl : ctl.expects = some stack)
    (s : List Char) : ctl.string s = some (finish (.str s) stack) := by
  cases ctl with
  | value st => exact Option.some.inj hctl ▸ rfl
  | firstElem st => exact Option.some.inj hctl ▸ rfl
  | _ => exact absurd hctl (by simp only [Control.expects, reduceCtorEq, not_false_eq_true])

/-- A word is read letter by letter. -/
theorem run_word {x : Char} {xs : List Char} {v : Value} {ctl : Control} {stack : List Frame}
    (hctl : ctl.expects = some stack) (rest : List Char) :
    run (.word (x :: xs) v, ctl) (x :: xs ++ rest) = run (.between, finish v stack) rest := by
  induction xs generalizing x with
  | nil =>
      have hstep : step (.word [x] v, ctl) x = some (.between, finish v stack) := by
        simp only [step, if_true, Control.scalar, hctl, Option.map_some]
      exact run_cons hstep
  | cons y ys ih =>
      have hstep : step (.word (x :: y :: ys) v, ctl) x = some (.word (y :: ys) v, ctl) := by
        simp only [step, if_true]
      rw [List.cons_append, run_cons hstep, ih]

/-- A bracket opens an array or an object where a value is expected, if not too
    many are open. -/
theorem run_opening {c : Char} {inside : List Frame → Control} {ctl : Control}
    {stack : List Frame} (hctl : ctl.expects = some stack) (hdepth : stack.length < maxDepth)
    (hc : c = '[' ∧ inside = .firstElem ∨ c = '{' ∧ inside = .firstKey) (rest : List Char) :
    run (.between, ctl) (c :: rest) = run (.between, inside stack) rest := by
  have hopen : ctl.opening inside = some (inside stack) := by
    rw [Control.opening, hctl, Option.bind_some, if_pos hdepth]
  have hstep : step (.between, ctl) c = (ctl.opening inside).map (Mode.between, ·) := by
    rcases hc with ⟨rfl, rfl⟩ | ⟨rfl, rfl⟩ <;> rfl
  rw [hopen, Option.map_some] at hstep
  exact run_cons hstep

/-- How a phrase is read: a value wherever one is expected and something comes
    after it, the elements of an array up to its end, and likewise the members of
    an object. -/
def Reads : Phrase → List Char → Prop
  | .value v, cs => ∀ (ctl : Control) (stack : List Frame) (c : Char) (rest : List Char),
      ctl.expects = some stack → stack.length + depth v ≤ maxDepth → isDelim c = true →
      run (.between, ctl) (cs ++ c :: rest) = run (.between, finish v stack) (c :: rest)
  | .elems vs, cs => ∀ (ctl : Control) (pre : List Value) (stack : List Frame) (rest : List Char),
      ctl.expects = some (.arr pre :: stack) → stack.length + 1 + depthElems vs ≤ maxDepth →
      run (.between, ctl) (cs ++ ']' :: rest) = run (.between, finish (.arr (pre ++ vs)) stack) rest
  | .members ms, cs => ∀ (ctl : Control) (pre : List (List Char × Value)) (stack : List Frame)
      (rest : List Char), (∀ s, ctl.string s = some (.colon pre s stack)) →
      stack.length + 1 + depthMembers ms ≤ maxDepth →
      run (.between, ctl) (cs ++ '}' :: rest) = run (.between, finish (.obj (pre ++ ms)) stack) rest

/-- A value with blanks after it. -/
theorem Reads.blank {v : Value} {cs : List Char} (h : Reads (.value v) cs) {w : List Char}
    (hw : Blank w) {ctl : Control} {stack : List Frame} (hctl : ctl.expects = some stack)
    (hdepth : stack.length + depth v ≤ maxDepth) {c : Char} (hc : isDelim c = true)
    (rest : List Char) :
    run (.between, ctl) (cs ++ (w ++ c :: rest)) = run (.between, finish v stack) (c :: rest) := by
  -- What comes after the value is the first blank, or the delimiter if there is none.
  cases w with
  | nil => exact h ctl stack c rest hctl hdepth hc
  | cons b w =>
      have hb : isDelim b = true := by
        rw [isDelim, hw b List.mem_cons_self]
        rfl
      rw [List.cons_append, h ctl stack b _ hctl hdepth hb, ← List.cons_append, run_blank hw]

/-- A member of an object, from the blanks before it to the blanks after it. -/
theorem Reads.member {v : Value} {cs : List Char} (h : Reads (.value v) cs) {items : List Item}
    {w key w₁ w₂ w' : List Char} (hw : Blank w) (hkey : ItemsText items key) (hw₁ : Blank w₁)
    (hw₂ : Blank w₂) (hw' : Blank w') {ctl : Control} {pre : List (List Char × Value)}
    {stack : List Frame} (hctl : ∀ s, ctl.string s = some (.colon pre s stack))
    (hdepth : stack.length + 1 + depth v ≤ maxDepth) {c : Char} (hc : isDelim c = true)
    (rest : List Char) :
    run (.between, ctl)
        (w ++ '"' :: (key ++ '"' :: (w₁ ++ ':' :: (w₂ ++ (cs ++ (w' ++ c :: rest))))))
      = run (.between, .memberEnd (pre ++ [(decodeItems items, v)]) stack) (c :: rest) := by
  have hcolon : step (.between, .colon pre (decodeItems items) stack) ':'
      = some (.between, .value (.obj pre (decodeItems items) :: stack)) := rfl
  rw [run_blank hw, run_string hkey (hctl _), run_blank hw₁, run_cons hcolon, run_blank hw₂,
    h.blank hw' rfl (by rw [List.length_cons]; omega) hc]
  rfl

/-- Every spelling is read. -/
theorem run_spells {p : Phrase} {cs : List Char} (h : Spells p cs) : Reads p cs := by
  -- By induction on the spelling. Where the value goes and what comes after it is part of the
  -- statement.
  induction h with
  | null =>
      intro ctl stack c rest hctl _ _
      have hfirst : step (.between, ctl) 'n' = some (.word "ull".toList .null, ctl) := rfl
      exact (run_cons hfirst).trans (run_word hctl _)
  | true =>
      intro ctl stack c rest hctl _ _
      have hfirst : step (.between, ctl) 't' = some (.word "rue".toList (.bool true), ctl) := rfl
      exact (run_cons hfirst).trans (run_word hctl _)
  | false =>
      intro ctl stack c rest hctl _ _
      have hfirst : step (.between, ctl) 'f' = some (.word "alse".toList (.bool false), ctl) := rfl
      exact (run_cons hfirst).trans (run_word hctl _)
  | num h =>
      intro ctl stack c rest hctl _ hc
      exact run_number h hctl hc rest
  | @str items cs h =>
      intro ctl stack c rest hctl _ _
      rw [List.cons_append, List.append_assoc, List.singleton_append]
      exact run_string h (string_of_expects hctl _) _
  | @emptyArr w hw =>
      intro ctl stack c rest hctl hdepth _
      have hend : step (.between, .firstElem stack) ']' = some (.between, finish (.arr []) stack) :=
        rfl
      have hlt : stack.length < maxDepth := Nat.lt_of_lt_of_le (Nat.lt_succ_self _) hdepth
      rw [List.cons_append, run_opening hctl hlt (.inl ⟨rfl, rfl⟩), List.append_assoc, run_blank hw,
        List.singleton_append, run_cons hend]
  | @arr vs cs _ ih =>
      intro ctl stack c rest hctl hdepth _
      rw [depth] at hdepth
      rw [List.cons_append, run_opening hctl (by omega) (.inl ⟨rfl, rfl⟩), List.append_assoc,
        List.singleton_append, ih (.firstElem stack) [] stack (c :: rest) rfl (by omega)]
      rfl
  | @emptyObj w hw =>
      intro ctl stack c rest hctl hdepth _
      have hend : step (.between, .firstKey stack) '}' = some (.between, finish (.obj []) stack) :=
        rfl
      have hlt : stack.length < maxDepth := Nat.lt_of_lt_of_le (Nat.lt_succ_self _) hdepth
      rw [List.cons_append, run_opening hctl hlt (.inr ⟨rfl, rfl⟩), List.append_assoc, run_blank hw,
        List.singleton_append, run_cons hend]
  | @obj ms cs _ ih =>
      intro ctl stack c rest hctl hdepth _
      rw [depth] at hdepth
      rw [List.cons_append, run_opening hctl (by omega) (.inr ⟨rfl, rfl⟩), List.append_assoc,
        List.singleton_append, ih (.firstKey stack) [] stack (c :: rest) (fun _ => rfl) (by omega)]
      rfl
  | @elem v w cs w' hw _ hw' ih =>
      intro ctl pre stack rest hctl hdepth
      have hend : step (.between, .elemEnd (pre ++ [v]) stack) ']'
          = some (.between, finish (.arr (pre ++ [v])) stack) := rfl
      rw [depthElems, depthElems, Nat.max_zero] at hdepth
      rw [List.append_assoc, List.append_assoc, run_blank hw,
        ih.blank hw' hctl (by rw [List.length_cons]; omega) rfl]
      exact run_cons hend
  | @elems v vs w cs w' rest' hw _ hw' _ ih ihrest =>
      intro ctl pre stack rest hctl hdepth
      have hcomma : step (.between, .elemEnd (pre ++ [v]) stack) ','
          = some (.between, .value (.arr (pre ++ [v]) :: stack)) := rfl
      rw [depthElems] at hdepth
      rw [List.append_assoc, List.append_assoc, List.append_assoc, List.cons_append, run_blank hw,
        ih.blank hw' hctl (by rw [List.length_cons]; omega) rfl]
      refine (run_cons hcomma).trans ?_
      rw [ihrest _ (pre ++ [v]) stack rest rfl (by omega), List.append_assoc,
        List.singleton_append]
  | @member items v w key w₁ w₂ cs w' hw hkey hw₁ hw₂ _ hw' ih =>
      intro ctl pre stack rest hctl hdepth
      have hend : step (.between, .memberEnd (pre ++ [(decodeItems items, v)]) stack) '}'
          = some (.between, finish (.obj (pre ++ [(decodeItems items, v)])) stack) := rfl
      rw [depthMembers, depthMembers, Nat.max_zero] at hdepth
      simp only [List.append_assoc, List.cons_append]
      rw [ih.member hw hkey hw₁ hw₂ hw' hctl hdepth rfl, run_cons hend]
  | @members items v ms w key w₁ w₂ cs w' rest' hw hkey hw₁ hw₂ _ hw' _ ih ihrest =>
      intro ctl pre stack rest hctl hdepth
      have hcomma : step (.between, .memberEnd (pre ++ [(decodeItems items, v)]) stack) ','
          = some (.between, .key (pre ++ [(decodeItems items, v)]) stack) := rfl
      rw [depthMembers] at hdepth
      simp only [List.append_assoc, List.cons_append]
      rw [ih.member hw hkey hw₁ hw₂ hw' hctl (by omega) rfl, run_cons hcomma,
        ihrest _ _ stack rest (fun _ => rfl) (by omega), List.append_assoc, List.singleton_append]

theorem depthElems_map {α : Type} {f : α → Value} (hf : ∀ x, depth (f x) = 0) (xs : List α) :
    depthElems (xs.map f) = 0 := by
  induction xs with
  | nil => rfl
  | cons x xs ih => rw [List.map_cons, depthElems, ih, hf, Nat.max_self]

/-- A text of a value that is not nested too deep. -/
def Written (v : Value) (cs : List Char) : Prop := Text v cs ∧ depth v ≤ maxDepth

/-- Every text of a value is read as the value. -/
theorem parse_written {v : Value} {cs : List Char} (h : Written v cs) : parse cs = some v := by
  rcases h with ⟨⟨w, cs', w', hw, hw', hspells, rfl⟩, hdepth⟩
  -- The blank at the end stands for the end of the text, and ends a number.
  have hrun : run (.between, .value []) (w ++ (cs' ++ w') ++ [' '])
      = run (.between, finish v []) [' '] := by
    rw [List.append_assoc, List.append_assoc, run_blank hw]
    exact (run_spells hspells).blank hw' rfl (by rw [List.length_nil]; omega) rfl []
  rw [parse, hrun]
  rfl

end Reading

end Json
