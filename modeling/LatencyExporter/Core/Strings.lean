import Mathlib.Algebra.Ring.Nat
import Mathlib.Data.List.Basic

/-!
# Go String Functions

The functions of Go's `strings`, `strconv` and `unicode` packages that the
exporter parses its inputs with, on texts as lists of characters. The texts are
taken to be valid UTF-8.

## Main definitions

* `hasPrefix`, `trimPrefix`: `strings.HasPrefix` and `strings.TrimPrefix`.
* `isSpace`, `trimSpace`, `fields`: `unicode.IsSpace`, `strings.TrimSpace` and
  `strings.Fields`.
* `toLower`, `equalFold`: `unicode.ToLower` and `strings.EqualFold`.
* `splitN2`: `strings.SplitN` with a separator of one character and a limit of
  two.
* `decimal`, `hexadecimal`: Digits to base ten and to base sixteen.
* `parseUint`, `parseInt`, `atoi`: `strconv.ParseUint` to base ten,
  `strconv.ParseInt` and `strconv.Atoi`.
* `digitsValue`, `atoiValue`: What `strconv.Atoi` returns beside its error.
-/

namespace LatencyExporter

/-- `strings.HasPrefix`. -/
def hasPrefix (s pre : String) : Bool := pre.toList.isPrefixOf s.toList

/-- `strings.TrimPrefix`. -/
def trimPrefix (s pre : String) : String :=
  match s.toList.dropPrefix? pre.toList with
  | none => s
  | some rest => String.ofList rest

/-- `unicode.IsSpace`. -/
def isSpace (c : Char) : Bool :=
  c ∈ ['\t', '\n', '\x0b', '\x0c', '\r', ' ', '\u0085', '\u00a0', '\u1680', '\u2028',
    '\u2029', '\u202f', '\u205f', '\u3000'] ||
  ('\u2000' ≤ c && c ≤ '\u200a')

/-- `strings.TrimSpace`. -/
def trimSpace (s : List Char) : List Char :=
  ((s.dropWhile isSpace).reverse.dropWhile isSpace).reverse

/-- `strings.Fields`: the maximal runs of characters that are not white space. -/
def fields (s : List Char) : List (List Char) := (s.splitOnP isSpace).filter (· ≠ [])

/-- `unicode.ToLower`, with a table for the characters beyond ASCII. -/
def toLower (table : Char → Char) (c : Char) : Char :=
  if c.toNat < 128 then c.toLower else table c

/-- `strings.EqualFold(s, t)`, for a text `t` of ASCII characters among which are
    no k and no s. These two are the letters that also characters beyond ASCII
    fold to. -/
def equalFold (s t : List Char) : Bool := s.map Char.toLower == t.map Char.toLower

/-- `strings.SplitN(s, sep, 2)`, for a separator of one character. -/
def splitN2 (sep : Char) (s : List Char) : List (List Char) :=
  match s.span (· ≠ sep) with
  | (before, _ :: after) => [before, after]
  | (before, []) => [before]

/-- The number a list of decimal digits denotes. Fails on anything else, and
    on the empty list. -/
def decimal (s : List Char) : Option Nat :=
  if s ≠ [] ∧ s.all Char.isDigit then some (s.foldl (fun n c => 10 * n + (c.toNat - '0'.toNat)) 0)
  else none

/-- The value of a hexadecimal digit. -/
def hexValue (c : Char) : Option Nat :=
  if c.isDigit then some (c.toNat - '0'.toNat)
  else if 'a' ≤ c ∧ c ≤ 'f' then some (c.toNat - 'a'.toNat + 10)
  else if 'A' ≤ c ∧ c ≤ 'F' then some (c.toNat - 'A'.toNat + 10)
  else none

/-- The number a list of hexadecimal digits denotes, likewise. -/
def hexadecimal (s : List Char) : Option Nat :=
  if s = [] then none else s.foldlM (fun n c => (hexValue c).map (16 * n + ·)) 0

/-- `strconv.ParseUint(s, 10, bits)`. -/
def parseUint (bits : Nat) (s : List Char) : Option Nat :=
  (decimal s).filter (· < 2 ^ bits)

/-- `strconv.ParseInt`, for the digits of a base and a number of bits. -/
def parseInt (digits : List Char → Option Nat) (bits : Nat) (s : List Char) : Option Int :=
  match s with
  | '-' :: rest => (digits rest).bind fun n => if n ≤ 2 ^ (bits - 1) then some (-n) else none
  | '+' :: rest => (digits rest).bind fun n => if n < 2 ^ (bits - 1) then some n else none
  | rest => (digits rest).bind fun n => if n < 2 ^ (bits - 1) then some n else none

/-- `strconv.Atoi`, on a platform with 64-bit integers. -/
def atoi (s : List Char) : Option Int :=
  match s with
  | '-' :: digits => (decimal digits).bind fun n => if n ≤ 2 ^ 63 then some (-n) else none
  | '+' :: digits => (decimal digits).bind fun n => if n < 2 ^ 63 then some n else none
  | digits => (decimal digits).bind fun n => if n < 2 ^ 63 then some n else none

/-- The loop of `strconv.ParseUint` to base ten, from a number on: what it
    returns beside a range error too, and `none` for a syntax error. -/
def digitsValue (n : Nat) : List Char → Option Nat
  | [] => some n
  | c :: cs =>
      if c.isDigit then
        let n := 10 * n + (c.toNat - '0'.toNat)
        -- A number of more than 64 bits ends the loop, whatever comes after.
        if n < 2 ^ 64 then digitsValue n cs else some (2 ^ 64 - 1)
      else none

/-- The number `strconv.Atoi` returns, whether or not it also returns an error:
    zero for a text that is no number, and the nearest integer for a number that
    is too large. -/
def atoiValue (s : List Char) : Int :=
  let digits (s : List Char) : Option Nat := if s = [] then none else digitsValue 0 s
  match s with
  | '-' :: rest => (digits rest).elim 0 fun n => -(min n (2 ^ 63) : Nat)
  | '+' :: rest => (digits rest).elim 0 fun n => (min n (2 ^ 63 - 1) : Nat)
  | rest => (digits rest).elim 0 fun n => (min n (2 ^ 63 - 1) : Nat)

example : fields " 36  25 0:31 ".toList = ["36".toList, "25".toList, "0:31".toList] := by decide

example : atoi "-12".toList = some (-12) ∧ atoi "1e3".toList = none := by decide

example : parseInt hexadecimal 32 "1f".toList = some 31 ∧ atoiValue "x".toList = 0 := by decide

example : atoiValue "99999999999999999999x".toList = 2 ^ 63 - 1 ∧ atoiValue "9x".toList = 0 := by
  decide

end LatencyExporter
