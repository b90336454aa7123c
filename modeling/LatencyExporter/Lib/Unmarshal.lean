import LatencyExporter.Lib.Json
import Mathlib.Data.List.Forall2
import Mathlib.Data.List.Nodup
import Mathlib.Data.List.Pairwise
import Mathlib.Data.Rat.Defs

/-!
# Reading JSON into Records

How Go's `encoding/json` stores a value in a variable. A decoder is given what
the variable holds and a value; it fails if the value has the wrong type, and
then nothing of the variable is used.

A record is filled member by member, in the order of the text: a member that
fits no field is passed over, and a repeated one is stored again. A member fits
the field of its name, or else one whose name differs in upper and lower case
only. A null leaves a variable as it is, except that it clears a pointer and a
list.

A writer may put the members of an object in any order, and may know more of
them than the reader. What is read depends on neither (`record_of_fills`), as
long as no member is repeated and the fields are parts that have nothing to do
with each other.

## Main definitions

* `Decoder`: Decoders.
* `int`, `uint`, `rational`, `boolean`, `text`, `raw`: Values without parts.
* `pointer`, `slice`, `field`, `record`: Values with parts.
* `unmarshal`: From a text.
* `Commute`, `Independent`: Fields that may be read in any order.
* `Describes`, `Optional`, `EncodesList`: Values to be read.
* `Fills`: What is read from known members.

## Theorems

* `independent_nil`, `independent_cons`: Field by field.
* `commute_field`: Parts that have nothing to do with each other.
* `foldlM_perm`: Changing the order.
* `record_of_fills`: Records are read whatever the order of their members.
* `slice_encodes`: Lists.
-/

namespace Json

/-- A decoder. -/
abbrev Decoder (α : Type) := α → Value → Option α

/-- The integer a number without point and exponent denotes. -/
def Number.toInt (x : Number) : Option Int :=
  if x.fraction = [] ∧ x.exponent = none then
    some (if x.negative then -(x.whole : Int) else x.whole)
  else none

/-- What a number denotes. -/
def Number.toRat (x : Number) : ℚ :=
  let mantissa : Nat := x.fraction.foldl (fun n d => 10 * n + d.val) x.whole
  let exponent : Int := x.exponent.getD 0 - x.fraction.length
  (if x.negative then -(mantissa : ℚ) else mantissa) * (10 : ℚ) ^ exponent

section Decoders

variable {α σ : Type}

/-- A signed integer. -/
def int (bits : Nat) : Decoder Int
  | z, .null => some z
  | _, .num x => x.toInt.filter fun z => -(2 ^ (bits - 1) : Int) ≤ z ∧ z < 2 ^ (bits - 1)
  | _, _ => none

/-- An unsigned integer, which has no sign. -/
def uint (bits : Nat) : Decoder Nat
  | n, .null => some n
  | _, .num x =>
      if x.negative then none else (x.toInt.map Int.toNat).filter fun n => n < 2 ^ bits
  | _, _ => none

/-- A number with a point. -/
def rational : Decoder ℚ
  | q, .null => some q
  | _, .num x => some x.toRat
  | _, _ => none

/-- A truth value. -/
def boolean : Decoder Bool
  | b, .null => some b
  | _, .bool b => some b
  | _, _ => none

/-- A string. -/
def text : Decoder (List Char)
  | s, .null => some s
  | _, .str s => some s
  | _, _ => none

/-- A value that is kept as it is. -/
def raw : Decoder (Option Value) := fun _ v => some (some v)

/-- Whether a value is a null. -/
def Value.isNull : Value → Bool
  | .null => true
  | _ => false

/-- A pointer to a variable, which is made when there is something to store. -/
def pointer (d : Decoder α) (zero : α) : Decoder (Option α)
  | _, .null => some none
  | x, v => (d (x.getD zero) v).map some

/-- A list. -/
def slice (d : Decoder α) (zero : α) : Decoder (List α)
  | _, .null => some []
  | _, .arr vs => vs.mapM (d zero)
  | _, _ => none

/-- A part of a record. -/
def field (get : σ → α) (set : σ → α → σ) (d : Decoder α) : Decoder σ :=
  fun x v => (d (get x) v).map (set x)

/-- Upper and lower case are the same, also for the two characters beyond ASCII
    that are letters of another alphabet in lower or upper case. -/
def foldChar (c : Char) : Char :=
  if c = '\u017f' then 'S' else if c = '\u212a' then 'K' else c.toUpper

/-- The field a member fits. -/
def findField (fields : List (List Char × α)) (key : List Char) : Option α :=
  match fields.find? fun f => f.1 = key with
  | some f => some f.2
  | none => (fields.find? fun f => f.1.map foldChar = key.map foldChar).map Prod.snd

/-- A member of a record. -/
def member (fields : List (List Char × Decoder σ)) (x : σ) (m : List Char × Value) : Option σ :=
  match findField fields m.1 with
  | none => some x
  | some d => d x m.2

/-- A record. -/
def record (fields : List (List Char × Decoder σ)) : Decoder σ
  | x, .null => some x
  | x, .obj ms => ms.foldlM (member fields) x
  | _, _ => none

/-- The text of a value into a new variable. -/
def unmarshal (d : Decoder α) (zero : α) (cs : List Char) : Option α := (parse cs).bind (d zero)

end Decoders

section Order

variable {α σ : Type}

/-- Two decoders that may be used in either order. -/
def Commute (d d' : Decoder σ) : Prop :=
  ∀ s v v', ((d s v).bind fun s => d' s v') = (d' s v').bind fun s => d s v

/-- The fields of a record, in either order. -/
def Independent (fields : List (List Char × Decoder σ)) : Prop :=
  fields.Pairwise fun f f' => Commute f.2 f'.2

theorem independent_nil : Independent ([] : List (List Char × Decoder σ)) := List.Pairwise.nil

/-- One field more, in either order with each of the others. -/
theorem independent_cons {f : List Char × Decoder σ} {fields : List (List Char × Decoder σ)} :
    Independent (f :: fields) ↔ (∀ f' ∈ fields, Commute f.2 f'.2) ∧ Independent fields :=
  List.pairwise_cons

/-- Parts that have nothing to do with each other. -/
theorem commute_field {β : Type} {get : σ → α} {set : σ → α → σ} {d : Decoder α} {get' : σ → β}
    {set' : σ → β → σ} {d' : Decoder β} (hget : ∀ s x, get' (set s x) = get' s)
    (hget' : ∀ s y, get (set' s y) = get s)
    (hset : ∀ s x y, set' (set s x) y = set (set' s y) x) :
    Commute (field get set d) (field get' set' d') := by
  intro s v v'
  unfold field
  -- Each of the two may fail, and then both orders fail.
  cases hx : d (get s) v with
  | none =>
      cases hy : d' (get' s) v' with
      | none => rfl
      | some y => simp only [Option.map_none, Option.map_some, Option.bind_none, Option.bind_some,
          hget', hx]
  | some x =>
      cases hy : d' (get' s) v' with
      | none => simp only [Option.map_none, Option.map_some, Option.bind_none, Option.bind_some,
          hget, hy]
      | some y => simp only [Option.map_some, Option.bind_some, hget, hget', hx, hy, hset]

theorem foldlM_perm {f : σ → α → Option σ} {as bs : List α} (h : as.Perm bs)
    (hcomm : ∀ a ∈ as, ∀ b ∈ as, ∀ x, ((f x a).bind fun y => f y b) = (f x b).bind fun y => f y a)
    (x : σ) : as.foldlM f x = bs.foldlM f x := by
  induction h generalizing x with
  | nil => rfl
  | cons a _ ih =>
      rw [List.foldlM_cons, List.foldlM_cons]
      refine bind_congr fun y => ih (fun b hb c hc => ?_) y
      exact hcomm b (List.mem_cons_of_mem _ hb) c (List.mem_cons_of_mem _ hc)
  -- Only here the order changes, and by two neighbours.
  | swap a b cs =>
      have hba := hcomm b List.mem_cons_self a (List.mem_cons_of_mem _ List.mem_cons_self) x
      simp only [List.foldlM_cons, Option.bind_eq_bind, ← Option.bind_assoc]
      rw [hba]
  | trans hab _ ih ih' =>
      rw [ih hcomm x]
      exact ih' (fun b hb c hc => hcomm b (hab.mem_iff.mpr hb) c (hab.mem_iff.mpr hc)) x

theorem foldlM_id {f : σ → α → Option σ} {as : List α} (h : ∀ a ∈ as, ∀ x, f x a = some x)
    (x : σ) : as.foldlM f x = some x := by
  induction as with
  | nil => rfl
  | cons a as ih =>
      rw [List.foldlM_cons, h a List.mem_cons_self]
      exact ih fun b hb => h b (List.mem_cons_of_mem _ hb)

end Order

section Encodings

variable {α σ : Type}

/-- An object with known members, and others that fit no field. The members are
    in any order, and no two of them have the same key. -/
def Describes {δ : Type} (fields : List (List Char × δ)) (known : List (List Char × Value))
    (v : Value) : Prop :=
  ∃ extra ms, v = .obj ms ∧ ms.Perm (known ++ extra) ∧ (ms.map Prod.fst).Nodup ∧
    ∀ m ∈ extra, findField fields m.1 = none

/-- A member that may be missing. -/
def Optional (key : String) (enc : α → Value → Prop) (x : Option α)
    (ms : List (List Char × Value)) : Prop :=
  match x with
  | none => ms = []
  | some x => ∃ v, enc x v ∧ ms = [(key.toList, v)]

/-- A list of things, one after the other. -/
def EncodesList (enc : α → Value → Prop) (xs : List α) (v : Value) : Prop :=
  ∃ vs, v = .arr vs ∧ List.Forall₂ enc xs vs

/-- Members that are stored one after the other, each in the field of its name. -/
inductive Fills (fields : List (List Char × Decoder σ)) :
    σ → List (List Char × Value) → σ → Prop where
  | nil (s : σ) : Fills fields s [] s
  | cons {s s' s'' : σ} {key : List Char} {v : Value} {ms : List (List Char × Value)}
      {d : Decoder σ} (hkey : fields.find? (fun f => f.1 = key) = some (key, d))
      (hv : d s v = some s') (hrest : Fills fields s' ms s'') :
      Fills fields s ((key, v) :: ms) s''

theorem field_some {get : σ → α} {set : σ → α → σ} {d : Decoder α} {s : σ} {v : Value} {x : α}
    (h : d (get s) v = some x) : field get set d s v = some (set s x) := by
  rw [field, h, Option.map_some]

theorem findField_of_find {δ : Type} {fields : List (List Char × δ)} {key : List Char} {d : δ}
    (h : fields.find? (fun f => f.1 = key) = some (key, d)) : findField fields key = some d := by
  rw [findField, h]

/-- A member that may be missing, for a part that has its default. -/
theorem Fills.default {β : Type} {fields : List (List Char × Decoder σ)} {key : String}
    {enc : α → Value → Prop} {x : Option α} {known ms : List (List Char × Value)} {get : σ → β}
    {set : σ → β → σ} {d : Decoder β} {f : α → β} {zero y : β} {s s' : σ}
    (h : Optional key enc x known)
    (hkey : fields.find? (fun f => f.1 = key.toList) = some (key.toList, field get set d))
    (hd : ∀ x v, enc x v → d (get s) v = some (f x)) (hs : set s zero = s)
    (hy : x.elim zero f = y) (hrest : Fills fields (set s y) ms s') :
    Fills fields s (known ++ ms) s' := by
  subst hy
  -- A missing member leaves the part as it was, which is its default.
  cases x with
  | none =>
      rw [show known = [] from h, List.nil_append]
      exact hs ▸ hrest
  | some x =>
      obtain ⟨v, hv, rfl⟩ := h
      exact .cons hkey (field_some (hd x v hv)) hrest

/-- The same for a part that is a pointer. -/
theorem Fills.optional {fields : List (List Char × Decoder σ)} {key : String}
    {enc : α → Value → Prop} {x : Option α} {known ms : List (List Char × Value)}
    {get : σ → Option α} {set : σ → Option α → σ} {d : Decoder (Option α)} {s s' : σ}
    (h : Optional key enc x known)
    (hkey : fields.find? (fun f => f.1 = key.toList) = some (key.toList, field get set d))
    (hd : ∀ x v, enc x v → d (get s) v = some (some x)) (hs : set s none = s)
    (hrest : Fills fields (set s x) ms s') : Fills fields s (known ++ ms) s' := by
  refine .default h hkey hd hs ?_ hrest
  cases x with
  | none => rfl
  | some x => rfl

theorem Fills.foldlM {fields : List (List Char × Decoder σ)} {s s' : σ}
    {known : List (List Char × Value)} (h : Fills fields s known s') :
    known.foldlM (member fields) s = some s' := by
  induction h with
  | nil s => rfl
  | cons hkey hv _ ih =>
      rw [List.foldlM_cons, member, findField_of_find hkey]
      simp only [hv, Option.bind_eq_bind, Option.bind_some, ih]

theorem Fills.find {fields : List (List Char × Decoder σ)} {s s' : σ}
    {known : List (List Char × Value)} (h : Fills fields s known s') :
    ∀ m ∈ known, ∃ d, fields.find? (fun f => f.1 = m.1) = some (m.1, d) := by
  induction h with
  | nil s => exact fun m hm => absurd hm List.not_mem_nil
  | cons hkey _ _ ih => exact List.forall_mem_cons.mpr ⟨⟨_, hkey⟩, ih⟩

/-- What is read does not depend on the order of the members, nor on those that
    fit no field. -/
theorem record_of_fills {fields : List (List Char × Decoder σ)} (hfields : Independent fields)
    {known : List (List Char × Value)} {v : Value} (h : Describes fields known v) {s s' : σ}
    (hfills : Fills fields s known s') : record fields s v = some s' := by
  obtain ⟨extra, ms, rfl, hperm, hnodup, hextra⟩ := h
  have hskip : ∀ m ∈ extra, ∀ x, member fields x m = some x := by
    intro m hm x
    rw [member, hextra m hm]
  -- Two members may be exchanged: one fits no field, or they fit different ones.
  have hcomm : ∀ a ∈ ms, ∀ b ∈ ms, ∀ x, ((member fields x a).bind fun y => member fields y b) =
      (member fields x b).bind fun y => member fields y a := by
    intro a ha b hb x
    rcases List.mem_append.mp (hperm.mem_iff.mp ha) with haknown | haextra
    · rcases List.mem_append.mp (hperm.mem_iff.mp hb) with hbknown | hbextra
      · by_cases hab : a.1 = b.1
        · -- With one key they are one member.
          rw [List.inj_on_of_nodup_map hnodup ha hb hab]
        · obtain ⟨d, hd⟩ := hfills.find a haknown
          obtain ⟨d', hd'⟩ := hfills.find b hbknown
          have hsymm : Std.Symm fun f f' : List Char × Decoder σ => Commute f.2 f'.2 :=
            ⟨fun _ _ h s v v' => (h s v' v).symm⟩
          have hdd : Commute d d' := List.Pairwise.forall hfields
            (List.mem_of_find?_eq_some hd) (List.mem_of_find?_eq_some hd')
            fun heq => hab (Prod.mk.inj heq).1
          simp only [member, findField_of_find hd, findField_of_find hd']
          exact hdd x a.2 b.2
      · simp only [hskip b hbextra, Option.bind_some, Option.bind_fun_some]
    · simp only [hskip a haextra, Option.bind_some, Option.bind_fun_some]
  -- So the known members can be read first.
  rw [record, foldlM_perm hperm hcomm, List.foldlM_append, hfills.foldlM]
  exact foldlM_id hskip s'

/-- A record is not a null. -/
theorem pointer_describes {fields : List (List Char × Decoder σ)} {zero : σ}
    {known : List (List Char × Value)} {v : Value} (h : Describes fields known v)
    (x : Option σ) :
    pointer (record fields) zero x v = (record fields (x.getD zero) v).map some := by
  obtain ⟨extra, ms, rfl, _⟩ := h
  rfl

/-- A list. -/
theorem slice_encodes {enc : α → Value → Prop} {d : Decoder α} {zero : α}
    (hd : ∀ x v, enc x v → d zero v = some x) {xs : List α} {v : Value}
    (h : EncodesList enc xs v) (old : List α) : slice d zero old v = some xs := by
  obtain ⟨vs, rfl, h⟩ := h
  rw [slice]
  -- Elements are read into new variables, not into those of the old list.
  induction h with
  | nil => rfl
  | cons hx _ ih =>
      rw [List.mapM_cons, hd _ _ hx, ih]
      rfl

theorem unmarshal_written {d : Decoder α} {zero : α} {v : Value} {cs : List Char}
    (h : Written v cs) : unmarshal d zero cs = d zero v := by
  rw [unmarshal, parse_written h, Option.bind_some]

end Encodings

end Json
