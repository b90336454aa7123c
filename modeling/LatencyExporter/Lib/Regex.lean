import Mathlib.Data.List.Basic

/-!
# Regular Expressions with Submatches

Regular expressions the way backtracking searches for them. A pattern can match
the beginning of a text in several ways, and `run` lists them in the order in
which a backtracking matcher would come upon them: as many characters of a class
as possible first, and an optional part first with it and then without. `find`
goes through the text from left to right and takes the first way at the first
place where there is one. This is the leftmost-first match, and the text of its
groups are the submatches.

`Matches` leaves the order out. It says in which ways a pattern can match at
all, and `mem_run_iff` that these are the ways that are listed. If all ways in
which a pattern matches in a text agree on the submatches, the order is of no
consequence, and `find_map_iff` says so. For patterns whose parts exclude one
another this is how one gets rid of it.

Only what can be repeated is a single character of a class. A repeated pattern
could match the empty text over and over, and needs a rule for this.

## Main definitions

* `Pattern`: Regular expressions.
* `concat`, `lit`, `rep`, `plus`: Derived patterns.
* `Hit`, `Hit.submatch`: A way to match, and its submatches.
* `run`: All ways to match the beginning of a text, by preference.
* `find`: The leftmost-first match in a text.
* `Matches`: The ways to match, without the order.
* `Plain`: A pattern without groups.

## Theorems

* `mem_runMany_iff`, `mem_run_iff`: What is listed is what matches.
* `find_sound`, `find_isSome`: What is found matches, and all that matches is found.
* `find_map_iff`: A pattern that matches in one way only.
* `matches_concat_nil`, `matches_concat_cons`, `matches_concat_endText`: Patterns one
  after the other.
* `Plain.concat_cons`, `Plain.concat_group`: Those without groups first.
* `Plain.many`, `Plain.opt`, `Plain.lit`, `Plain.rep`, `Plain.plus`: What they match.
* `matches_concat_lit`: A fixed text first.
-/

namespace Regex

variable {α : Type}

/-- Regular expressions over characters of any kind. -/
inductive Pattern (α : Type) where
  | empty
  | cls (p : α → Bool)
  | many (p : α → Bool)
  | seq (r s : Pattern α)
  | opt (r : Pattern α)
  | group (n : Nat) (r : Pattern α)
  | endText

namespace Pattern

/-- Patterns one after the other. -/
def concat (rs : List (Pattern α)) : Pattern α := rs.foldr seq empty

/-- A fixed text. -/
def lit [DecidableEq α] (s : List α) : Pattern α := concat (s.map fun c => cls (· = c))

/-- A number of characters of a class. -/
def rep (n : Nat) (p : α → Bool) : Pattern α := concat (List.replicate n (cls p))

/-- At least one character of a class. -/
def plus (p : α → Bool) : Pattern α := seq (cls p) (many p)

end Pattern

/-- A way to match the beginning of a text: what is matched, what is left, and
    what is in the groups. -/
structure Hit (α : Type) where
  text : List α
  rest : List α
  groups : List (Nat × List α)

/-- The text of a group, empty if the group has none. -/
def Hit.submatch (h : Hit α) (n : Nat) : List α := (h.groups.lookup n).getD []

/-- One way to match after another. -/
def Hit.append (h h' : Hit α) : Hit α := ⟨h.text ++ h'.text, h'.rest, h.groups ++ h'.groups⟩

/-- Match characters of a class, preferably more. -/
def runMany (p : α → Bool) : List α → List (Hit α)
  | [] => [⟨[], [], []⟩]
  | c :: cs =>
      if p c then
        -- The ways that take more come first, and taking nothing comes last.
        (runMany p cs).map (fun h => ⟨c :: h.text, h.rest, h.groups⟩) ++ [⟨[], c :: cs, []⟩]
      else [⟨[], c :: cs, []⟩]

/-- All ways to match the beginning of a text, by preference. -/
def run : Pattern α → List α → List (Hit α)
  | .empty, t => [⟨[], t, []⟩]
  | .cls p, t => match t with
      | [] => []
      | c :: cs => if p c then [⟨[c], cs, []⟩] else []
  | .many p, t => runMany p t
  | .seq r s, t => (run r t).flatMap fun h => (run s h.rest).map h.append
  -- With the optional part first.
  | .opt r, t => run r t ++ [⟨[], t, []⟩]
  | .group n r, t => (run r t).map fun h => ⟨h.text, h.rest, (n, h.text) :: h.groups⟩
  | .endText, t => match t with
      | [] => [⟨[], [], []⟩]
      | _ :: _ => []

/-- The leftmost-first match in a text. -/
def find (r : Pattern α) : List α → Option (Hit α)
  | [] => (run r []).head?
  | c :: cs => match (run r (c :: cs)).head? with
      | some h => some h
      | none => find r cs

/-- The pattern can match `text` before `rest`, with these groups. -/
def Matches : Pattern α → List α → List α → List (Nat × List α) → Prop
  | .empty, text, _, g => text = [] ∧ g = []
  | .cls p, text, _, g => (∃ c, p c = true ∧ text = [c]) ∧ g = []
  | .many p, text, _, g => (∀ c ∈ text, p c = true) ∧ g = []
  | .seq r s, text, rest, g => ∃ x y gx gy, text = x ++ y ∧ g = gx ++ gy ∧
      -- The first part has the text of the second one ahead of it.
      Matches r x (y ++ rest) gx ∧ Matches s y rest gy
  | .opt r, text, rest, g => Matches r text rest g ∨ text = [] ∧ g = []
  | .group n r, text, rest, g => ∃ g', Matches r text rest g' ∧ g = (n, text) :: g'
  | .endText, text, rest, g => text = [] ∧ rest = [] ∧ g = []

theorem mem_runMany_iff (p : α → Bool) (t : List α) (h : Hit α) :
    h ∈ runMany p t ↔ t = h.text ++ h.rest ∧ (∀ c ∈ h.text, p c = true) ∧ h.groups = [] := by
  rcases h with ⟨text, rest, g⟩
  induction t generalizing text with
  | nil =>
      simp only [runMany, List.mem_singleton, Hit.mk.injEq]
      constructor
      · rintro ⟨rfl, rfl, rfl⟩
        exact ⟨rfl, fun c hc => absurd hc List.not_mem_nil, rfl⟩
      · rintro ⟨heq, _, rfl⟩
        rcases List.append_eq_nil_iff.mp heq.symm with ⟨rfl, rfl⟩
        exact ⟨rfl, rfl, rfl⟩
  | cons c cs ih =>
      have hstop : (⟨text, rest, g⟩ : Hit α) = ⟨[], c :: cs, []⟩ ↔
          text = [] ∧ c :: cs = rest ∧ g = [] := by
        rw [Hit.mk.injEq, eq_comm (a := rest)]
      by_cases hc : p c = true
      · simp only [runMany, hc, if_true, List.mem_append, List.mem_singleton, hstop, List.mem_map]
        cases text with
        | nil =>
            -- Nothing is matched.
            simp
        | cons d text =>
            -- The first character is matched, and some of the others.
            have hih := ih text
            simp only [reduceCtorEq, false_and, or_false, List.cons_append, List.cons.injEq,
              List.forall_mem_cons]
            constructor
            · rintro ⟨⟨text', rest', g'⟩, hmem, heq⟩
              rw [Hit.mk.injEq, List.cons.injEq] at heq
              rcases heq with ⟨⟨rfl, rfl⟩, rfl, rfl⟩
              rcases hih.mp hmem with ⟨hcs, hall, hg⟩
              exact ⟨⟨rfl, hcs⟩, ⟨hc, hall⟩, hg⟩
            · rintro ⟨⟨rfl, hcs⟩, ⟨_, hall⟩, hg⟩
              exact ⟨⟨text, rest, g⟩, hih.mpr ⟨hcs, hall, hg⟩, rfl⟩
      · -- The first character is not of the class, so nothing is matched.
        simp only [runMany, hc, if_false, List.mem_singleton, hstop, Bool.false_eq_true]
        cases text with
        | nil => simp
        | cons d text =>
            simp only [reduceCtorEq, false_and, List.cons_append, List.cons.injEq,
              List.forall_mem_cons, false_iff]
            rintro ⟨⟨rfl, _⟩, ⟨hd, _⟩, _⟩
            exact hc hd

/-- The ways that are listed are the ways to match. -/
theorem mem_run_iff (r : Pattern α) (t : List α) (h : Hit α) :
    h ∈ run r t ↔ t = h.text ++ h.rest ∧ Matches r h.text h.rest h.groups := by
  induction r generalizing t h with
  | empty =>
      rcases h with ⟨text, rest, g⟩
      simp only [run, Matches, List.mem_singleton, Hit.mk.injEq]
      constructor
      · rintro ⟨rfl, rfl, rfl⟩
        exact ⟨rfl, rfl, rfl⟩
      · rintro ⟨rfl, rfl, rfl⟩
        exact ⟨rfl, rfl, rfl⟩
  | cls p =>
      rcases h with ⟨text, rest, g⟩
      simp only [Matches]
      constructor
      · intro hmem
        cases t with
        | nil => exact absurd hmem List.not_mem_nil
        | cons c cs =>
            simp only [run] at hmem
            split at hmem
            · next hc =>
                rw [List.mem_singleton, Hit.mk.injEq] at hmem
                rcases hmem with ⟨rfl, rfl, rfl⟩
                exact ⟨rfl, ⟨c, hc, rfl⟩, rfl⟩
            · exact absurd hmem List.not_mem_nil
      · rintro ⟨rfl, ⟨c, hc, rfl⟩, rfl⟩
        simp only [run, List.singleton_append, hc, if_true, List.mem_singleton]
  | many p => exact mem_runMany_iff p t h
  | seq r s ihr ihs =>
      simp only [run, Matches, List.mem_flatMap, List.mem_map]
      constructor
      · rintro ⟨h₁, hmem₁, h₂, hmem₂, rfl⟩
        rcases (ihr t h₁).mp hmem₁ with ⟨rfl, hr⟩
        rcases (ihs h₁.rest h₂).mp hmem₂ with ⟨hrest, hs⟩
        rw [hrest] at hr
        refine ⟨?_, h₁.text, h₂.text, h₁.groups, h₂.groups, rfl, rfl, hr, hs⟩
        rw [hrest, Hit.append, List.append_assoc]
      · rintro ⟨rfl, x, y, gx, gy, hx, hg, hr, hs⟩
        refine ⟨⟨x, y ++ h.rest, gx⟩, (ihr _ _).mpr ⟨?_, hr⟩, ⟨y, h.rest, gy⟩,
          (ihs _ _).mpr ⟨rfl, hs⟩, ?_⟩
        · rw [hx, List.append_assoc]
        · rw [Hit.append, ← hx, ← hg]
  | opt r ih =>
      rw [run, List.mem_append, ih, List.mem_singleton, Matches, and_or_left]
      -- What is left is the way that takes nothing.
      refine or_congr_right ?_
      constructor
      · rintro rfl
        exact ⟨rfl, rfl, rfl⟩
      · rcases h with ⟨text, rest, g⟩
        rintro ⟨rfl, rfl, rfl⟩
        rfl
  | group n r ih =>
      simp only [run, Matches, List.mem_map]
      constructor
      · rintro ⟨h₁, hmem, rfl⟩
        rcases (ih t h₁).mp hmem with ⟨ht, hr⟩
        exact ⟨ht, h₁.groups, hr, rfl⟩
      · rintro ⟨ht, g, hr, hg⟩
        refine ⟨⟨h.text, h.rest, g⟩, (ih _ _).mpr ⟨ht, hr⟩, ?_⟩
        rw [← hg]
  | endText =>
      rcases h with ⟨text, rest, g⟩
      simp only [Matches]
      constructor
      · intro hmem
        cases t with
        | nil =>
            rw [run, List.mem_singleton, Hit.mk.injEq] at hmem
            rcases hmem with ⟨rfl, rfl, rfl⟩
            exact ⟨rfl, rfl, rfl, rfl⟩
        | cons c cs => exact absurd hmem List.not_mem_nil
      · rintro ⟨rfl, rfl, rfl, rfl⟩
        exact List.mem_singleton.mpr rfl

/-- What is found matches somewhere in the text. -/
theorem find_sound (r : Pattern α) (t : List α) (h : Hit α) (hfind : find r t = some h) :
    ∃ pre, t = pre ++ (h.text ++ h.rest) ∧ Matches r h.text h.rest h.groups := by
  induction t with
  | nil =>
      rcases (mem_run_iff r [] h).mp (List.mem_of_mem_head? hfind) with ⟨ht, hr⟩
      exact ⟨[], ht, hr⟩
  | cons c cs ih =>
      rw [find] at hfind
      cases hhead : (run r (c :: cs)).head? with
      | some h' =>
          -- A match that starts here is preferred to any later one.
          rw [hhead, Option.some.injEq] at hfind
          rw [← hfind]
          rcases (mem_run_iff r (c :: cs) h').mp (List.mem_of_mem_head? hhead) with ⟨ht, hr⟩
          exact ⟨[], ht, hr⟩
      | none =>
          rw [hhead] at hfind
          rcases ih hfind with ⟨pre, ht, hr⟩
          exact ⟨c :: pre, congrArg (c :: ·) ht, hr⟩

/-- A match further to the right is found if there is none further to the left. -/
theorem find_cons_isSome (r : Pattern α) (c : α) (cs : List α) :
    (find r (c :: cs)).isSome ↔ run r (c :: cs) ≠ [] ∨ (find r cs).isSome := by
  rw [find]
  cases hhead : (run r (c :: cs)).head? with
  | none =>
      rw [List.head?_eq_none_iff] at hhead
      simp only [hhead, ne_eq, not_true_eq_false, false_or]
  | some h =>
      have hne : run r (c :: cs) ≠ [] := List.ne_nil_of_mem (List.mem_of_mem_head? hhead)
      exact iff_of_true rfl (Or.inl hne)

/-- If the pattern matches anywhere in the text, something is found. -/
theorem find_isSome (r : Pattern α) (pre text rest : List α) (g : List (Nat × List α))
    (hr : Matches r text rest g) : (find r (pre ++ (text ++ rest))).isSome := by
  have hmem : (⟨text, rest, g⟩ : Hit α) ∈ run r (text ++ rest) := (mem_run_iff r _ _).mpr ⟨rfl, hr⟩
  have hne : run r (text ++ rest) ≠ [] := List.ne_nil_of_mem hmem
  induction pre with
  | nil =>
      rw [List.nil_append]
      generalize text ++ rest = t at hne
      -- At its own place the search finds this match, or one preferred to it.
      cases t with
      | nil => exact List.isSome_head?.mpr hne
      | cons c cs => exact (find_cons_isSome r c cs).mpr (Or.inl hne)
  | cons c pre ih => exact (find_cons_isSome r c _).mpr (Or.inr ih)

/-- What is found, in some view, if all matches in the text look the same in it.
    `Is` says how they look. -/
theorem find_map_iff {β : Type} (r : Pattern α) (t : List α) (view : Hit α → β) (Is : β → Prop)
    (hmatch : ∀ pre h, t = pre ++ (h.text ++ h.rest) → Matches r h.text h.rest h.groups →
      Is (view h))
    (hsome : ∀ x, Is x → ∃ pre text rest g, t = pre ++ (text ++ rest) ∧ Matches r text rest g)
    (hunique : ∀ x y, Is x → Is y → x = y) (x : β) : (find r t).map view = some x ↔ Is x := by
  have hfound : ∀ h, find r t = some h → Is (view h) := fun h hfind => by
    rcases find_sound r t h hfind with ⟨pre, ht, hr⟩
    exact hmatch pre h ht hr
  constructor
  · intro hmap
    rcases Option.map_eq_some_iff.mp hmap with ⟨h, hfind, rfl⟩
    exact hfound h hfind
  · intro hx
    -- Something is found then, and it cannot look any different.
    rcases hsome x hx with ⟨pre, text, rest, g, ht, hr⟩
    have hisSome := find_isSome r pre text rest g hr
    rw [← ht] at hisSome
    rcases Option.isSome_iff_exists.mp hisSome with ⟨h, hfind⟩
    rw [hfind, Option.map_some, hunique (view h) x (hfound h hfind) hx]

open Pattern

/-- A pattern without groups, given by the texts it matches. -/
def Plain (r : Pattern α) (P : List α → Prop) : Prop :=
  ∀ text rest g, Matches r text rest g ↔ P text ∧ g = []

theorem matches_concat_cons (r : Pattern α) (rs : List (Pattern α)) (text rest : List α)
    (g : List (Nat × List α)) :
    Matches (concat (r :: rs)) text rest g ↔ ∃ x y gx gy, text = x ++ y ∧ g = gx ++ gy ∧
      Matches r x (y ++ rest) gx ∧ Matches (concat rs) y rest gy := Iff.rfl

theorem matches_concat_nil (text rest : List α) (g : List (Nat × List α)) :
    Matches (concat []) text rest g ↔ text = [] ∧ g = [] := Iff.rfl

theorem matches_concat_endText (text rest : List α) (g : List (Nat × List α)) :
    Matches (concat [endText]) text rest g ↔ text = [] ∧ rest = [] ∧ g = [] := by
  constructor
  · rintro ⟨_, _, _, _, rfl, rfl, ⟨rfl, hrest, rfl⟩, rfl, rfl⟩
    exact ⟨rfl, hrest, rfl⟩
  · rintro ⟨rfl, rfl, rfl⟩
    exact ⟨[], [], [], [], rfl, rfl, ⟨rfl, rfl, rfl⟩, rfl, rfl⟩

namespace Plain

variable {r : Pattern α} {P : List α → Prop}

/-- A pattern without groups before others. -/
theorem concat_cons (hr : Plain r P) (rs : List (Pattern α)) (text rest : List α)
    (g : List (Nat × List α)) :
    Matches (concat (r :: rs)) text rest g ↔
      ∃ x y, text = x ++ y ∧ P x ∧ Matches (concat rs) y rest g := by
  rw [matches_concat_cons]
  constructor
  · rintro ⟨x, y, gx, gy, htext, hg, hx, hrs⟩
    rcases (hr x _ gx).mp hx with ⟨hP, rfl⟩
    rw [List.nil_append] at hg
    exact ⟨x, y, htext, hP, hg ▸ hrs⟩
  · rintro ⟨x, y, htext, hP, hrs⟩
    exact ⟨x, y, [], g, htext, rfl, (hr x _ []).mpr ⟨hP, rfl⟩, hrs⟩

/-- A group around a pattern without groups, before others. -/
theorem concat_group (hr : Plain r P) (n : Nat) (rs : List (Pattern α)) (text rest : List α)
    (g : List (Nat × List α)) :
    Matches (concat (group n r :: rs)) text rest g ↔
      ∃ x y g', text = x ++ y ∧ P x ∧ g = (n, x) :: g' ∧ Matches (concat rs) y rest g' := by
  rw [matches_concat_cons]
  constructor
  · rintro ⟨x, y, gx, gy, htext, rfl, ⟨g', hx, rfl⟩, hrs⟩
    rcases (hr x _ g').mp hx with ⟨hP, rfl⟩
    exact ⟨x, y, gy, htext, hP, rfl, hrs⟩
  · rintro ⟨x, y, g', htext, hP, rfl, hrs⟩
    exact ⟨x, y, [(n, x)], g', htext, rfl, ⟨[], (hr x _ []).mpr ⟨hP, rfl⟩, rfl⟩, hrs⟩

theorem many (p : α → Bool) : Plain (.many p) fun x => ∀ c ∈ x, p c = true := fun _ _ _ => Iff.rfl

theorem opt (hr : Plain r P) : Plain (.opt r) fun x => P x ∨ x = [] := fun text rest g => by
  rw [Matches, hr text rest g, or_and_right]

theorem lit [DecidableEq α] (s : List α) : Plain (lit s) (· = s) := by
  intro text rest g
  induction s generalizing text g with
  | nil => exact Iff.rfl
  | cons c s ih =>
      rw [Pattern.lit, List.map_cons, matches_concat_cons, ← Pattern.lit]
      constructor
      · rintro ⟨x, y, gx, gy, rfl, rfl, ⟨⟨d, hd, rfl⟩, rfl⟩, hs⟩
        rcases (ih y gy).mp hs with ⟨rfl, rfl⟩
        rw [of_decide_eq_true hd]
        exact ⟨rfl, rfl⟩
      · rintro ⟨rfl, rfl⟩
        exact ⟨[c], s, [], [], rfl, rfl, ⟨⟨c, decide_eq_true rfl, rfl⟩, rfl⟩,
          (ih s []).mpr ⟨rfl, rfl⟩⟩

theorem rep (n : Nat) (p : α → Bool) :
    Plain (rep n p) fun x => x.length = n ∧ ∀ c ∈ x, p c = true := by
  intro text rest g
  induction n generalizing text g with
  | zero =>
      constructor
      · rintro ⟨rfl, rfl⟩
        exact ⟨⟨rfl, fun c hc => absurd hc List.not_mem_nil⟩, rfl⟩
      · rintro ⟨⟨hlen, _⟩, rfl⟩
        exact ⟨List.eq_nil_of_length_eq_zero hlen, rfl⟩
  | succ n ih =>
      rw [Pattern.rep, List.replicate_succ, matches_concat_cons, ← Pattern.rep]
      constructor
      · rintro ⟨x, y, gx, gy, rfl, rfl, ⟨⟨c, hc, rfl⟩, rfl⟩, hs⟩
        rcases (ih y gy).mp hs with ⟨⟨hlen, hall⟩, rfl⟩
        exact ⟨⟨congrArg Nat.succ hlen, List.forall_mem_cons.mpr ⟨hc, hall⟩⟩, rfl⟩
      · rintro ⟨⟨hlen, hall⟩, rfl⟩
        cases text with
        | nil => exact absurd hlen (Nat.succ_ne_zero n).symm
        | cons c cs =>
            rw [List.forall_mem_cons] at hall
            exact ⟨[c], cs, [], [], rfl, rfl, ⟨⟨c, hall.1, rfl⟩, rfl⟩,
              (ih cs []).mpr ⟨⟨Nat.succ.inj hlen, hall.2⟩, rfl⟩⟩

theorem plus (p : α → Bool) : Plain (plus p) fun x => x ≠ [] ∧ ∀ c ∈ x, p c = true := by
  intro text rest g
  constructor
  · rintro ⟨x, y, gx, gy, rfl, rfl, ⟨⟨c, hc, rfl⟩, rfl⟩, hall, rfl⟩
    exact ⟨⟨List.cons_ne_nil c y, List.forall_mem_cons.mpr ⟨hc, hall⟩⟩, rfl⟩
  · rintro ⟨⟨hne, hall⟩, rfl⟩
    cases text with
    | nil => exact absurd rfl hne
    | cons c cs =>
        rw [List.forall_mem_cons] at hall
        exact ⟨[c], cs, [], [], rfl, rfl, ⟨⟨c, hall.1, rfl⟩, rfl⟩, hall.2, rfl⟩

end Plain

/-- A fixed text before other patterns. -/
theorem matches_concat_lit [DecidableEq α] (s : List α) (rs : List (Pattern α))
    (text rest : List α) (g : List (Nat × List α)) :
    Matches (concat (lit s :: rs)) text rest g ↔
      ∃ y, text = s ++ y ∧ Matches (concat rs) y rest g := by
  rw [(Plain.lit s).concat_cons]
  constructor
  · rintro ⟨_, y, htext, rfl, hrs⟩
    exact ⟨y, htext, hrs⟩
  · rintro ⟨y, htext, hrs⟩
    exact ⟨s, y, htext, rfl, hrs⟩

end Regex
