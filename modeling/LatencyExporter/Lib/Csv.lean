import Mathlib.Data.List.DropRight
import Mathlib.Data.List.Induction

/-!
# Comma-Separated Values

A reader for comma-separated values in the manner of RFC 4180, with leading
white space trimmed and records of any number of fields, and a writer that
quotes every field.

The reader goes through the text one character at a time. It follows
`encoding/csv` of Go in what the RFC leaves open: empty lines are skipped, a
quote within a bare field is an error, and so is anything but a separator after
the closing quote of a quoted field. A carriage return before a line feed or
before the end of the text is dropped, also within quotes.

That last point is why reading does not undo writing to the letter.
`readAll_render` says what comes back: the records that have fields, with line
ends in the fields changed. What the text ends with does not matter, as
`read_concat_newline` shows for any text, so the end can be trimmed.

## Main definitions

* `Error`, `Mode`, `Next`: Errors, the places of the reader, and what a
  character leads to.
* `step`, `finish`, `read`: The reader.
* `unixLines`, `readAll`: Line ends, and reading a text.
* `escape`, `quote`, `renderRow`, `render`: The writer.

## Theorems

* `read_concat_newline`: A line feed at the end changes nothing.
* `read_escape`, `read_renderRow`, `read_render`: Reading what was written.
* `unixLines_append`, `unixLines_render`: Line ends of what was written.
* `head?_render`, `render_ends`: How a written text begins and ends.
* `readAll_render`: Reading a written text whose end is trimmed.
-/

namespace Csv

/-- What can be wrong with a text. -/
inductive Error where
  | bareQuote
  | quote
deriving DecidableEq

/-- Where the reader is: at the beginning of a line, at the beginning of a field
    or in the white space there, in a bare field, in a quoted field, or after a
    quote in a quoted field. -/
inductive Mode where
  | line
  | field
  | bare (cell : List Char)
  | quoted (cell : List Char)
  | closed (cell : List Char)

/-- What a character leads to: the reader goes on, a field ends, a record ends
    with a field, or the text is wrong. -/
inductive Next where
  | stay (mode : Mode)
  | cell (cell : List Char)
  | record (cell : List Char)
  | fail (err : Error)

section Reader

variable (space : Char → Bool)

/-- The first character of a field. -/
def startField (c : Char) : Next :=
  if c = '\n' then .record []
  else if space c then .stay .field
  else if c = '"' then .stay (.quoted [])
  else if c = ',' then .cell []
  else .stay (.bare [c])

/-- One character. -/
def step : Mode → Char → Next
  | .line, c => if c = '\n' then .stay .line else startField space c
  | .field, c => startField space c
  | .bare cell, c =>
      if c = ',' then .cell cell
      else if c = '\n' then .record cell
      else if c = '"' then .fail .bareQuote
      else .stay (.bare (cell ++ [c]))
  | .quoted cell, c => if c = '"' then .stay (.closed cell) else .stay (.quoted (cell ++ [c]))
  | .closed cell, c =>
      if c = '"' then .stay (.quoted (cell ++ ['"']))
      else if c = ',' then .cell cell
      else if c = '\n' then .record cell
      else .fail .quote

/-- The end of the text, after some fields of a record. -/
def finish (row : List (List Char)) : Mode → Except Error (List (List (List Char)))
  | .line => .ok []
  | .field => .ok [row ++ [[]]]
  | .bare cell => .ok [row ++ [cell]]
  | .quoted _ => .error .quote
  | .closed cell => .ok [row ++ [cell]]

/-- Read on, after some fields of a record. -/
def read (mode : Mode) (row : List (List Char)) :
    List Char → Except Error (List (List (List Char)))
  | [] => finish row mode
  | c :: cs => match step space mode c with
    | .stay mode => read mode row cs
    | .cell cell => read .field (row ++ [cell]) cs
    | .record cell => (read .line [] cs).map ((row ++ [cell]) :: ·)
    | .fail err => .error err

/-- Drop the carriage returns before line feeds. -/
def unixLines : List Char → List Char
  | [] => []
  | c :: cs => if c = '\r' ∧ cs.head? = some '\n' then unixLines cs else c :: unixLines cs

/-- The records of a text. -/
def readAll (text : List Char) : Except Error (List (List (List Char))) :=
  let text := unixLines text
  read space .line [] (if text.getLast? = some '\r' then text.dropLast else text)

end Reader

example : readAll (· = ' ') "a, \"b\"\"\r\nc\"\r\n\nd,".toList
    = .ok [["a".toList, "b\"\nc".toList], ["d".toList, []]] := by decide

/-- Double the quotes. -/
def escape : List Char → List Char
  | [] => []
  | c :: cs => if c = '"' then '"' :: '"' :: escape cs else c :: escape cs

/-- A quoted field. -/
def quote (cell : List Char) : List Char := '"' :: (escape cell ++ ['"'])

/-- A record with every field quoted. -/
def renderRow (row : List (List Char)) : List Char := [','].intercalate (row.map quote)

/-- Records, with a line end between any two. -/
def render (eol : List Char) (rows : List (List (List Char))) : List Char :=
  eol.intercalate (rows.map renderRow)

/-- A field before others is followed by a comma. -/
theorem renderRow_cons_cons (cell cell' : List Char) (row : List (List Char)) :
    renderRow (cell :: cell' :: row) = quote cell ++ ',' :: renderRow (cell' :: row) := by
  rw [renderRow, List.map_cons, List.map_cons, List.intercalate_cons_cons, ← List.map_cons,
    ← renderRow, List.append_assoc, List.singleton_append]

theorem render_cons_cons (eol : List Char) (row row' : List (List Char))
    (rows : List (List (List Char))) :
    render eol (row :: row' :: rows) = renderRow row ++ (eol ++ render eol (row' :: rows)) := by
  rw [render, List.map_cons, List.map_cons, List.intercalate_cons_cons, ← List.map_cons, ← render,
    List.append_assoc]

theorem renderRow_singleton (cell : List Char) : renderRow [cell] = quote cell :=
  List.intercalate_singleton

theorem render_singleton (eol : List Char) (row : List (List Char)) :
    render eol [row] = renderRow row := List.intercalate_singleton

/-- Every field is quoted, so a record begins with a quote. -/
theorem head?_renderRow (cell : List Char) (row : List (List Char)) :
    (renderRow (cell :: row)).head? = some '"' := by
  cases row with
  | nil =>
      rw [renderRow_singleton]
      rfl
  | cons cell' row =>
      rw [renderRow_cons_cons]
      rfl

/-- A text that begins with a record begins with a quote. -/
theorem head?_render (eol cell : List Char) (row : List (List Char))
    (rows : List (List (List Char))) :
    (render eol ((cell :: row) :: rows)).head? = some '"' := by
  cases rows with
  | nil => rw [render_singleton, head?_renderRow]
  | cons row' rows =>
      rw [render_cons_cons, List.head?_append, head?_renderRow]
      rfl

section Reading

variable (space : Char → Bool)

/-- A text may end with a line feed or without. In every place of the reader a
    line feed does what the end of the text does. -/
theorem read_concat_newline (mode : Mode) (row : List (List Char)) (text : List Char) :
    read space mode row (text ++ ['\n']) = read space mode row text := by
  -- The reader is in some place and has some fields, which both change as it goes on.
  induction text generalizing mode row with
  | nil => cases mode <;> rfl
  | cons c cs ih =>
      simp only [List.cons_append, read]
      cases step space mode c with
      | stay mode => exact ih mode row
      | cell cell => exact ih .field (row ++ [cell])
      | record cell =>
          dsimp only
          rw [ih]
      | fail err => rfl

/-- Neither do more line feeds at the end make a difference, as empty lines are no
    records. -/
theorem read_append_newlines (mode : Mode) (row : List (List Char)) (text : List Char) (k : Nat) :
    read space mode row (text ++ List.replicate k '\n') = read space mode row text := by
  induction k with
  | zero => rw [List.replicate_zero, List.append_nil]
  | succ k ih =>
      rw [List.replicate_succ', ← List.append_assoc, read_concat_newline, ih]

/-- The rest of a quoted field. -/
theorem read_escape (row : List (List Char)) (acc cell tail : List Char) :
    read space (.quoted acc) row (escape cell ++ '"' :: tail)
      = read space (.closed (acc ++ cell)) row tail := by
  -- What has been read of the field is generalised.
  induction cell generalizing acc with
  | nil => rw [escape, List.nil_append, List.append_nil, read, step, if_pos rfl]
  | cons c cs ih =>
      by_cases hc : c = '"'
      · -- A doubled quote closes the field and opens it again.
        rw [escape, if_pos hc, List.cons_append, List.cons_append, read, step, if_pos rfl]
        simp only [read, step, if_true]
        rw [ih, hc, List.append_assoc, List.singleton_append]
      · rw [escape, if_neg hc, List.cons_append, read, step, if_neg hc]
        simp only []
        rw [ih, List.append_assoc, List.singleton_append]

variable (hquote : space '"' = false)
include hquote

/-- A quoted field at the beginning of a line or of a field is read up to its
    closing quote. -/
theorem read_quote (mode : Mode) (hmode : mode = .line ∨ mode = .field) (row : List (List Char))
    (cell tail : List Char) :
    read space mode row (quote cell ++ tail) = read space (.closed cell) row tail := by
  have hstep : step space mode '"' = .stay (.quoted []) := by
    rcases hmode with rfl | rfl <;> simp [step, startField, hquote]
  rw [quote, List.cons_append, List.append_assoc, List.singleton_append, read, hstep]
  exact read_escape space row [] cell tail

/-- The fields of a record that ends with a line feed. -/
theorem read_renderRow (mode : Mode) (hmode : mode = .line ∨ mode = .field)
    (row : List (List Char)) (cell : List Char) (cells : List (List Char)) (tail : List Char) :
    read space mode row (renderRow (cell :: cells) ++ '\n' :: tail)
      = (read space .line [] tail).map ((row ++ cell :: cells) :: ·) := by
  -- Only the first field can be at the beginning of a line; the others come after a comma.
  induction cells generalizing mode row cell with
  | nil =>
      rw [renderRow_singleton, read_quote space hquote mode hmode]
      rfl
  | cons cell' cells ih =>
      rw [renderRow_cons_cons, List.append_assoc, read_quote space hquote mode hmode,
        List.cons_append]
      change read space .field (row ++ [cell]) _ = _
      rw [ih .field (Or.inr rfl), List.append_assoc, List.singleton_append]

/-- A line. Without fields it is empty and no record. -/
theorem read_line (row : List (List Char)) (tail : List Char) :
    read space .line [] (renderRow row ++ '\n' :: tail)
      = (read space .line [] tail).map ([row].filter (· ≠ []) ++ ·) := by
  cases row with
  | nil =>
      change read space .line [] tail = _
      cases read space .line [] tail <;> rfl
  | cons cell cells =>
      rw [read_renderRow space hquote .line (Or.inl rfl)]
      rfl

/-- Records are read back, but for those without fields, which are empty lines. -/
theorem read_render (rows : List (List (List Char))) :
    read space .line [] (render ['\n'] rows) = .ok (rows.filter (· ≠ [])) := by
  -- With a line feed at the end every record is a line, also the last one.
  rw [← read_concat_newline]
  induction rows with
  | nil => rfl
  | cons row rows ih =>
      cases rows with
      | nil =>
          rw [render_singleton, read_line space hquote, List.filter_singleton]
          simp only [read, finish, Except.map, List.append_nil]
      | cons row' rows =>
          rw [render_cons_cons, List.append_assoc, List.append_assoc, List.singleton_append,
            read_line space hquote, ih, Except.map, ← List.filter_append, List.singleton_append]

end Reading

section LineEnds

theorem unixLines_cons (c : Char) (cs : List Char) :
    unixLines (c :: cs)
      = if c = '\r' ∧ cs.head? = some '\n' then unixLines cs else c :: unixLines cs := rfl

/-- Line ends are changed on both sides of a place unless one is cut in two. -/
theorem unixLines_append (s t : List Char)
    (hcut : s.getLast? ≠ some '\r' ∨ t.head? ≠ some '\n') :
    unixLines (s ++ t) = unixLines s ++ unixLines t := by
  induction s with
  | nil => rfl
  | cons c cs ih =>
      cases cs with
      | nil =>
          -- The last character of the first part meets the first one of the second.
          have hkeep : ¬ (c = '\r' ∧ t.head? = some '\n') := by
            rintro ⟨rfl, ht⟩
            rcases hcut with hcut | hcut
            · exact hcut rfl
            · exact hcut ht
          rw [List.singleton_append, unixLines, if_neg hkeep]
          simp [unixLines]
      | cons c' cs =>
          have ih := ih (by rwa [List.getLast?_cons_cons] at hcut)
          have hhead : (c' :: cs ++ t).head? = (c' :: cs).head? := rfl
          rw [List.cons_append, unixLines_cons, unixLines_cons c, hhead, ih]
          split <;> rfl

/-- The last character of a text is kept. -/
theorem getLast?_unixLines (s : List Char) : (unixLines s).getLast? = s.getLast? := by
  induction s with
  | nil => rfl
  | cons c cs ih =>
      cases cs with
      | nil => simp [unixLines]
      | cons c' cs =>
          rw [List.getLast?_cons_cons, ← ih, unixLines]
          split
          · rfl
          · have hne : unixLines (c' :: cs) ≠ [] := by
              intro hnil
              rw [hnil, List.getLast?_nil, eq_comm, List.getLast?_eq_none_iff] at ih
              exact absurd ih (List.cons_ne_nil c' cs)
            rcases List.exists_cons_of_ne_nil hne with ⟨d, ds, hd⟩
            rw [hd, List.getLast?_cons_cons]

theorem head?_escape (cell : List Char) : (escape cell).head? = cell.head? := by
  cases cell with
  | nil => rfl
  | cons c cs =>
      rw [escape]
      split
      · next hc => rw [hc, List.head?_cons, List.head?_cons]
      · rfl

/-- Quotes are doubled before or after line ends are changed. -/
theorem unixLines_escape (cell : List Char) :
    unixLines (escape cell) = escape (unixLines cell) := by
  induction cell with
  | nil => rfl
  | cons c cs ih =>
      by_cases hc : c = '"'
      · rw [hc]
        simp [escape, unixLines, ih]
      · rw [escape, if_neg hc, unixLines, unixLines, head?_escape, ih]
        split
        · rfl
        · rw [escape, if_neg hc]

/-- No line end is cut by the quotes around a field. -/
theorem unixLines_quote (cell : List Char) : unixLines (quote cell) = quote (unixLines cell) := by
  have hend : unixLines (escape cell ++ ['"']) = escape (unixLines cell) ++ ['"'] := by
    rw [unixLines_append _ _ (Or.inr (by simp)), unixLines_escape]
    rfl
  rw [quote, unixLines, if_neg (by simp), hend, quote]

theorem getLast?_quote (cell : List Char) : (quote cell).getLast? = some '"' := by
  rw [quote, ← List.cons_append, List.getLast?_concat]

theorem getLast?_renderRow (cell : List Char) (row : List (List Char)) :
    (renderRow (cell :: row)).getLast? = some '"' := by
  induction row generalizing cell with
  | nil => rw [renderRow_singleton, getLast?_quote]
  | cons cell' row ih =>
      rw [renderRow_cons_cons, List.getLast?_append, List.getLast?_cons, ih]
      rfl

/-- A record ends with a quote, if it has fields at all. -/
theorem renderRow_ends (row : List (List Char)) : ∀ c ∈ (renderRow row).getLast?, c = '"' := by
  cases row with
  | nil =>
      intro c hc
      exact absurd hc (by simp [renderRow])
  | cons cell row =>
      intro c hc
      rw [getLast?_renderRow, Option.mem_some_iff] at hc
      exact hc.symm

/-- Line ends are changed in each field by itself. -/
theorem unixLines_renderRow (row : List (List Char)) :
    unixLines (renderRow row) = renderRow (row.map unixLines) := by
  induction row with
  | nil => rfl
  | cons cell row ih =>
      cases row with
      | nil => rw [List.map_singleton, renderRow_singleton, renderRow_singleton, unixLines_quote]
      | cons cell' row =>
          -- A field ends with a quote, so no line end is cut before the comma.
          have hquoted := getLast?_quote cell
          rw [renderRow_cons_cons, unixLines_append _ _ (Or.inl (by rw [hquoted]; simp)),
            unixLines_quote, unixLines_cons, if_neg (by simp), ih]
          simp only [List.map_cons, renderRow_cons_cons]

/-- Either kind of line end between the records becomes a line feed. -/
theorem unixLines_render (eol : List Char) (heol : eol = ['\n'] ∨ eol = ['\r', '\n'])
    (rows : List (List (List Char))) :
    unixLines (render eol rows) = render ['\n'] (rows.map (List.map unixLines)) := by
  have hline : ∀ text, unixLines (eol ++ text) = '\n' :: unixLines text := by
    intro text
    rcases heol with rfl | rfl <;> simp [unixLines]
  induction rows with
  | nil => rfl
  | cons row rows ih =>
      cases rows with
      | nil => rw [List.map_singleton, render_singleton, render_singleton, unixLines_renderRow]
      | cons row' rows =>
          -- A record does not end with a carriage return, so the line end after it is whole.
          have hcut : (renderRow row).getLast? ≠ some '\r' := by
            intro hc
            exact absurd (renderRow_ends row '\r' hc) (by decide)
          rw [render_cons_cons, unixLines_append _ _ (Or.inl hcut), hline, ih, unixLines_renderRow]
          simp only [List.map_cons, render_cons_cons, List.singleton_append]

end LineEnds

/-- A written text is nothing or something that ends with a quote, and then as
    many line feeds as there are records without fields at the end. -/
theorem render_ends (rows : List (List (List Char))) :
    ∃ s k, render ['\n'] rows = s ++ List.replicate k '\n' ∧ ∀ c ∈ s.getLast?, c = '"' := by
  induction rows with
  | nil => exact ⟨[], 0, rfl, fun c hc => absurd hc (by simp)⟩
  | cons row rows ih =>
      cases rows with
      | nil => exact ⟨renderRow row, 0, by rw [render_singleton]; simp, renderRow_ends row⟩
      | cons row' rows =>
          rcases ih with ⟨s, k, hrender, hend⟩
          rw [render_cons_cons, hrender]
          -- The rest is nothing but line feeds, or it ends with a quote.
          cases s with
          | nil =>
              exact ⟨renderRow row, k + 1, by rw [List.replicate_succ]; rfl, renderRow_ends row⟩
          | cons c s =>
              refine ⟨renderRow row ++ '\n' :: c :: s, k, by simp, ?_⟩
              rw [List.getLast?_append, List.getLast?_cons_cons]
              rcases List.getLast?_isSome.mpr (List.cons_ne_nil c s) |> Option.isSome_iff_exists.mp
                with ⟨l, hl⟩
              rw [hl] at hend ⊢
              exact hend

/-- Trimming takes away the line feeds at the end and nothing more. -/
theorem rdropWhile_append_newlines (space : Char → Bool) (hnewline : space '\n' = true)
    (s : List Char) (hend : ∀ c ∈ s.getLast?, space c = false) (k : Nat) :
    (s ++ List.replicate k '\n').rdropWhile space = s := by
  induction k with
  | zero =>
      rw [List.replicate_zero, List.append_nil, List.rdropWhile_eq_self_iff]
      intro hne
      rw [hend _ (List.getLast_mem_getLast? hne)]
      exact Bool.false_ne_true
  | succ k ih =>
      rw [List.replicate_succ', ← List.append_assoc, List.rdropWhile_concat_pos _ _ _ hnewline, ih]

/-- Line feeds at the end stay as they are. -/
theorem unixLines_append_newlines (s : List Char) (hend : s.getLast? ≠ some '\r') (k : Nat) :
    unixLines (s ++ List.replicate k '\n') = unixLines s ++ List.replicate k '\n' := by
  rw [unixLines_append _ _ (Or.inl hend), List.append_cancel_left_eq]
  induction k with
  | zero => rfl
  | succ k ih => rw [List.replicate_succ, unixLines_cons, if_neg (by simp), ih]

/-- Reading what was written, after the end of the text was trimmed. -/
theorem readAll_render (space : Char → Bool) (hquote : space '"' = false)
    (hnewline : space '\n' = true) (rows : List (List (List Char))) :
    readAll space ((render ['\n'] rows).rdropWhile space)
      = .ok ((rows.map (List.map unixLines)).filter (· ≠ [])) := by
  rcases render_ends rows with ⟨s, k, hrender, hend⟩
  have hcr : s.getLast? ≠ some '\r' := fun hc => absurd (hend '\r' hc) (by decide)
  have hspace : ∀ c ∈ s.getLast?, space c = false := by
    intro c hc
    rw [hend c hc, hquote]
  -- The line feeds that are trimmed make no difference to the reader.
  have hlines : unixLines s ++ List.replicate k '\n'
      = render ['\n'] (rows.map (List.map unixLines)) := by
    rw [← unixLines_append_newlines s hcr, ← hrender, unixLines_render _ (Or.inl rfl)]
  rw [hrender, rdropWhile_append_newlines space hnewline s hspace, readAll, getLast?_unixLines,
    if_neg hcr, ← read_append_newlines space .line [] _ k, hlines, read_render space hquote]

end Csv
