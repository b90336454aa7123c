import LatencyExporter.Core.Qga.Wmi
import LatencyExporter.Lib.Overwrite
import LatencyExporter.Theory.Text

/-!
# Counters That Come Back

A guest that prints its counters with every field quoted gets them read as they
are, `parseWMICSV_render`. This is for any layout of the table: the required
columns in any order and spelled in any case, other columns among them, either
kind of line end, and rows for the total and rows that are too short wherever
they stand.

What the other columns and the skipped rows hold is not restricted at all. The
fields may have quotes and line ends in them, and then what is read is not what
was written: the source drops carriage returns before line feeds in the whole
text, quoted or not, and the reader does so once more. So a field is read as
`clean` leaves it. The names of disks and the numbers have no line feeds and stay
as they are. A header may have them, but not so that another column would become
a required one, `headerKey_unixLines`.

## Main definitions

* `Layout`: A header that has every required column once.
* `Layout.index`, `Layout.row`: Where a column is, and a row that goes by columns.
* `Row`, `Row.cells`, `counters`: What is printed, and what it says.
* `Readable`, `Row.Fits`: Names of disks, and rows that go with a layout.

## Theorems

* `trimSpace_eq_self`, `trimSpace_clean`, `parseUint_digits`: Names and numbers are
  read as printed.
* `headerKey_unixLines`: Line ends in a header.
* `columnMap_index`, `findColumns_ok`: The columns are found.
* `parseRow_cells`: Reading one row.
* `rowLoop_filter`, `rowLoop_cells`: Reading all of them.
* `parseWMICSV_render`: Reading what was printed.
-/

namespace LatencyExporter

namespace Qga

open Csv (unixLines)

/-- A field after the source and the reader have dropped carriage returns. -/
def clean (cell : List Char) : List Char := unixLines (unixLines cell)

/-- A header that has every required column once. -/
structure Layout (table : Char → Char) where
  header : List (List Char)
  once : ∀ req ∈ requiredColumns, (header.map (headerKey table)).count req = 1

variable {table : Char → Char}

/-- Where a column is. -/
def Layout.index (l : Layout table) (req : List Char) : Nat :=
  (l.header.map (headerKey table)).idxOf req

/-- A row with a field for every column, given by the key of the column and its
    index. -/
def Layout.row (l : Layout table) (field : List Char → Nat → List Char) : List (List Char) :=
  l.header.mapIdx fun i name => field (headerKey table name) i

/-- A number as it is printed. -/
def digits (n : UInt64) : List Char := Nat.toDigits 10 n.toNat

/-- What is printed of a disk in a required column. -/
def fieldOf (d : DiskCounters) (key : List Char) : Option (List Char) :=
  (requiredColumns.zip
    [d.name.toList, digits d.rdQueueLen, digits d.wrQueueLen, digits d.rdOps, digits d.wrOps,
      digits d.timestamp100ns]).lookup key

/-- A row: a disk, the total, or fewer fields than are required. The other
    columns hold anything. -/
inductive Row where
  | disk (d : DiskCounters) (others : Nat → List Char)
  | total (label : List Char) (others : Nat → List Char)
  | short (cells : List (List Char))

/-- The fields of a row. -/
def Row.cells (l : Layout table) : Row → List (List Char)
  | .disk d others => l.row fun key i => (fieldOf d key).getD (others i)
  | .total label others => l.row fun key i => if key = "name".toList then label else others i
  | .short cells => cells

/-- The disk of a row. -/
def Row.counters : Row → Option DiskCounters
  | .disk d _ => some d
  | .total _ _ => none
  | .short _ => none

/-- The disks of all rows. -/
def counters (rows : List Row) : List DiskCounters := rows.filterMap Row.counters

/-- A name of a disk: it is not empty, has no white space around it and no line
    ends in it, and is not that of the total. -/
structure Readable (name : List Char) : Prop where
  ne_nil : name ≠ []
  head : ∀ c ∈ name.head?, isSpace c = false
  last : ∀ c ∈ name.getLast?, isSpace c = false
  no_cr : '\r' ∉ name
  no_lf : '\n' ∉ name
  not_total : equalFold name "_Total".toList = false

/-- Rows that go with a layout. -/
def Row.Fits (l : Layout table) : Row → Prop
  | .disk d _ => Readable d.name.toList
  | .total label _ => equalFold label "_Total".toList = true
  | .short cells => ∃ req ∈ requiredColumns, cells.length ≤ l.index req

section Text

theorem trimSpace_eq (s : List Char) : trimSpace s = (s.dropWhile isSpace).rdropWhile isSpace := rfl

theorem dropWhile_of_head (s : List Char) (hhead : ∀ c ∈ s.head?, isSpace c = false) :
    s.dropWhile isSpace = s := by
  cases s with
  | nil => rfl
  | cons c cs => rw [List.dropWhile_cons_of_neg (by rw [hhead c rfl]; exact Bool.false_ne_true)]

/-- Trimming does nothing to a text whose ends are not white space. -/
theorem trimSpace_eq_self (s : List Char) (hhead : ∀ c ∈ s.head?, isSpace c = false)
    (hlast : ∀ c ∈ s.getLast?, isSpace c = false) : trimSpace s = s := by
  rw [trimSpace_eq, dropWhile_of_head s hhead, List.rdropWhile_eq_self_iff]
  intro hne
  rw [hlast _ (List.getLast_mem_getLast? hne)]
  exact Bool.false_ne_true

/-- Without line feeds there is no carriage return to drop. -/
theorem unixLines_of_not_mem (s : List Char) (hs : '\n' ∉ s) : unixLines s = s := by
  induction s with
  | nil => rfl
  | cons c cs ih =>
      rw [List.mem_cons, not_or] at hs
      -- A carriage return is dropped before a line feed only.
      have hnext : cs.head? ≠ some '\n' := fun hc => hs.2 (List.mem_of_mem_head? hc)
      rw [Csv.unixLines_cons, if_neg fun hc => hnext hc.2, ih hs.2]

theorem clean_of_not_mem (s : List Char) (hs : '\n' ∉ s) : clean s = s := by
  rw [clean, unixLines_of_not_mem s hs, unixLines_of_not_mem s hs]

/-- A field without white space is read as it was printed. -/
theorem trimSpace_clean (s : List Char) (hs : ∀ c ∈ s, isSpace c = false) :
    trimSpace (clean s) = s := by
  have hline : '\n' ∉ s := fun hc => absurd (hs '\n' hc) (by decide)
  rw [clean_of_not_mem s hline]
  exact trimSpace_eq_self s (fun c hc => hs c (List.mem_of_mem_head? hc))
    fun c hc => hs c (List.mem_of_mem_getLast? hc)

/-- Line feeds are kept. -/
theorem newline_mem_unixLines (s : List Char) (hs : '\n' ∈ s) : '\n' ∈ unixLines s := by
  induction s with
  | nil => exact hs
  | cons c cs ih =>
      rw [Csv.unixLines_cons]
      rcases List.mem_cons.mp hs with rfl | hs
      · rw [if_neg (by simp)]
        exact List.mem_cons_self
      · split
        · exact ih hs
        · exact List.mem_cons_of_mem c (ih hs)

/-- Dropping carriage returns adds nothing. -/
theorem unixLines_sublist (s : List Char) : (unixLines s).Sublist s := by
  induction s with
  | nil => exact List.Sublist.refl []
  | cons c cs ih =>
      rw [Csv.unixLines_cons]
      split
      · exact ih.cons c
      · exact ih.cons_cons c

/-- White space at the front is trimmed before or after carriage returns are
    dropped, which are white space themselves. -/
theorem dropWhile_unixLines (s : List Char) :
    (unixLines s).dropWhile isSpace = unixLines (s.dropWhile isSpace) := by
  induction s with
  | nil => rfl
  | cons c cs ih =>
      by_cases hc : isSpace c = true
      · rw [List.dropWhile_cons_of_pos hc, Csv.unixLines_cons]
        split
        · exact ih
        · rw [List.dropWhile_cons_of_pos hc, ih]
      · -- The first character that is kept is not a carriage return, so nothing is dropped in
        -- front of the rest.
        have hcr : c ≠ '\r' := fun h => hc (by rw [h]; decide)
        rw [List.dropWhile_cons_of_neg hc, Csv.unixLines_cons, if_neg fun h => hcr h.1,
          List.dropWhile_cons_of_neg hc]

/-- The same at the end, where a carriage return before the white space that is
    trimmed could lose its line feed. -/
theorem rdropWhile_unixLines (s : List Char) :
    (unixLines s).rdropWhile isSpace = unixLines (s.rdropWhile isSpace) := by
  have hlast : ∀ c ∈ (s.rdropWhile isSpace).getLast?, isSpace c = false := by
    intro c hc
    have hne : s.rdropWhile isSpace ≠ [] := by
      intro hnil
      rw [hnil] at hc
      exact absurd hc (by simp)
    have hkept := List.rdropWhile_last_not isSpace s hne
    rw [List.getLast?_eq_some_getLast hne, Option.mem_some_iff] at hc
    rw [← hc]
    exact Bool.eq_false_iff.mpr hkept
  -- What is kept does not end in a carriage return, so the two parts can be gone through apart.
  have hcr : (s.rdropWhile isSpace).getLast? ≠ some '\r' := fun hc =>
    absurd (hlast '\r' hc) (by decide)
  -- What is dropped at the end is white space before and after.
  have hspace : ∀ c ∈ unixLines (s.rtakeWhile isSpace), isSpace c = true := fun c hc =>
    List.mem_rtakeWhile_imp ((unixLines_sublist _).mem hc)
  have hsplit : unixLines s
      = unixLines (s.rdropWhile isSpace) ++ unixLines (s.rtakeWhile isSpace) := by
    rw [← Csv.unixLines_append _ _ (Or.inl hcr), List.rdropWhile_append_rtakeWhile]
  rw [hsplit, List.rdropWhile, List.reverse_append,
    List.dropWhile_append_of_pos fun c hc => hspace c (List.mem_reverse.mp hc), ← List.rdropWhile,
    List.rdropWhile_eq_self_iff]
  intro hne
  have hend := hlast _ (by
    rw [← Csv.getLast?_unixLines]
    exact List.getLast_mem_getLast? hne)
  rw [hend]
  exact Bool.false_ne_true

theorem trimSpace_unixLines (s : List Char) :
    trimSpace (unixLines s) = unixLines (trimSpace s) := by
  rw [trimSpace_eq, trimSpace_eq, dropWhile_unixLines, rdropWhile_unixLines]

theorem newline_not_mem_required : ∀ req ∈ requiredColumns, '\n' ∉ req := by decide

/-- A column is a required one whether or not carriage returns are dropped from
    its name. -/
theorem headerKey_unixLines (name req : List Char) (hreq : req ∈ requiredColumns) :
    headerKey table (unixLines name) = req ↔ headerKey table name = req := by
  have hplain := newline_not_mem_required req hreq
  rw [headerKey, headerKey, trimSpace_unixLines]
  generalize trimSpace name = s
  by_cases hs : '\n' ∈ s
  · -- A line feed stays one in lower case, and no required name has one.
    have hkeep : ∀ t : List Char, '\n' ∈ t → t.map (toLower table) ≠ req := by
      intro t ht heq
      rw [← heq] at hplain
      exact hplain (List.mem_map.mpr ⟨'\n', ht, rfl⟩)
    exact iff_of_false (hkeep _ (newline_mem_unixLines s hs)) (hkeep s hs)
  · rw [unixLines_of_not_mem s hs]

/-- Both the source and the reader drop carriage returns, so this is used twice. -/
theorem headerKey_clean (name req : List Char) (hreq : req ∈ requiredColumns) :
    headerKey table (clean name) = req ↔ headerKey table name = req := by
  rw [clean, headerKey_unixLines _ _ hreq, headerKey_unixLines _ _ hreq]

theorem parseUint_digits (n : UInt64) : parseUint 64 (digits n) = some n.toNat :=
  parseUint_toDigits 64 n.toNat n.toNat_lt

/-- White space has no case. -/
theorem toLower_of_isSpace (c : Char) (hc : isSpace c = true) : c.toLower = c := by
  have hlist : latinSpace.all (fun c => c.toLower = c) = true := by decide
  -- White space is one of a few characters, or beyond all capital letters.
  rcases isSpace_cases c hc with hmem | hle
  · exact decide_eq_true_iff.mp (List.all_eq_true.mp hlist c hmem)
  · have hupper : ¬ (c.val ≥ 'A'.val ∧ c.val ≤ 'Z'.val) := fun h =>
      absurd (le_trans hle (UInt32.le_iff_toNat_le.mp h.2)) (by decide)
    exact dif_neg hupper

/-- A label of the total, in whatever case, has no white space to trim. -/
theorem isSpace_of_mem_total (label : List Char) (hlabel : equalFold label "_Total".toList = true)
    (c : Char) (hc : c ∈ label) : isSpace c = false := by
  have hmem : c.toLower ∈ "_Total".toList.map Char.toLower := by
    rw [← eq_of_beq hlabel]
    exact List.mem_map_of_mem hc
  -- White space would be left by lower case and be in `_total`.
  by_contra hspace
  rw [Bool.not_eq_false] at hspace
  rw [toLower_of_isSpace c hspace] at hmem
  have hnone : ("_Total".toList.map Char.toLower).all (fun c => !isSpace c) = true := by decide
  have hkept := List.all_eq_true.mp hnone c hmem
  rw [hspace] at hkept
  exact absurd hkept Bool.false_ne_true

end Text

section Columns

/-- What holds of the required columns holds of each of the six. -/
theorem forall_required (P : List Char → Prop) (h : ∀ req ∈ requiredColumns, P req) :
    P "name".toList ∧ P "avgdiskreadqueuelength".toList ∧ P "avgdiskwritequeuelength".toList ∧
      P "diskreadspersec".toList ∧ P "diskwritespersec".toList ∧
      P "timestamp_sys100ns".toList := by
  rw [requiredColumns, List.forall_mem_cons, List.forall_mem_cons, List.forall_mem_cons,
    List.forall_mem_cons, List.forall_mem_cons, List.forall_mem_singleton] at h
  exact h

/-- An element at two places is counted twice. -/
theorem two_le_count (l : List (List Char)) (a : List Char) (i j : Nat) (hlt : i < j)
    (hi : l[i]? = some a) (hj : l[j]? = some a) : 2 ≤ l.count a := by
  have hfirst : a ∈ l.take (i + 1) := by
    refine List.mem_of_getElem? (i := i) ?_
    rw [List.getElem?_take_of_lt (Nat.lt_succ_self i), hi]
  have hsecond : a ∈ l.drop (i + 1) := by
    refine List.mem_of_getElem? (i := j - (i + 1)) ?_
    rw [List.getElem?_drop, Nat.add_sub_cancel' hlt, hj]
  have htake := List.count_pos_iff.mpr hfirst
  have hdrop := List.count_pos_iff.mpr hsecond
  rw [← List.take_append_drop (i + 1) l, List.count_append]
  omega

/-- An element that is counted once is at one place. -/
theorem eq_of_count_eq_one (l : List (List Char)) (a : List Char) (hcount : l.count a = 1)
    (i j : Nat) (hi : l[i]? = some a) (hj : l[j]? = some a) : i = j := by
  rcases Nat.lt_trichotomy i j with hlt | heq | hgt
  · have htwo := two_le_count l a i j hlt hi hj
    omega
  · exact heq
  · have htwo := two_le_count l a j i hgt hj hi
    omega

variable (l : Layout table)

/-- Where a required column is, it is. -/
theorem Layout.getElem?_index (req : List Char) (hreq : req ∈ requiredColumns) :
    (l.header.map (headerKey table))[l.index req]? = some req := by
  refine List.getElem?_idxOf (List.count_pos_iff.mp ?_)
  rw [l.once req hreq]
  exact Nat.one_pos

theorem Layout.index_lt (req : List Char) (hreq : req ∈ requiredColumns) :
    l.index req < l.header.length := by
  rcases List.getElem?_eq_some_iff.mp (l.getElem?_index req hreq) with ⟨hlt, _⟩
  rwa [List.length_map] at hlt

/-- The loop over the header overwrites, so of columns with one key the last one
    counts. -/
theorem columnMap_eq (header : List (List Char)) :
    columnMap table header
      = Overwrite.overwrite (header.zipIdx.map fun e => (headerKey table e.1, e.2)) := by
  rw [columnMap, Overwrite.overwrite, List.foldl_map]

/-- A required column is found where it is. -/
theorem columnMap_index (req : List Char) (hreq : req ∈ requiredColumns) :
    columnMap table (l.header.map clean) req = some (l.index req) := by
  -- The column is at a place of the cleaned header if it is there in the header.
  have hentry : ∀ i, (req, i) ∈ (l.header.map clean).zipIdx.map
      (fun e => (headerKey table e.1, e.2)) ↔
        (l.header.map (headerKey table))[i]? = some req := by
    intro i
    simp only [List.mem_map, List.mem_zipIdx_iff_getElem?, Prod.mk.injEq, Prod.exists,
      List.getElem?_map, Option.map_eq_some_iff]
    constructor
    · rintro ⟨_, _, ⟨name, hname, rfl⟩, hkey, rfl⟩
      exact ⟨name, hname, (headerKey_clean name req hreq).mp hkey⟩
    · rintro ⟨name, hname, hkey⟩
      exact ⟨clean name, i, ⟨name, hname, rfl⟩, (headerKey_clean name req hreq).mpr hkey, rfl⟩
  rw [columnMap_eq, Overwrite.overwrite_eq_some_iff, hentry]
  · exact l.getElem?_index req hreq
  · -- No column comes twice, so the last one is the only one.
    intro i j hi hj
    rw [hentry] at hi hj
    exact eq_of_count_eq_one _ req (l.once req hreq) i j hi hj

/-- The columns, if they are at these places. -/
def columnsAt (index : List Char → Nat) : Columns where
  nameIdx := index "name".toList
  rdQIdx := index "avgdiskreadqueuelength".toList
  wrQIdx := index "avgdiskwritequeuelength".toList
  rdOpsIdx := index "diskreadspersec".toList
  wrOpsIdx := index "diskwritespersec".toList
  tsIdx := index "timestamp_sys100ns".toList

/-- If no column is missing, the places are those of the map. -/
theorem findColumns_ok (colMap : List Char → Option Nat) (index : List Char → Nat)
    (hfound : ∀ req ∈ requiredColumns, colMap req = some (index req)) :
    findColumns colMap = .ok (columnsAt index) := by
  have hnone : requiredColumns.find? (fun req => (colMap req).isNone) = none := by
    rw [List.find?_eq_none]
    intro req hreq
    rw [hfound req hreq]
    exact Bool.false_ne_true
  rcases forall_required _ hfound with ⟨hname, hrdQ, hwrQ, hrdOps, hwrOps, hts⟩
  rw [findColumns, hnone]
  dsimp only
  rw [hname, hrdQ, hwrQ, hrdOps, hwrOps, hts]
  rfl

/-- A row is long enough if it reaches to the last required column. -/
theorem index_le_maxIdx (index : List Char → Nat) (req : List Char)
    (hreq : req ∈ requiredColumns) : index req ≤ (columnsAt index).maxIdx := by
  simp only [requiredColumns, List.mem_cons, List.not_mem_nil, or_false] at hreq
  simp only [columnsAt, Columns.maxIdx]
  rcases hreq with rfl | rfl | rfl | rfl | rfl | rfl <;> omega

theorem maxIdx_lt : (columnsAt l.index).maxIdx < l.header.length := by
  rcases forall_required _ l.index_lt with ⟨hname, hrdQ, hwrQ, hrdOps, hwrOps, hts⟩
  exact max_lt hname (max_lt hrdQ (max_lt hwrQ (max_lt hrdOps (max_lt hwrOps hts))))

/-- A row has in a required column what it was given for the key of that column. -/
theorem getD_row (field : List Char → Nat → List Char) (req : List Char)
    (hreq : req ∈ requiredColumns) :
    ((l.row field).map clean).getD (l.index req) [] = clean (field req (l.index req)) := by
  have hkey := l.getElem?_index req hreq
  rw [List.getElem?_map, Option.map_eq_some_iff] at hkey
  rcases hkey with ⟨name, hname, hkey⟩
  rw [List.getD_eq_getElem?_getD, List.getElem?_map, Layout.row, List.getElem?_mapIdx, hname,
    Option.map_some, Option.map_some, Option.getD_some, hkey]

theorem length_row (field : List Char → Nat → List Char) :
    ((l.row field).map clean).length = l.header.length := by
  rw [List.length_map, Layout.row, List.length_mapIdx]

end Columns

section Rows

/-- A number is read back from its digits, which have no white space around them. -/
theorem parseCounter_digits (counter : String) (name : List Char) (n : UInt64) :
    parseCounter counter name (clean (digits n)) = .ok n := by
  have hspace : ∀ c ∈ digits n, isSpace c = false := fun c hc =>
    (word_toDigits n.toNat).2 c hc
  rw [parseCounter, trimSpace_clean _ hspace, parseUint_digits]
  exact congrArg _ UInt64.ofNat_toNat

/-- A row that has what was printed of a disk in its columns. -/
theorem parseRow_some (c : Columns) (row : List (List Char)) (d : DiskCounters)
    (hfull : c.maxIdx < row.length) (hreadable : Readable d.name.toList)
    (hname : row.getD c.nameIdx [] = clean d.name.toList)
    (hrdQ : row.getD c.rdQIdx [] = clean (digits d.rdQueueLen))
    (hwrQ : row.getD c.wrQIdx [] = clean (digits d.wrQueueLen))
    (hrdOps : row.getD c.rdOpsIdx [] = clean (digits d.rdOps))
    (hwrOps : row.getD c.wrOpsIdx [] = clean (digits d.wrOps))
    (hts : row.getD c.tsIdx [] = clean (digits d.timestamp100ns)) :
    parseRow c row = .ok (some d) := by
  have hread : trimSpace (clean d.name.toList) = d.name.toList := by
    rw [clean_of_not_mem _ hreadable.no_lf, trimSpace_eq_self _ hreadable.head hreadable.last]
  -- The name is kept: it is neither empty nor that of the total.
  have hkeep : ¬ (d.name.toList = [] ∨ equalFold d.name.toList "_Total".toList = true) := by
    rw [hreadable.not_total]
    simp only [hreadable.ne_nil, Bool.false_eq_true, or_self, not_false_eq_true]
  rw [parseRow, if_neg (Nat.not_le.mpr hfull), hname, hread, hrdQ, hwrQ, hrdOps, hwrOps, hts]
  simp only [if_neg hkeep, parseCounter_digits, String.ofList_toList]
  rfl

variable (l : Layout table)

theorem parseRow_disk (d : DiskCounters) (others : Nat → List Char)
    (hname : Readable d.name.toList) :
    parseRow (columnsAt l.index) (((Row.disk d others).cells l).map clean) = .ok (some d) := by
  rcases forall_required _ (getD_row l fun key i => (fieldOf d key).getD (others i))
    with ⟨hnameIdx, hrdQ, hwrQ, hrdOps, hwrOps, hts⟩
  refine parseRow_some _ _ d ?_ hname hnameIdx hrdQ hwrQ hrdOps hwrOps hts
  rw [Row.cells, length_row]
  exact maxIdx_lt l

/-- The row of the total is left out, whether or not it is long enough. -/
theorem parseRow_total (label : List Char) (others : Nat → List Char)
    (hlabel : equalFold label "_Total".toList = true) :
    parseRow (columnsAt l.index) (((Row.total label others).cells l).map clean) = .ok none := by
  have hspace := isSpace_of_mem_total label hlabel
  have hread : trimSpace ((((Row.total label others).cells l).map clean).getD
      (columnsAt l.index).nameIdx []) = label := by
    rw [Row.cells, columnsAt, getD_row l _ _ (by decide), if_pos rfl, trimSpace_clean _ hspace]
  rw [parseRow]
  split
  · rfl
  · simp only [hread, hlabel, or_true, if_true]

/-- A row that does not reach a required column is left out. -/
theorem parseRow_short (cells : List (List Char))
    (hshort : ∃ req ∈ requiredColumns, cells.length ≤ l.index req) :
    parseRow (columnsAt l.index) (cells.map clean) = .ok none := by
  rcases hshort with ⟨req, hreq, hle⟩
  rw [parseRow, List.length_map, if_pos (le_trans hle (index_le_maxIdx l.index req hreq))]

/-- A row is read as the disk it stands for, if any. -/
theorem parseRow_cells (row : Row) (hrow : row.Fits l) :
    parseRow (columnsAt l.index) ((row.cells l).map clean) = .ok row.counters := by
  cases row with
  | disk d others => exact parseRow_disk l d others hrow
  | total label others => exact parseRow_total l label others hrow
  | short cells => exact parseRow_short l cells hrow

/-- Reading row by row collects the disks, as no row is refused. -/
theorem rowLoop_cells (rows : List Row) (hrows : ∀ row ∈ rows, row.Fits l) :
    rowLoop (columnsAt l.index) (rows.map fun row => (row.cells l).map clean)
      = .ok (counters rows) := by
  induction rows with
  | nil => rfl
  | cons row rows ih =>
      have hrow := parseRow_cells l row (hrows row List.mem_cons_self)
      have ih := ih fun r hr => hrows r (List.mem_cons_of_mem row hr)
      rw [List.map_cons, rowLoop, hrow, ih, counters, counters, List.filterMap_cons]
      cases row.counters <;> rfl

/-- Records without fields make no difference, so the reader may leave them out. -/
theorem rowLoop_filter (c : Columns) (rows : List (List (List Char))) :
    rowLoop c (rows.filter (· ≠ [])) = rowLoop c rows := by
  induction rows with
  | nil => rfl
  | cons row rows ih =>
      by_cases hrow : row = []
      · -- A record without fields is too short for any layout.
        have hskip : parseRow c row = .ok none := by
          rw [parseRow, hrow, List.length_nil, if_pos (Nat.zero_le _)]
        rw [List.filter_cons_of_neg (by simp [hrow]), ih, rowLoop, hskip]
        cases rowLoop c rows <;> rfl
      · rw [List.filter_cons_of_pos (by simp [hrow]), rowLoop, rowLoop, ih]

end Rows

theorem Layout.header_ne_nil (l : Layout table) : l.header ≠ [] := by
  intro hnil
  have hlt := l.index_lt "name".toList (by decide)
  rw [hnil] at hlt
  exact absurd hlt (Nat.not_lt_zero _)

/-- The records that the reader finds in what was printed. -/
theorem readAll_printed (eol : List Char) (heol : eol = ['\n'] ∨ eol = ['\r', '\n'])
    (header : List (List Char)) (hheader : header ≠ []) (rows : List (List (List Char))) :
    Csv.readAll isSpace (trimSpace (unixLines (Csv.render eol (header :: rows))))
      = .ok (header.map clean :: (rows.map (List.map clean)).filter (· ≠ [])) := by
  have hclean : ∀ rows : List (List (List Char)),
      (rows.map (List.map unixLines)).map (List.map unixLines) = rows.map (List.map clean) := by
    intro rows
    rw [List.map_map]
    exact List.map_congr_left fun row _ => List.map_map
  rcases List.exists_cons_of_ne_nil hheader with ⟨name, names, rfl⟩
  -- The text begins with a quote, so only its end is trimmed.
  have hhead := Csv.head?_render ['\n'] (unixLines name) (names.map unixLines)
    (rows.map (List.map unixLines))
  have hfront : ∀ c ∈ (Csv.render ['\n'] ((unixLines name :: names.map unixLines) ::
      rows.map (List.map unixLines))).head?, isSpace c = false := by
    intro c hc
    rw [hhead, Option.mem_some_iff] at hc
    rw [← hc]
    decide
  rw [Csv.unixLines_render eol heol, trimSpace_eq, List.map_cons, List.map_cons,
    dropWhile_of_head _ hfront, Csv.readAll_render isSpace (by decide) (by decide),
    ← List.map_cons, ← List.map_cons, hclean, List.map_cons, List.filter_cons_of_pos (by simp)]

/-- What was printed is read as it was, for every layout and all rows that go
    with it. A line end after the last row is an empty row at the end, which is
    too short. -/
theorem parseWMICSV_render (l : Layout table) (eol : List Char)
    (heol : eol = ['\n'] ∨ eol = ['\r', '\n']) (rows : List Row)
    (hrows : ∀ row ∈ rows, row.Fits l) (hne : counters rows ≠ []) :
    parseWMICSV table (Csv.render eol (l.header :: rows.map fun row => row.cells l))
      = .ok (counters rows) := by
  have hfound := findColumns_ok (columnMap table (l.header.map clean)) l.index (columnMap_index l)
  have hloop := rowLoop_filter (columnsAt l.index) (rows.map fun row => (row.cells l).map clean)
  rw [rowLoop_cells l rows hrows] at hloop
  rw [parseWMICSV, readAll_printed eol heol l.header l.header_ne_nil, List.map_map]
  change parseRecords table (_ :: (rows.map fun row => (row.cells l).map clean).filter _) = _
  -- Of the records only what the loop makes of them is needed, and whether there are any.
  generalize (rows.map fun row => (row.cells l).map clean).filter (· ≠ []) = records at hloop ⊢
  cases records with
  | nil =>
      rw [rowLoop, Except.ok.injEq] at hloop
      -- No record besides the header would mean no disk.
      exact absurd hloop.symm hne
  | cons record records =>
      have hlen : (counters rows).length ≠ 0 := fun h => hne (List.length_eq_zero_iff.mp h)
      rw [parseRecords, hfound]
      change (rowLoop (columnsAt l.index) (record :: records) >>= fun results => _) = _
      rw [hloop]
      exact if_neg hlen

/-- A header in an order of its own, with a column more. -/
def shuffled : Layout id where
  header := ["Node".toList, "TimeStamp_Sys100NS".toList, "NAME".toList, "DiskWritesPerSec".toList,
    "DiskReadsPerSec".toList, "AvgDiskWriteQueueLength".toList, "AvgDiskReadQueueLength".toList]
  once := by decide

/-- A disk with a quote in its name. -/
def quotedDisk : DiskCounters where
  name := "0 \"C:\""
  rdQueueLen := 18446744073709551615
  wrQueueLen := 2
  rdOps := 3
  wrOps := 4
  timestamp100ns := 5

/-- Of four rows one is a disk. -/
theorem shuffled_rows_read :
    parseWMICSV id (Csv.render ['\r', '\n'] (shuffled.header ::
      [Row.total "_TOTAL".toList fun _ => [], .short ["a".toList],
        .disk quotedDisk fun _ => "\r\n".toList, .short []].map fun row => row.cells shuffled))
      = .ok [quotedDisk] := by
  have hhead : quotedDisk.name.toList.head? = some '0' := by decide
  have hlast : quotedDisk.name.toList.getLast? = some '"' := by decide
  refine parseWMICSV_render shuffled _ (Or.inr rfl) _ ?_ (by simp [counters, Row.counters])
  intro row hrow
  simp only [List.mem_cons, List.not_mem_nil, or_false] at hrow
  rcases hrow with rfl | rfl | rfl | rfl
  · change equalFold "_TOTAL".toList "_Total".toList = true
    decide
  · exact ⟨"name".toList, by decide, by decide⟩
  · exact
      { ne_nil := by decide
        head := fun c hc => by rw [← Option.some.inj (hhead.symm.trans hc)]; decide
        last := fun c hc => by rw [← Option.some.inj (hlast.symm.trans hc)]; decide
        no_cr := by decide
        no_lf := by decide
        not_total := by decide }
  · exact ⟨"name".toList, by decide, by decide⟩

end Qga

end LatencyExporter
