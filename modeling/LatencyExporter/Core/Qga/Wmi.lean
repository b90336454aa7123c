import LatencyExporter.Core.Qga.Metrics
import LatencyExporter.Lib.Csv
import Mathlib.Logic.Function.Basic

/-!
# Reading the Counters of a Guest

`ParseWMICSV` of `pkg/qga/types.go`. The guest prints its counters as
comma-separated values, with a header that says which column holds what. The
columns come in any order and there may be others.

`Csv.readAll` stands for the reader of `encoding/csv`. Of its errors the line
and the column are left out, and of those of `strconv.ParseUint` whether a
number is malformed or too large.

## Main definitions

* `WmiError`: Why a text is refused.
* `requiredColumns`: The names of the columns.
* `headerKey`, `columnMap`, `Columns`, `findColumns`: From the header to the
  columns.
* `parseCounter`, `parseRow`, `rowLoop`: From rows to counters.
* `parseWMICSV`: The whole.
-/

namespace LatencyExporter

namespace Qga

/-- Why a text is refused. -/
inductive WmiError where
  /-- `parsing CSV: %w` -/
  | csv (err : Csv.Error)
  /-- `CSV has no data rows (got %d lines)` -/
  | noDataRows (lines : Nat)
  /-- `missing required column %q in CSV header` -/
  | missingColumn (req : List Char)
  /-- `parsing AvgDiskReadQueueLength for %s: %w`, and likewise for the others -/
  | badCounter (counter : String) (name : List Char)
  /-- `no valid disk rows found in CSV output` -/
  | noDiskRows
deriving DecidableEq

/-- `requiredColumns`. -/
def requiredColumns : List (List Char) :=
  ["name".toList, "avgdiskreadqueuelength".toList, "avgdiskwritequeuelength".toList,
    "diskreadspersec".toList, "diskwritespersec".toList, "timestamp_sys100ns".toList]

/-- What a column is looked up by. -/
def headerKey (table : Char → Char) (name : List Char) : List Char :=
  (trimSpace name).map (toLower table)

/-- `colMap`. A column replaces an earlier one with the same key. -/
def columnMap (table : Char → Char) (header : List (List Char)) : List Char → Option Nat :=
  header.zipIdx.foldl (fun m e => Function.update m (headerKey table e.1) (some e.2)) fun _ => none

/-- The indices of the required columns. -/
structure Columns where
  nameIdx : Nat
  rdQIdx : Nat
  wrQIdx : Nat
  rdOpsIdx : Nat
  wrOpsIdx : Nat
  tsIdx : Nat

/-- `maxIdx`. -/
def Columns.maxIdx (c : Columns) : Nat :=
  max c.nameIdx (max c.rdQIdx (max c.wrQIdx (max c.rdOpsIdx (max c.wrOpsIdx c.tsIdx))))

/-- The check that no required column is missing, and the indices. -/
def findColumns (colMap : List Char → Option Nat) : Except WmiError Columns :=
  match requiredColumns.find? fun req => (colMap req).isNone with
  | some req => .error (.missingColumn req)
  | none =>
      -- A key that is not in a Go map reads as zero.
      let idx := fun key : String => (colMap key.toList).getD 0
      .ok
        { nameIdx := idx "name",
          rdQIdx := idx "avgdiskreadqueuelength",
          wrQIdx := idx "avgdiskwritequeuelength",
          rdOpsIdx := idx "diskreadspersec",
          wrOpsIdx := idx "diskwritespersec",
          tsIdx := idx "timestamp_sys100ns" }

/-- One counter of the disk `name`. -/
def parseCounter (counter : String) (name cell : List Char) : Except WmiError UInt64 :=
  match parseUint 64 (trimSpace cell) with
  | none => .error (.badCounter counter name)
  | some n => .ok (UInt64.ofNat n)

/-- One round of the loop over the rows. -/
def parseRow (c : Columns) (row : List (List Char)) : Except WmiError (Option DiskCounters) :=
  if row.length ≤ c.maxIdx then .ok none
  else
    let name := trimSpace (row.getD c.nameIdx [])
    if name = [] ∨ equalFold name "_Total".toList then .ok none
    else do
      let rdQ ← parseCounter "AvgDiskReadQueueLength" name (row.getD c.rdQIdx [])
      let wrQ ← parseCounter "AvgDiskWriteQueueLength" name (row.getD c.wrQIdx [])
      let rdOps ← parseCounter "DiskReadsPerSec" name (row.getD c.rdOpsIdx [])
      let wrOps ← parseCounter "DiskWritesPerSec" name (row.getD c.wrOpsIdx [])
      let ts ← parseCounter "Timestamp_Sys100NS" name (row.getD c.tsIdx [])
      .ok (some
        { name := String.ofList name, rdQueueLen := rdQ, wrQueueLen := wrQ, rdOps := rdOps,
          wrOps := wrOps, timestamp100ns := ts })

/-- The loop over the rows. -/
def rowLoop (c : Columns) : List (List (List Char)) → Except WmiError (List DiskCounters)
  | [] => .ok []
  | row :: rows => do
      let d ← parseRow c row
      let ds ← rowLoop c rows
      .ok (d.toList ++ ds)

/-- What is done with the records. -/
def parseRecords (table : Char → Char) :
    List (List (List Char)) → Except WmiError (List DiskCounters)
  | header :: row :: rows => do
      let c ← findColumns (columnMap table header)
      let results ← rowLoop c (row :: rows)
      if results.length = 0 then .error .noDiskRows else .ok results
  | records => .error (.noDataRows records.length)

/-- `ParseWMICSV`. -/
def parseWMICSV (table : Char → Char) (data : List Char) : Except WmiError (List DiskCounters) :=
  -- `Csv.unixLines` is `bytes.ReplaceAll(data, "\r\n", "\n")`.
  match Csv.readAll isSpace (trimSpace (Csv.unixLines data)) with
  | .error err => .error (.csv err)
  | .ok records => parseRecords table records

end Qga

end LatencyExporter
