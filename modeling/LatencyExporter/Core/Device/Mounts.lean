import LatencyExporter.Core.Strings

/-!
# Mount Information

Parsing of `/proc/<pid>/mountinfo`. A line that does not parse is skipped; a
line that does not fit into the buffer of the scanner fails the whole file.

## Main definitions

* `MountEntry`: A mount.
* `LineError`, `FileError`: Why a line or a file is not parsed.
* `parseMountInfoLine`: A line.
* `scanLines`: The lines as `bufio.Scanner` returns them.
* `parseMountInfo`: A file.
-/

namespace LatencyExporter

namespace Device

/-- `MountEntry`. -/
structure MountEntry where
  mountID : Int
  parentID : Int
  major : UInt32
  minor : UInt32
  root : String
  mountPoint : String
  fsType : String
  source : String
deriving DecidableEq

/-- Why `parseMountInfoLine` fails. The errors of `strconv` are not told
    apart. -/
inductive LineError where
  | tooFewFields
  | invalidNumber
  | invalidDevice (field : String)
  | missingSeparator
deriving DecidableEq

/-- `parseMountInfoLine`. -/
def parseMountInfoLine (line : List Char) : Except LineError MountEntry :=
  match fields line with
  | f0 :: f1 :: f2 :: f3 :: f4 :: _ :: f6 :: rest => do
      let mountID ← (atoi f0).elim (.error .invalidNumber) .ok
      let parentID ← (atoi f1).elim (.error .invalidNumber) .ok
      match splitN2 ':' f2 with
      | [devMajor, devMinor] => do
          let major ← (parseUint 32 devMajor).elim (.error .invalidNumber) .ok
          let minor ← (parseUint 32 devMinor).elim (.error .invalidNumber) .ok
          -- The separator is the first lone dash from the seventh field on.
          match (f6 :: rest).dropWhile (· ≠ ['-']) with
          | _ :: fsType :: source :: _ =>
              .ok
                { mountID := mountID, parentID := parentID, major := UInt32.ofNat major,
                  minor := UInt32.ofNat minor, root := String.ofList f3,
                  mountPoint := String.ofList f4, fsType := String.ofList fsType,
                  source := String.ofList source }
          | _ => .error .missingSeparator
      | _ => .error (.invalidDevice (String.ofList f2))
  | _ => .error .tooFewFields

/-- Why `ParseMountInfo` fails. -/
inductive FileError where
  | opening
  | tokenTooLong
deriving DecidableEq

/-- `bufio.MaxScanTokenSize`: a line and its line feed have to fit. -/
def maxScanTokenSize : Nat := 64 * 1024

/-- The size of a text in bytes. -/
def byteSize (s : List Char) : Nat := (s.map Char.utf8Size).sum

/-- Drop a carriage return at the end, as `bufio.ScanLines` does. -/
def dropCR (line : List Char) : List Char :=
  if line.getLast? = some '\r' then line.dropLast else line

/-- The tokens of a scanner with `bufio.ScanLines`. An empty line at the end is
    not a token of the scanner; it would be skipped as well. -/
def scanLines (contents : List Char) : Except FileError (List (List Char)) :=
  let lines := contents.splitOn '\n'
  if lines.all fun line => byteSize line < maxScanTokenSize then .ok (lines.map dropCR)
  else .error .tokenTooLong

/-- `ParseMountInfo`, for a file that is absent or has contents. -/
def parseMountInfo (file : Option (List Char)) : Except FileError (List MountEntry) := do
  let contents ← file.elim (.error .opening) .ok
  let lines ← scanLines contents
  .ok (lines.filterMap fun line => (parseMountInfoLine line).toOption)

example : (parseMountInfoLine
      "36 35 98:0 /mnt1 /mnt2 rw,noatime master:1 - ext3 /dev/root rw".toList).toOption
    = some
      { mountID := 36, parentID := 35, major := 98, minor := 0, root := "/mnt1",
        mountPoint := "/mnt2", fsType := "ext3", source := "/dev/root" } := by
  decide +kernel

end Device

end LatencyExporter
