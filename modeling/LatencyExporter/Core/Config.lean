import LatencyExporter.Core.Strings
import Mathlib.Algebra.Order.Field.Rat

/-!
# Configuration

`pkg/config/config.go`: from the flags to a configuration, and what is checked
about it. Of the flags, those are here that something else in this model reads;
each has its default. A flag of type `int` or `time.Duration` is a 64-bit
integer.

The option with the bucket boundaries is one text, and two parsers read it. One
keeps what is an integer, for QEMU. The other keeps what is a floating-point
number and sorts, for the histograms of the eBPF collector. Floating-point
numbers are exact here, apart from the special values.

## Main definitions

* `Float64`: Floating-point numbers, with their order in a sort.
* `FloatParser`: `strconv.ParseFloat`.
* `parseBoundariesNs`, `parseBoundariesSeconds`: The two parsers.
* `parseNamespaces`: The namespaces to look at.
* `Flags`, `Config`, `parse`: The configuration.
* `Config.validate`: The check.
-/

namespace LatencyExporter

namespace Settings

/-- A `float64`: a number, or a special value. -/
inductive Float64 where
  | nan
  | negInf
  | finite (q : ℚ)
  | posInf
deriving DecidableEq

/-- Division by a positive number. -/
def Float64.div (x : Float64) (d : ℚ) : Float64 :=
  match x with
  | .finite q => .finite (q / d)
  | x => x

/-- The order of `sort.Float64s`, which puts `NaN` first. -/
def Float64.le : Float64 → Float64 → Bool
  | .nan, _ => true
  | _, .nan => false
  | .negInf, _ => true
  | _, .negInf => false
  | .finite p, .finite q => p ≤ q
  | .finite _, .posInf => true
  | .posInf, .finite _ => false
  | .posInf, .posInf => true

/-- `strconv.ParseFloat(s, 64)`. Whatever it accepts, it reads integers as
    `strconv.ParseInt(s, 10, 64)` does. -/
structure FloatParser where
  parse : List Char → Option Float64
  parse_int : ∀ s n, parseInt decimal 64 s = some n → parse s = some (.finite n)

/-- `parseBoundariesNs`. -/
def parseBoundariesNs (s : List Char) : List Int :=
  (s.splitOn ',').filterMap fun p => parseInt decimal 64 (trimSpace p)

/-- `parseBoundariesSeconds`. -/
def parseBoundariesSeconds (parser : FloatParser) (s : List Char) : List Float64 :=
  let buckets := (s.splitOn ',').filterMap fun p =>
    let p := trimSpace p
    if p = [] then none else (parser.parse p).map fun ns => ns.div (10 ^ 9)
  buckets.mergeSort Float64.le

/-- `ParseNamespaces`. -/
def parseNamespaces (s : List Char) : List (List Char) :=
  if s = [] then [] else ((s.splitOn ',').map trimSpace).filter (· ≠ [])

example : parseBoundariesNs "10, x,-5".toList = [10, -5] := by decide

example : parseNamespaces " ns1,,ns2 ".toList = ["ns1".toList, "ns2".toList] := by decide

/-- The environment variable `NODE_NAME` and the flags. -/
structure Flags where
  nodeName : String
  boundaries : String := "10000000,100000000,1000000000"
  namespaces : String := ""
  enableQMP : Bool := true
  qmpPollInterval : Int64 := 60000000000
  qmpConcurrency : Int64 := 8
  enableQGA : Bool := true
  qgaPollInterval : Int64 := 60000000000
  qgaTimeout : Int64 := 10
  qgaConcurrency : Int64 := 8
  enableEBPF : Bool := true
  enableEBPFBlock : Bool := true
  enableEBPFNFS : Bool := true
  enableEBPFNFSKprobe : Bool := false
  ebpfScanInterval : Int64 := 30
  ebpfBlockMapSize : Int64 := 10240
  ebpfNFSMapSize : Int64 := 10240
  ebpfNFSKprobeMapSize : Int64 := 10240

/-- `Config`. -/
structure Config where
  nodeName : String
  namespaces : String
  boundaries : List Float64
  boundariesNs : List Int
  enableQMP : Bool
  qmpPollInterval : Int64
  qmpConcurrency : Int64
  enableQGA : Bool
  qgaPollInterval : Int64
  qgaTimeout : Int32
  qgaConcurrency : Int64
  enableEBPF : Bool
  enableEBPFBlock : Bool
  enableEBPFNFS : Bool
  enableEBPFNFSKprobe : Bool
  ebpfScanInterval : Int64
  ebpfBlockMapSize : Int64
  ebpfNFSMapSize : Int64
  ebpfNFSKprobeMapSize : Int64

/-- `Parse`, from the values of the flags. -/
def parse (parser : FloatParser) (f : Flags) : Config where
  nodeName := f.nodeName
  namespaces := f.namespaces
  boundaries := parseBoundariesSeconds parser f.boundaries.toList
  -- The same text is read twice, by different parsers.
  boundariesNs := parseBoundariesNs f.boundaries.toList
  enableQMP := f.enableQMP
  qmpPollInterval := f.qmpPollInterval
  qmpConcurrency := f.qmpConcurrency
  enableQGA := f.enableQGA
  qgaPollInterval := f.qgaPollInterval
  -- A timeout that does not fit is cut off.
  qgaTimeout := f.qgaTimeout.toInt32
  qgaConcurrency := f.qgaConcurrency
  enableEBPF := f.enableEBPF
  enableEBPFBlock := f.enableEBPFBlock
  enableEBPFNFS := f.enableEBPFNFS
  enableEBPFNFSKprobe := f.enableEBPFNFSKprobe
  ebpfScanInterval := f.ebpfScanInterval
  ebpfBlockMapSize := f.ebpfBlockMapSize
  ebpfNFSMapSize := f.ebpfNFSMapSize
  ebpfNFSKprobeMapSize := f.ebpfNFSKprobeMapSize

/-- `Validate`. -/
def Config.validate (c : Config) : Except String Unit :=
  if c.nodeName = "" then .error "NODE_NAME environment variable is required"
  else if c.boundariesNs.length = 0 then .error "boundaries must contain at least one value"
  else if c.enableEBPF ∧ c.ebpfScanInterval ≤ 0 then
    .error ("ebpf-scan-interval must be positive, got " ++ c.ebpfScanInterval.toInt.repr)
  else .ok ()

end Settings

end LatencyExporter
