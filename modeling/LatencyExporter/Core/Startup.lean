import LatencyExporter.Core.Config

/-!
# Starting the Subsystems

What the subsystems make of the configuration when they start, spread over
`cmd/exporter/main.go`, the `Run` and `poll` of both collectors, the `Run` of
the device resolver and the loader of the eBPF programs. A ticker with an
interval that is not positive panics. So does a channel with a negative size;
one of size zero lets no scrape begin, as nothing takes out what a scrape would
have to put in first.

## Main definitions

* `Panic`: Why a start panics.
* `newTicker`, `makeSemaphore`: `time.NewTicker` and a buffered channel.
* `Poller`, `startPoller`, `startQMP`, `startQGA`: The two collectors.
* `mapEntries`: The size of a map of an eBPF program.
* `Tracing`, `startEBPF`: The eBPF programs and the resolver.
-/

namespace LatencyExporter

namespace Settings

/-- Why a start panics. -/
inductive Panic where
  | nonPositiveInterval
  | sizeOutOfRange
deriving DecidableEq

/-- `time.NewTicker`. -/
def newTicker (d : Int64) : Except Panic Int64 :=
  if d ≤ 0 then .error .nonPositiveInterval else .ok d

/-- `make(chan struct {}, n)`: the number of scrapes that can be under way. -/
def makeSemaphore (n : Int64) : Except Panic Nat :=
  -- A capacity of zero is accepted.
  if n < 0 then .error .sizeOutOfRange else .ok n.toInt.toNat

/-- A collector that polls. -/
structure Poller where
  interval : Int64
  slots : Nat

/-- `Run` of either collector: a poll, and then the ticker. -/
def startPoller (interval concurrency : Int64) : Except Panic Poller := do
  let slots ← makeSemaphore concurrency
  let interval ← newTicker interval
  .ok { interval := interval, slots := slots }

/-- `startQMP`. -/
def startQMP (c : Config) : Except Panic Poller := startPoller c.qmpPollInterval c.qmpConcurrency

/-- `startQGA`. -/
def startQGA (c : Config) : Except Panic Poller := startPoller c.qgaPollInterval c.qgaConcurrency

/-- The size that `loadBlock`, `loadNFS` and `loadNFSKprobe` set for the map of
    their program, if any. -/
def mapEntries (mapSize : Int64) : Option UInt32 :=
  if mapSize > 0 then some (UInt32.ofInt mapSize.toInt) else none

/-- The interval of the resolver, and the sizes of the maps of the programs that
    are loaded. -/
structure Tracing where
  interval : Int64
  blockEntries : Option (Option UInt32)
  nfsEntries : Option (Option UInt32)
  nfsKprobeEntries : Option (Option UInt32)

/-- `startEBPF`. -/
def startEBPF (c : Config) : Except Panic Tracing := do
  -- The product wraps at 64 bits.
  let interval ← newTicker (c.ebpfScanInterval * 1000000000)
  .ok
    { interval := interval,
      blockEntries := if c.enableEBPFBlock then some (mapEntries c.ebpfBlockMapSize) else none,
      nfsEntries := if c.enableEBPFNFS then some (mapEntries c.ebpfNFSMapSize) else none,
      nfsKprobeEntries :=
        if c.enableEBPFNFSKprobe then some (mapEntries c.ebpfNFSKprobeMapSize) else none }

end Settings

end LatencyExporter
