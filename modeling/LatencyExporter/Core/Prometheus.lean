import Mathlib.Data.List.Basic

/-!
# Metrics

A metric as a collector sends it. Prometheus identifies it by its name and the
values of its labels, and a registry refuses a whole scrape in which one
identity occurs twice.

## Main definitions

* `Series`: The identity of a metric.
* `Metric`: A metric with its value.
-/

namespace LatencyExporter

/-- A metric name with label values, in the order of the descriptor. -/
structure Series where
  name : String
  labels : List String
deriving DecidableEq

/-- A metric sent by a collector. -/
structure Metric (V : Type) where
  series : Series
  value : V

end LatencyExporter
