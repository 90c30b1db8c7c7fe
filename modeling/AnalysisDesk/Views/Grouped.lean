/-
Metrics by type.

Each type that occurs gets the list of its metrics, greatest value first.  Values are compared in
the total order of all doubles, so that even values that are no numbers have a place; equal values
go by the metrics' ids.
-/
import AnalysisDesk.Job.Basic

namespace AnalysisDesk

namespace Metric

/-- Whether a metric may stand before another one of its type. -/
def standsBefore (a b : Metric) : Bool :=
  b.value.totalKey < a.value.totalKey || (a.value.totalKey == b.value.totalKey && a.id ≤ b.id)

/-- Adds a metric to the group of its type; the groups stand in the order of their types. -/
def addToGroups (metric : Metric) : List (String × List Metric) → List (String × List Metric)
  | [] => [(metric.metricType, [metric])]
  | group :: rest =>
    if metric.metricType = group.1 then (group.1, group.2 ++ [metric]) :: rest
    else if metric.metricType < group.1 then (metric.metricType, [metric]) :: group :: rest
    else group :: addToGroups metric rest

/-- The metrics by type, each group in its order. -/
def grouped (metrics : List Metric) : List (String × List Metric) :=
  (metrics.foldl (fun groups metric => metric.addToGroups groups) []).map fun group =>
    (group.1, group.2.mergeSort standsBefore)

end Metric

end AnalysisDesk
