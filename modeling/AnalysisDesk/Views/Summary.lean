/-
The summary of a job's findings.

How many issues there are of each severity and of each category.  A table of severities has an
entry for every one of them, also where the count is zero.
-/
import AnalysisDesk.Job.Basic
import AnalysisDesk.Store.Query

namespace AnalysisDesk

/-- A number for each severity. -/
structure SeverityTable where
  critical : Nat
  high : Nat
  medium : Nat
  low : Nat
deriving DecidableEq, Repr, Inhabited

namespace SeverityTable

def zero : SeverityTable := ⟨0, 0, 0, 0⟩

/-- The number of a severity. -/
def get (table : SeverityTable) : Severity → Nat
  | .critical => table.critical
  | .high => table.high
  | .medium => table.medium
  | .low => table.low

/-- Adds to the number of a severity. -/
def add (table : SeverityTable) (severity : Severity) (count : Nat) : SeverityTable :=
  match severity with
  | .critical => { table with critical := table.critical + count }
  | .high => { table with high := table.high + count }
  | .medium => { table with medium := table.medium + count }
  | .low => { table with low := table.low + count }

/-- Adds up counts of severities. -/
def ofCounts (counts : List (Severity × Nat)) : SeverityTable :=
  counts.foldl (fun table entry => table.add entry.1 entry.2) zero

/-- The entries, worst first. -/
def toList (table : SeverityTable) : List (Severity × Nat) :=
  Severity.all.map fun severity => (severity, table.get severity)

def toJson (table : SeverityTable) : Json :=
  .object (table.toList.map fun entry => (entry.1.label, .nat entry.2))

theorem get_add (table : SeverityTable) (a b : Severity) (n : Nat) :
    (table.add a n).get b = table.get b + if a = b then n else 0 := by
  cases a <;> cases b <;> simp [add, get]

end SeverityTable

/-- How many findings of which kind a job has. -/
structure Summary where
  bySeverity : SeverityTable
  /-- The categories that occur, in ascending order. -/
  byCategory : List (String × Nat)
  totalIssues : Nat
  totalMetrics : Nat
deriving DecidableEq, Repr, Inhabited

namespace Summary

/-- Counts issues and metrics. -/
def ofFindings (issues : List Issue) (metrics : List Metric) : Summary where
  bySeverity := SeverityTable.ofCounts (issues.map fun issue => (issue.severity, 1))
  byCategory := Store.tallied (issues.map (·.category))
  totalIssues := issues.length
  totalMetrics := metrics.length

def toJson (s : Summary) : Json :=
  .object [("issues_by_severity", s.bySeverity.toJson),
    ("issues_by_category", .object (s.byCategory.map fun entry => (entry.1, .nat entry.2))),
    ("total_issues", .nat s.totalIssues), ("total_metrics", .nat s.totalMetrics)]

end Summary

end AnalysisDesk
