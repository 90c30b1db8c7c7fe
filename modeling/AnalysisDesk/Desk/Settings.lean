/-
How the desk goes about its work.
-/
import AnalysisDesk.Analyzer.Backoff

namespace AnalysisDesk

/-- How the desk watches jobs and how often it tries. -/
structure DeskSettings where
  /-- The pause between two questions about a job. -/
  pollInterval : Span
  /-- How long a job may take: from its dispatch, or from its creation until it is dispatched. -/
  pollTimeout : Span
  retry : RetryPolicy
deriving DecidableEq, Repr, Inhabited

end AnalysisDesk
