/-
The life of a job.

A job is pending until the analyzer has taken it, then processing, and ends completed, failed or
cancelled.  `JobStatus.canBecome` is the table of the steps that are allowed; nothing leads out of
the three ends.
-/
namespace AnalysisDesk

/-- Where a job stands. -/
inductive JobStatus where
  | pending
  | processing
  | completed
  | failed
  | cancelled
deriving DecidableEq, Repr, Inhabited

namespace JobStatus

/-- All of them, in the order of a job's life. -/
def all : List JobStatus := [.pending, .processing, .completed, .failed, .cancelled]

/-- The label under which a status is stored and shown. -/
def label : JobStatus → String
  | .pending => "pending"
  | .processing => "processing"
  | .completed => "completed"
  | .failed => "failed"
  | .cancelled => "cancelled"

instance : ToString JobStatus := ⟨label⟩

/-- Still waiting for the analyzer in one way or the other. -/
def isActive : JobStatus → Bool
  | .pending | .processing => true
  | .completed | .failed | .cancelled => false

/-- Ended for good. -/
def isTerminal (s : JobStatus) : Bool := !s.isActive

/-- The allowed steps. -/
def canBecome : JobStatus → JobStatus → Bool
  | .pending, .processing | .pending, .failed | .pending, .cancelled => true
  | .processing, .completed | .processing, .failed | .processing, .cancelled => true
  | _, _ => false

/-- The steps that lead on from a status. -/
def next (s : JobStatus) : List JobStatus := all.filter s.canBecome

/-- The status with a label. -/
def ofLabel? : String → Option JobStatus
  | "pending" => some .pending
  | "processing" => some .processing
  | "completed" => some .completed
  | "failed" => some .failed
  | "cancelled" => some .cancelled
  | _ => none

/-- What is said of a text that is no label. -/
def unknownMessage (text : String) : String := "Invalid job status: " ++ text

theorem ofLabel?_label (s : JobStatus) : ofLabel? s.label = some s := by cases s <;> rfl

theorem canBecome_of_terminal {a : JobStatus} (h : a.isTerminal = true) (b : JobStatus) :
    a.canBecome b = false := by
  cases a <;> simp_all [isTerminal, isActive] <;> cases b <;> rfl

end JobStatus

end AnalysisDesk
