/-
How bad an issue is.

Four grades, worst first.  A grade is stored with its rank, so that the store can order issues
without knowing the grades.
-/
namespace AnalysisDesk

/-- The grade of an issue. -/
inductive Severity where
  | critical
  | high
  | medium
  | low
deriving DecidableEq, Repr, Inhabited

namespace Severity

/-- All grades, worst first. -/
def all : List Severity := [.critical, .high, .medium, .low]

/-- The label under which a grade is stored and shown. -/
def label : Severity → String
  | .critical => "critical"
  | .high => "high"
  | .medium => "medium"
  | .low => "low"

instance : ToString Severity := ⟨label⟩

/-- The place among the grades, zero for the worst. -/
def rank : Severity → Nat
  | .critical => 0
  | .high => 1
  | .medium => 2
  | .low => 3

/-- The grade with a label. -/
def ofLabel? : String → Option Severity
  | "critical" => some .critical
  | "high" => some .high
  | "medium" => some .medium
  | "low" => some .low
  | _ => none

/-- What is said of a text that is no label. -/
def unknownMessage (text : String) : String := "Invalid severity: " ++ text

/-- Worst first; grades of one rank keep their order. -/
def sort (grades : List Severity) : List Severity := grades.mergeSort fun a b => a.rank ≤ b.rank

theorem ofLabel?_label (s : Severity) : ofLabel? s.label = some s := by cases s <;> rfl

theorem eq_label_of_ofLabel? {text : String} {s : Severity} (h : ofLabel? text = some s) :
    text = s.label := by
  unfold ofLabel? at h
  split at h <;> cases h <;> rfl

theorem ofLabel?_eq_some_iff {text : String} {s : Severity} :
    ofLabel? text = some s ↔ text = s.label :=
  ⟨eq_label_of_ofLabel?, fun h => h ▸ ofLabel?_label s⟩

theorem label_inj {a b : Severity} : a.label = b.label ↔ a = b := by
  refine ⟨fun h => ?_, congrArg label⟩
  have hread := ofLabel?_label a
  rw [h, ofLabel?_label] at hread
  exact (Option.some.inj hread).symm

end Severity

end AnalysisDesk
