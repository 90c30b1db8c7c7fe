/-
An analyzer that follows a script.

How the analyzer will answer is laid down beforehand: an entry for each attempt to hand it a job,
and for each handle an entry for each question and each request to drop the job.  An entry says
what the answer is and how long it takes.  Where the script ends, the analyzer takes every job,
says that jobs are under way and drops them when told to, all at once.

Every finite behaviour of an analyzer is a script.
-/
import AnalysisDesk.Analyzer.Answer
import AnalysisDesk.Time.Span

namespace AnalysisDesk

/-- An answer that takes its time. -/
structure Delayed (α : Type) where
  delay : Span
  answer : α
deriving Inhabited

/-- What the analyzer makes of a job that it is handed. -/
inductive Intake where
  /-- It takes it, under the given handle or under one of its own. -/
  | taken (handle : Option String)
  | refused (fault : AnalyzerFault)
deriving DecidableEq, Repr, Inhabited

/-- Answers by handle. -/
abbrev AnswersByHandle (α : Type) : Type := List (String × List (Delayed α))

/-- The script as far as it has not been used up. -/
structure Script where
  intakes : List (Delayed Intake)
  polls : AnswersByHandle (Except AnalyzerFault PollAnswer)
  drops : AnswersByHandle (Except AnalyzerFault Unit)
  /-- How many jobs the analyzer has taken. -/
  taken : Nat
deriving Inhabited

namespace AnswersByHandle

/-- Adds answers for a handle after those that it has. -/
def add {α : Type} (handle : String) (more : List (Delayed α)) :
    AnswersByHandle α → AnswersByHandle α
  | [] => [(handle, more)]
  | entry :: rest =>
    if entry.1 = handle then (handle, entry.2 ++ more) :: rest else entry :: add handle more rest

/-- Takes the next answer for a handle. -/
def take? {α : Type} (handle : String) :
    AnswersByHandle α → Option (Delayed α) × AnswersByHandle α
  | [] => (none, [])
  | entry :: rest =>
    if entry.1 = handle then
      match entry.2 with
      | [] => (none, entry :: rest)
      | answer :: more => (some answer, (handle, more) :: rest)
    else
      let (answer, rest) := take? handle rest
      (answer, entry :: rest)

end AnswersByHandle

namespace Script

def empty : Script := ⟨[], [], [], 0⟩

/-- One script after another. -/
def append (s t : Script) : Script where
  intakes := s.intakes ++ t.intakes
  polls := t.polls.foldl (fun answers entry => answers.add entry.1 entry.2) s.polls
  drops := t.drops.foldl (fun answers entry => answers.add entry.1 entry.2) s.drops
  taken := s.taken

/-- What the analyzer will make of the next job. -/
def nextIntake (s : Script) : Delayed Intake × Script :=
  match s.intakes with
  | [] => (⟨.zero, .taken none⟩, s)
  | entry :: rest => (entry, { s with intakes := rest })

/-- What it will say when asked about a job. -/
def nextPoll (s : Script) (handle : String) : Delayed (Except AnalyzerFault PollAnswer) × Script :=
  let (entry, polls) := s.polls.take? handle
  (entry.getD ⟨.zero, .ok .underway⟩, { s with polls })

/-- What it will say when told to drop a job. -/
def nextDrop (s : Script) (handle : String) : Delayed (Except AnalyzerFault Unit) × Script :=
  let (entry, drops) := s.drops.take? handle
  (entry.getD ⟨.zero, .ok ()⟩, { s with drops })

/-- The answer to an attempt to hand over a job, and the script afterwards.  The analyzer's own
handles are numbered in the order in which it takes jobs. -/
def take (s : Script) : Intake → Except AnalyzerFault String × Script
  | .refused fault => (.error fault, s)
  | .taken handle =>
    let taken := s.taken + 1
    (.ok (handle.getD ("ext-" ++ toString taken)), { s with taken })

end Script

end AnalysisDesk
