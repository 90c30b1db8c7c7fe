/-
Trying again.

A call that fails with a passing fault is made again after a pause, as long as there are attempts
left.  The pause doubles from one attempt to the next up to a longest one.

`RetryPolicy.pause?` is the whole decision, and everything that tries again asks it.
-/
import AnalysisDesk.Analyzer.Fault
import AnalysisDesk.Time.Span

namespace AnalysisDesk

/-- How often a call is made, and how long the pauses are. -/
structure RetryPolicy where
  attempts : Nat
  firstPause : Span
  longestPause : Span
deriving DecidableEq, Repr, Inhabited

namespace RetryPolicy

/-- Three attempts, a fifth of a second after the first. -/
def standard : RetryPolicy := ⟨3, .ofMillis 200, .ofMillis 5000⟩

/-- What the first pause is multiplied by after attempt number `attempt`, counted from one: a
power of two as long as it has thirty-two bits. -/
def factor (attempt : Nat) : Nat :=
  if 32 ≤ attempt - 1 then Limit.word32 else twoTo (attempt - 1)

/-- The pause after failed attempt number `attempt`. -/
def pause (p : RetryPolicy) (attempt : Nat) : Span :=
  (p.firstPause.times (factor attempt)).atMost p.longestPause

/-- The pause before the next attempt, if there is to be one after attempt number `attempt` was
answered. -/
def pause? {α : Type} (p : RetryPolicy) (attempt : Nat) : Except AnalyzerFault α → Option Span
  | .ok _ => none
  | .error fault => if fault.isPassing ∧ attempt < p.attempts then some (p.pause attempt) else none

/-! ### A run of attempts -/

/-- What became of a call that was made as often as a policy says.  All times count from the start
of the first attempt. -/
structure Attempts (α : Type) where
  result : Except AnalyzerFault α
  /-- When each attempt began. -/
  starts : List Span
  /-- When each attempt was answered. -/
  ends : List Span
  /-- When it was all over. -/
  finish : Span

/-- Goes on at `start` with attempt number `attempt`, when `left` more may follow it. -/
def runFrom {α : Type} (p : RetryPolicy) (answer : Nat → Except AnalyzerFault α)
    (took : Nat → Span) : Nat → Nat → Span → Attempts α
  | 0, attempt, start =>
    let answered : Span := ⟨start.nanos + (took attempt).nanos⟩
    ⟨answer attempt, [start], [answered], answered⟩
  | left + 1, attempt, start =>
    let answered : Span := ⟨start.nanos + (took attempt).nanos⟩
    match p.pause? attempt (answer attempt) with
    | none => ⟨answer attempt, [start], [answered], answered⟩
    | some pause =>
      let rest := runFrom p answer took left (attempt + 1) ⟨answered.nanos + pause.nanos⟩
      { rest with starts := start :: rest.starts, ends := answered :: rest.ends }

/-- Makes a call whose attempt number `k` takes `took k` and gets the answer `answer k`. -/
def runTaking {α : Type} (p : RetryPolicy) (answer : Nat → Except AnalyzerFault α)
    (took : Nat → Span) : Attempts α :=
  p.runFrom answer took (p.attempts - 1) 1 .zero

/-- Makes a call that is answered at once each time. -/
def run {α : Type} (p : RetryPolicy) (answer : Nat → Except AnalyzerFault α) : Attempts α :=
  p.runTaking answer fun _ => .zero

end RetryPolicy

end AnalysisDesk
