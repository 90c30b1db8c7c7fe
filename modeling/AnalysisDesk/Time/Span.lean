/-
Spans of time.

A span is a whole number of nanoseconds, at most as many as sixty-four bits of seconds hold.  It
grows no further: sums and multiples stop at the longest span.
-/
import AnalysisDesk.Number.Limits

namespace AnalysisDesk

/-- A span of time in nanoseconds. -/
structure Span where
  nanos : Nat
deriving DecidableEq, Repr, Inhabited

namespace Span

def nanosPerSecond : Nat := 1000000000

/-- The longest span. -/
def longest : Span := ⟨(Limit.word64 + 1) * nanosPerSecond - 1⟩

def zero : Span := ⟨0⟩

/-- A span of seconds and further nanoseconds. -/
def ofParts (seconds nanos : Nat) : Span := ⟨min (seconds * nanosPerSecond + nanos) longest.nanos⟩

def ofSeconds (seconds : Nat) : Span := ofParts seconds 0
def ofMillis (millis : Nat) : Span := ⟨min (millis * 1000000) longest.nanos⟩
def ofNanos (nanos : Nat) : Span := ⟨min nanos longest.nanos⟩

/-- The whole seconds. -/
def seconds (s : Span) : Nat := s.nanos / nanosPerSecond

/-- The nanoseconds after the whole seconds. -/
def subsecNanos (s : Span) : Nat := s.nanos % nanosPerSecond

/-- A multiple.  Seconds and nanoseconds are multiplied apart, and nanoseconds that fill seconds are
carried over; where the seconds then need more than sixty-four bits it is the longest span. -/
def times (s : Span) (k : Nat) : Span :=
  let nanos := s.subsecNanos * k
  let seconds := s.seconds * k + nanos / nanosPerSecond
  if seconds ≤ Limit.word64 then ⟨seconds * nanosPerSecond + nanos % nanosPerSecond⟩ else longest

/-- The shorter one. -/
def atMost (s limit : Span) : Span := if s.nanos ≤ limit.nanos then s else limit

/-- What is left of a span after another one; nothing if that is as long. -/
def minus (s t : Span) : Span := ⟨s.nanos - t.nanos⟩

/-- The digits of a fraction of `width` places without the zeros at its end. -/
def fractionDigits (value width : Nat) : List Char :=
  let digits := (Nat.repr value).toList
  let padded := List.replicate (width - digits.length) '0' ++ digits
  (padded.reverse.dropWhile (· == '0')).reverse

/-- A number of units and a fraction of `width` places. -/
def inUnits (whole fraction width : Nat) (unit : String) : String :=
  let digits := fractionDigits fraction width
  toString whole ++ (if digits.isEmpty then "" else "." ++ String.ofList digits) ++ unit

/-- A span in the largest unit of which it has one: seconds, milliseconds, microseconds or
nanoseconds. -/
def describe (s : Span) : String :=
  if 0 < s.seconds then inUnits s.seconds s.subsecNanos 9 "s"
  else if 1000000 ≤ s.nanos then inUnits (s.nanos / 1000000) (s.nanos % 1000000) 6 "ms"
  else if 1000 ≤ s.nanos then inUnits (s.nanos / 1000) (s.nanos % 1000) 3 "µs"
  else inUnits s.nanos 0 1 "ns"

end Span

end AnalysisDesk
