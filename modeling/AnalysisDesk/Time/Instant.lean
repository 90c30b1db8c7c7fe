/-
Instants.

An instant is a number of nanoseconds before or after the beginning of 1970, in universal time.
It is written in the usual form of date, time and offset; how many digits the fraction of a second
gets depends on the use: stored timestamps always have three, answers as many groups of three as
are needed.

The stored form is cut, not rounded, to milliseconds, so two stored timestamps compare as texts
in the order of their milliseconds, at least for the years 0 to 9999.
-/
import AnalysisDesk.Time.Civil
import AnalysisDesk.Time.Span

namespace AnalysisDesk

/-- An instant: nanoseconds since the beginning of 1970. -/
structure Instant where
  nanos : Int
deriving DecidableEq, Repr, Inhabited

namespace Instant

def nanosPerMilli : Int := 1000000
def nanosPerDay : Int := 86400000000000

def ofMillis (millis : Int) : Instant := ⟨millis * nanosPerMilli⟩

/-- The whole milliseconds, cut downwards. -/
def millis (t : Instant) : Int := t.nanos / nanosPerMilli

/-- The instant cut down to whole milliseconds. -/
def cut (t : Instant) : Instant := ofMillis t.millis

/-- The first whole millisecond that is not before an instant. -/
def roundUp (t : Instant) : Instant := ofMillis (-(-t.nanos / nanosPerMilli))

def after (t : Instant) (s : Span) : Instant := ⟨t.nanos + s.nanos⟩

/-- The span from an earlier instant to a later one; nothing the other way round. -/
def since (later earlier : Instant) : Span := ⟨(later.nanos - earlier.nanos).toNat⟩

def date (t : Instant) : Date := Date.ofDay (t.nanos / nanosPerDay)

/-- The nanoseconds since midnight. -/
def nanosOfDay (t : Instant) : Nat := (t.nanos % nanosPerDay).toNat

def year (t : Instant) : Int := t.date.year

/-- An instant from a date and the nanoseconds since midnight. -/
def ofParts (d : Date) (nanosOfDay : Nat) : Instant := ⟨d.toDay * nanosPerDay + nanosOfDay⟩

/-- The earliest and the latest day the clock can show. -/
def firstDay : Date := ⟨-262143, 1, 1⟩
def lastDay : Date := ⟨262142, 12, 31⟩

/-- Whether the clock can show the instant. -/
def isShowable (t : Instant) : Bool :=
  firstDay.toDay * nanosPerDay ≤ t.nanos && t.nanos < (lastDay.toDay + 1) * nanosPerDay

/-! ### Writing -/

/-- A number with at least `width` digits. -/
def padded (width n : Nat) : List Char :=
  let digits := (Nat.repr n).toList
  List.replicate (width - digits.length) '0' ++ digits

/-- A year: four digits, or a sign and at least four for a year that needs more than that. -/
def yearText (year : Int) : List Char :=
  if 0 ≤ year ∧ year ≤ 9999 then padded 4 year.toNat
  else if year < 0 then '-' :: padded 4 year.natAbs
  else '+' :: padded 4 year.natAbs

def dateText (d : Date) : List Char :=
  yearText d.year ++ '-' :: padded 2 d.month ++ '-' :: padded 2 d.day

/-- The time of day in whole seconds. -/
def timeText (seconds : Nat) : List Char :=
  padded 2 (seconds / 3600) ++ ':' :: padded 2 (seconds / 60 % 60) ++ ':' :: padded 2 (seconds % 60)

/-- Date, time and fraction of a second in universal time. -/
def textWith (fraction : Nat → List Char) (t : Instant) : String :=
  String.ofList (dateText t.date ++ 'T' :: timeText (t.nanosOfDay / Span.nanosPerSecond)
    ++ fraction (t.nanosOfDay % Span.nanosPerSecond) ++ ['Z'])

/-- The stored form: three digits of a second. -/
def stored (t : Instant) : String := t.textWith fun nanos => '.' :: padded 3 (nanos / 1000000)

/-- The form of answers: no fraction if it is zero, else three, six or nine digits. -/
def text (t : Instant) : String :=
  t.textWith fun nanos =>
    if nanos = 0 then []
    else if nanos % 1000000 = 0 then '.' :: padded 3 (nanos / 1000000)
    else if nanos % 1000 = 0 then '.' :: padded 6 (nanos / 1000)
    else '.' :: padded 9 nanos

end Instant

end AnalysisDesk
