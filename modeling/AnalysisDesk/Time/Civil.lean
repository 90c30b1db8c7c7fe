/-
The calendar.

Days are counted from the first of January 1970 in both directions, by the Gregorian rule
carried over all years.  `Date.ofDay` finds the year by a guess that is off by at most one, then
the month by going through the twelve lengths.
-/
namespace AnalysisDesk

/-- A day of the calendar. -/
structure Date where
  year : Int
  month : Nat
  day : Nat
deriving DecidableEq, Repr, Inhabited

namespace Date

def isLeapYear (year : Int) : Bool := year % 4 = 0 ∧ (year % 100 ≠ 0 ∨ year % 400 = 0)

/-- The lengths of a year's months. -/
def monthLengths (year : Int) : List Nat :=
  [31, if isLeapYear year then 29 else 28, 31, 30, 31, 30, 31, 31, 30, 31, 30, 31]

/-- The length of a month; nothing for a month that does not exist. -/
def monthLength (year : Int) (month : Nat) : Nat :=
  if month = 0 then 0 else (monthLengths year).getD (month - 1) 0

/-- Whether the calendar has this day. -/
def isValid (d : Date) : Bool := 1 ≤ d.day && d.day ≤ monthLength d.year d.month

/-- The days from the first of January of the year 1 to that of `year`. -/
def daysBeforeYear (year : Int) : Int :=
  365 * (year - 1) + (year - 1) / 4 - (year - 1) / 100 + (year - 1) / 400

/-- The days from the first of January of the year 1 to that of the year 1970. -/
def epochDays : Int := 719162

/-- The days of a year before one of its months. -/
def daysBeforeMonth (year : Int) (month : Nat) : Nat :=
  ((monthLengths year).take (month - 1)).foldl (· + ·) 0

/-- The number of a day, counted from 1970. -/
def toDay (d : Date) : Int :=
  daysBeforeYear d.year - epochDays + (daysBeforeMonth d.year d.month : Int) + (d.day : Int) - 1

/-- The year of the day that lies `n` days after the first of January of the year 1. -/
def yearOf (n : Int) : Int :=
  let guess := n * 400 / 146097 + 1
  if n < daysBeforeYear guess then guess - 1
  else if daysBeforeYear (guess + 1) ≤ n then guess + 1
  else guess

/-- The month and the day of the month that lie `n` days into the months with these lengths,
the first of which has the number `month`. -/
def monthOf : List Nat → Nat → Nat → Nat × Nat
  | [], month, n => (month, n + 1)
  | [_], month, n => (month, n + 1)
  | length :: rest, month, n =>
    if n < length then (month, n + 1) else monthOf rest (month + 1) (n - length)

/-- The day with a number counted from 1970. -/
def ofDay (day : Int) : Date :=
  let n := day + epochDays
  let year := yearOf n
  let md := monthOf (monthLengths year) 1 (n - daysBeforeYear year).toNat
  ⟨year, md.1, md.2⟩

end Date

end AnalysisDesk
