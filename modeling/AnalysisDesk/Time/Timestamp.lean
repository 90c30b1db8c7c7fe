/-
Reading timestamps.

A timestamp is a date, a time and an offset from universal time.  There are two readers.  The
strict one takes what the stored form can be, with any offset.  The lenient one also takes blanks
between the parts, shorter numbers and the name of universal time.  Both name the kind of the
first fault.
-/
import AnalysisDesk.Time.Instant
import AnalysisDesk.Text.Blank

namespace AnalysisDesk

/-- What is wrong with the text of a timestamp. -/
inductive TimestampFault where
  | outOfRange
  | invalid
  | tooShort
  | tooLong
deriving DecidableEq, Repr

def TimestampFault.message : TimestampFault → String
  | .outOfRange => "input is out of range"
  | .invalid => "input contains invalid characters"
  | .tooShort => "premature end of input"
  | .tooLong => "trailing input"

namespace Timestamp

/-- The parts of a timestamp as they are read. -/
structure Parts where
  year : Int
  month : Nat
  day : Nat
  hour : Nat
  minute : Nat
  second : Nat
  nanos : Nat
  /-- The offset from universal time in seconds. -/
  offset : Int

/-- The length of a text in bytes. -/
def byteLength (cs : List Char) : Nat := cs.foldl (fun n c => n + c.utf8Size) 0

abbrev Scan (α : Type) := Except TimestampFault (α × List Char)

/-- Takes digits up to `most` many: the value, how many there were and what follows. -/
def takeDigits : Nat → Nat → Nat → List Char → Nat × Nat × List Char
  | 0, value, count, cs => (value, count, cs)
  | _ + 1, value, count, [] => (value, count, [])
  | most + 1, value, count, c :: rest =>
    if c.isDigit then takeDigits most (value * 10 + (c.toNat - '0'.toNat)) (count + 1) rest
    else (value, count, c :: rest)

/-- A number of at least `least` and at most `most` digits. -/
def number (least most : Nat) (cs : List Char) : Scan Nat :=
  if byteLength cs < least then .error .tooShort
  else
    let (value, count, rest) := takeDigits most 0 0 cs
    if count < least then .error .invalid else .ok (value, rest)

/-- A number of a given range. -/
def within (low high : Nat) (scanned : Scan Nat) : Scan Nat :=
  match scanned with
  | .error fault => .error fault
  | .ok (value, rest) =>
    if low ≤ value ∧ value ≤ high then .ok (value, rest) else .error .outOfRange

/-- One given character. -/
def mark (c : Char) : List Char → Except TimestampFault (List Char)
  | [] => .error .tooShort
  | d :: rest => if d = c then .ok rest else .error .invalid

/-- The mark between date and time. -/
def dateEnd : List Char → Except TimestampFault (List Char)
  | [] => .error .tooShort
  | c :: rest => if c = 'T' ∨ c = 't' ∨ c = ' ' then .ok rest else .error .invalid

/-- A fraction of a second after its point: nine digits count, further ones are skipped. -/
def fraction (cs : List Char) : Scan Nat :=
  if cs.isEmpty then .error .tooShort
  else
    let (value, count, rest) := takeDigits 9 0 0 cs
    if count = 0 then .error .invalid
    else .ok (value * tenTo (9 - count), rest.dropWhile Char.isDigit)

/-- A fraction, if there is one. -/
def fraction? : List Char → Scan Nat
  | '.' :: rest => fraction rest
  | cs => .ok (0, cs)

/-- Two digits, not yet checked for their range. -/
def twoDigits? : List Char → Except TimestampFault (Nat × Nat × List Char)
  | a :: b :: rest =>
    if a.isDigit ∧ b.isDigit then .ok (a.toNat - '0'.toNat, b.toNat - '0'.toNat, rest)
    else .error .invalid
  | [a] => if 2 ≤ a.utf8Size then .error .invalid else .error .tooShort
  | [] => .error .tooShort

/-- An offset after its sign; `colon` takes what stands between hours and minutes. -/
def offsetDigits (colon : List Char → Except TimestampFault (List Char)) (cs : List Char) :
    Scan Nat :=
  match twoDigits? cs with
  | .error fault => .error fault
  | .ok (h1, h2, rest) =>
    match colon rest with
    | .error fault => .error fault
    | .ok rest =>
      match twoDigits? rest with
      | .error fault => .error fault
      | .ok (m1, m2, rest) =>
        if 5 < m1 then .error .outOfRange
        else .ok ((h1 * 10 + h2) * 3600 + (m1 * 10 + m2) * 60, rest)

/-- An offset in seconds: a letter for none, or a sign, hours and minutes. -/
def offset (colon : List Char → Except TimestampFault (List Char)) : List Char → Scan Int
  | [] => .error .tooShort
  | c :: rest =>
    if c = 'Z' ∨ c = 'z' then .ok (0, rest)
    else if c = '+' then (offsetDigits colon rest).map fun (seconds, rest) => ((seconds : Int), rest)
    else if c = '-' ∨ c = '\u2212' then
      (offsetDigits colon rest).map fun (seconds, rest) => (-(seconds : Int), rest)
    else .error .invalid

/-- The instant of the parts; the calendar must have the day. -/
def Parts.instant? (p : Parts) : Except TimestampFault Instant :=
  let date : Date := ⟨p.year, p.month, p.day⟩
  if !date.isValid then .error .outOfRange
  else
    let seconds := p.hour * 3600 + p.minute * 60 + p.second
    let local' := Instant.ofParts date (seconds * Span.nanosPerSecond + p.nanos)
    let t : Instant := ⟨local'.nanos - p.offset * Span.nanosPerSecond⟩
    if t.isShowable then .ok t else .error .outOfRange

/-- The greatest offset, a minute short of a day. -/
def greatestOffset : Int := (23 * 60 + 59) * 60

/-- Reads the parts strictly; returns what follows them too. -/
def strictParts (cs : List Char) : Except TimestampFault (Parts × List Char) := do
  let (year, cs) ← number 4 4 cs
  let cs ← mark '-' cs
  let (month, cs) ← within 1 12 (number 2 2 cs)
  let cs ← mark '-' cs
  let (day, cs) ← within 1 31 (number 2 2 cs)
  let cs ← dateEnd cs
  let (hour, cs) ← within 0 23 (number 2 2 cs)
  let cs ← mark ':' cs
  let (minute, cs) ← within 0 59 (number 2 2 cs)
  let cs ← mark ':' cs
  let (second, cs) ← within 0 60 (number 2 2 cs)
  let (nanos, cs) ← fraction? cs
  let (offset, cs) ← offset (mark ':') cs
  if offset < -greatestOffset ∨ greatestOffset < offset then throw .outOfRange
  return (⟨year, month, day, hour, minute, second, nanos, offset⟩, cs)

/-- Reads a timestamp strictly. -/
def read (s : String) : Except TimestampFault Instant :=
  match strictParts s.toList with
  | .error fault => .error fault
  | .ok (parts, rest) => if rest.isEmpty then parts.instant? else .error .tooLong

/-! ### The lenient reader -/

/-- A number after blanks. -/
def looseNumber (most : Nat) (cs : List Char) : Scan Nat := number 1 most (Text.dropBlank cs)

/-- A year after blanks, with or without a sign. -/
def looseYear (cs : List Char) : Scan Int :=
  match Text.dropBlank cs with
  | '-' :: rest => (number 1 rest.length rest).map fun (n, rest) => (-(n : Int), rest)
  | '+' :: rest => (number 1 rest.length rest).map fun (n, rest) => ((n : Int), rest)
  | cs => (number 1 4 cs).map fun (n, rest) => ((n : Int), rest)

/-- A mark after blanks. -/
def looseMark (c : Char) (cs : List Char) : Except TimestampFault (List Char) :=
  mark c (Text.dropBlank cs)

/-- Colons and blanks between hours and minutes of an offset, any number of them. -/
def colonOrBlank (cs : List Char) : Except TimestampFault (List Char) :=
  .ok (cs.dropWhile fun c => c = ':' || Text.isBlankChar c)

/-- An offset, or the name of universal time in any case of letters. -/
def looseOffset (cs : List Char) : Scan Int :=
  match cs with
  | a :: b :: c :: rest =>
    if a.toUpper = 'U' ∧ b.toUpper = 'T' ∧ c.toUpper = 'C' then .ok (0, rest)
    else offset colonOrBlank cs
  | _ => offset colonOrBlank cs

/-- Reads the parts leniently. -/
def looseParts (cs : List Char) : Except TimestampFault (Parts × List Char) := do
  let (year, cs) ← looseYear cs
  let cs ← looseMark '-' cs
  let (month, cs) ← within 1 12 (looseNumber 2 cs)
  let cs ← looseMark '-' cs
  let (day, cs) ← within 1 31 (looseNumber 2 cs)
  let cs ← dateEnd cs
  let (hour, cs) ← within 0 23 (looseNumber 2 cs)
  let cs ← looseMark ':' cs
  let (minute, cs) ← within 0 59 (looseNumber 2 cs)
  let cs ← looseMark ':' cs
  let (second, cs) ← within 0 60 (looseNumber 2 cs)
  let (nanos, cs) ← fraction? cs
  let (offset, cs) ← looseOffset (Text.dropBlank cs)
  if offset ≤ -86400 ∨ 86400 ≤ offset then throw .outOfRange
  return (⟨year, month, day, hour, minute, second, nanos, offset⟩, cs)

/-- Reads a timestamp leniently. -/
def readLenient (s : String) : Except TimestampFault Instant :=
  match looseParts s.toList with
  | .error fault => .error fault
  | .ok (parts, rest) =>
    if (Text.dropBlank rest).isEmpty then parts.instant? else .error .tooLong

end Timestamp

end AnalysisDesk
