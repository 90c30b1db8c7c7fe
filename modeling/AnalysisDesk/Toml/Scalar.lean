/-
Words of a settings file: truth values, numbers, dates and times.

A word is what stands between blanks, brackets and commas without quotes.  A number has no
needless zeros in front, and its digits may be parted by single underscores.  Whole numbers may
also be written to the bases two, eight and sixteen, then without a sign.
-/
import AnalysisDesk.Time.Civil
import AnalysisDesk.Toml.Value

namespace AnalysisDesk.Toml

/-! ### Numbers -/

/-- The value of a digit to a base up to sixteen. -/
def digitValue? (base : Nat) (c : Char) : Option Nat :=
  let value? :=
    if c.isDigit then some (c.toNat - '0'.toNat)
    else if 'a' ≤ c ∧ c ≤ 'f' then some (c.toNat - 'a'.toNat + 10)
    else if 'A' ≤ c ∧ c ≤ 'F' then some (c.toNat - 'A'.toNat + 10)
    else none
  value?.filter (· < base)

/-- Reads digits parted by single underscores, after the digits of `value`. -/
def digitsFrom (base value : Nat) : List Char → Option Nat
  | [] => some value
  | '_' :: c :: rest => do
    let digit ← digitValue? base c
    digitsFrom base (base * value + digit) rest
  | c :: rest => do
    let digit ← digitValue? base c
    digitsFrom base (base * value + digit) rest

/-- The value of digits, at least one. -/
def digits? (base : Nat) : List Char → Option Nat
  | [] => none
  | c :: rest => do
    let digit ← digitValue? base c
    digitsFrom base digit rest

/-- The value of decimal digits without a needless zero in front. -/
def decimal? : List Char → Option Nat
  | '0' :: _ :: _ => none
  | cs => digits? 10 cs

/-- A whole number, if it can be written. -/
def int? (value : Int) : Option Toml :=
  if leastInt ≤ value ∧ value ≤ greatestInt then some (.int value) else none

/-- How many digits a row of digits and underscores has. -/
def digitCount (cs : List Char) : Nat := (cs.filter (· != '_')).length

/-- Reads the power of ten of a number. -/
def exponent? : List Char → Option Int
  | '-' :: rest => (digits? 10 rest).map fun n => -(n : Int)
  | '+' :: rest => (digits? 10 rest).map Int.ofNat
  | cs => (digits? 10 cs).map Int.ofNat

/-- The number with the digits `whole`, the digits `fraction` after the point and a power of ten;
`none` if that is not finite. -/
def float? (negative : Bool) (whole : Nat) (fraction : List Char) (exponent : Int) :
    Option Toml := do
  let digits ← if fraction.isEmpty then some whole else do
    let _ ← digits? 10 fraction
    digitsFrom 10 whole fraction
  let value ← Double.ofDecimal? digits (exponent - (digitCount fraction : Int))
  some (.float (if negative then value.negate else value))

def isExponentMark (c : Char) : Bool := c = 'e' || c = 'E'

/-- Reads a number after its sign. -/
def number? (negative : Bool) (cs : List Char) : Option Toml := do
  let head := cs.takeWhile fun c => c != '.' && !isExponentMark c
  let whole ← decimal? head
  match cs.drop head.length with
  | [] => int? (if negative then -(whole : Int) else whole)
  | '.' :: rest =>
    let fraction := rest.takeWhile fun c => !isExponentMark c
    if fraction.isEmpty then none
    else
      match rest.drop fraction.length with
      | [] => float? negative whole fraction 0
      | _ :: power => float? negative whole fraction (← exponent? power)
  | _ :: power => float? negative whole [] (← exponent? power)

/-! ### Dates and times -/

/-- The number with exactly `n` digits at the front. -/
def fixedDigits? (n : Nat) (cs : List Char) : Option (Nat × List Char) := do
  let front := cs.take n
  if front.length = n then some ((← front.foldlM (fun value c =>
    (digitValue? 10 c).map (10 * value + ·)) 0), cs.drop n) else none

/-- What follows a character that has to stand at the front. -/
def after? (c : Char) : List Char → Option (List Char)
  | d :: rest => if c = d then some rest else none
  | [] => none

/-- What follows a day of the calendar. -/
def afterDay? (cs : List Char) : Option (List Char) := do
  let (year, cs) ← fixedDigits? 4 cs
  let (month, cs) ← fixedDigits? 2 (← after? '-' cs)
  let (day, cs) ← fixedDigits? 2 (← after? '-' cs)
  if (⟨year, month, day⟩ : Date).isValid then some cs else none

/-- What follows hours and minutes. -/
def afterClock? (cs : List Char) : Option (List Char) := do
  let (hour, cs) ← fixedDigits? 2 cs
  let (minute, cs) ← fixedDigits? 2 (← after? ':' cs)
  if hour ≤ 23 ∧ minute ≤ 59 then some cs else none

/-- What follows a time of day, whose seconds may be missing. -/
def afterTime? (cs : List Char) : Option (List Char) := do
  match ← afterClock? cs with
  | ':' :: rest =>
    let (second, rest) ← fixedDigits? 2 rest
    if 60 < second then none
    else
      match rest with
      | '.' :: fraction =>
        let digits := fraction.takeWhile Char.isDigit
        if digits.isEmpty then none else some (fraction.drop digits.length)
      | _ => some rest
  | rest => some rest

/-- Whether a text is the distance from universal time. -/
def isOffset : List Char → Bool
  | [] => true
  | ['Z'] | ['z'] => true
  | '+' :: rest | '-' :: rest => afterClock? rest == some []
  | _ => false

/-- Whether a text is a date, a time, or both. -/
def isMoment (cs : List Char) : Bool :=
  match afterDay? cs with
  | some [] => true
  | some (c :: rest) =>
    if c = 'T' ∨ c = 't' ∨ c = ' ' then (afterTime? rest).any isOffset else false
  | none => afterTime? cs == some []

/-- Whether a word looks like a date or a time: its digits are followed by a minus or a colon. -/
def looksLikeMoment (cs : List Char) : Bool :=
  match cs.dropWhile Char.isDigit with
  | c :: rest => (c = '-' || c = ':') && rest.length + 1 < cs.length
  | [] => false

/-! ### Words -/

/-- The value of a word. -/
def word? (cs : List Char) : Option Toml :=
  match String.ofList cs with
  | "true" => some (.bool true)
  | "false" => some (.bool false)
  | "inf" | "+inf" => some (.float .infinity)
  | "-inf" => some (.float .negInfinity)
  | "nan" | "+nan" => some (.float .nan)
  | "-nan" => some (.float .negNaN)
  | text =>
    match cs with
    | '0' :: 'x' :: rest => (digits? 16 rest).bind fun n => int? n
    | '0' :: 'o' :: rest => (digits? 8 rest).bind fun n => int? n
    | '0' :: 'b' :: rest => (digits? 2 rest).bind fun n => int? n
    | '+' :: rest => number? false rest
    | '-' :: rest => number? true rest
    | cs =>
      if looksLikeMoment cs then if isMoment cs then some (.moment text) else none
      else number? false cs

end AnalysisDesk.Toml
