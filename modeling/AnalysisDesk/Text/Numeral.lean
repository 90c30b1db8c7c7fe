/-
Whole numbers in texts.

A number is a row of digits, after a plus or a minus if its type has a sign.  It has to lie in the
range of its type, and reading stops at the first digit that leads out of the range, even if
something follows that is no digit.
-/
import AnalysisDesk.Number.Limits
import AnalysisDesk.Text.Blank

namespace AnalysisDesk.Text

/-- Why a text is no whole number of a type. -/
inductive NumeralFault where
  | empty
  | badDigit
  | tooLarge
  | tooSmall
deriving DecidableEq, Repr

def NumeralFault.message : NumeralFault → String
  | .empty => "cannot parse integer from empty string"
  | .badDigit => "invalid digit found in string"
  | .tooLarge => "number too large to fit in target type"
  | .tooSmall => "number too small to fit in target type"

/-- Reads digits up to a greatest value; `overflow` is the fault of a greater one. -/
def readDigits (greatest : Nat) (overflow : NumeralFault) :
    Nat → List Char → Except NumeralFault Nat
  | value, [] => .ok value
  | value, c :: rest =>
    if c.isDigit then
      let value := 10 * value + (c.toNat - '0'.toNat)
      if greatest < value then .error overflow else readDigits greatest overflow value rest
    else .error .badDigit

/-- Digits, at least one. -/
def readSomeDigits (greatest : Nat) (overflow : NumeralFault) (cs : List Char) :
    Except NumeralFault Nat :=
  if cs.isEmpty then .error .badDigit else readDigits greatest overflow 0 cs

/-- Reads a number without sign; a plus may stand before it. -/
def readNatural (greatest : Nat) (s : String) : Except NumeralFault Nat :=
  match s.toList with
  | [] => .error .empty
  | '+' :: rest => readSomeDigits greatest .tooLarge rest
  | cs => readSomeDigits greatest .tooLarge cs

/-- Reads a number of sixty-four bits with sign. -/
def readInteger (s : String) : Except NumeralFault Int :=
  match s.toList with
  | [] => .error .empty
  | '+' :: rest => (readSomeDigits Limit.greatest64.toNat .tooLarge rest).map Int.ofNat
  | '-' :: rest => (readSomeDigits (-Limit.least64).toNat .tooSmall rest).map fun n => -(n : Int)
  | cs => (readSomeDigits Limit.greatest64.toNat .tooLarge cs).map Int.ofNat

end AnalysisDesk.Text
