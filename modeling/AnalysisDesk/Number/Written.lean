/-
How a number is written.

Part of the format is a choice: from which exponent on the digits are followed by a power of
ten, and that a whole number keeps its `.0`, so that it reads back as a floating-point number.
`NumberFormat` records these choices and `NumberFormat.document` is the one used in documents
and messages.
-/
import AnalysisDesk.Number.Shortest

namespace AnalysisDesk

/-- Where a decimal is written with a power of ten. -/
structure NumberFormat where
  /-- The least exponent of the first digit written without a power of ten. -/
  leastPlain : Int
  /-- The greatest one. -/
  greatestPlain : Int

namespace NumberFormat

/-- Plain from `0.00001` to below `10 ^ 16`. -/
def document : NumberFormat := ⟨-5, 15⟩

/-- The decimal digits of a number, most significant first. -/
def digitsOf (n : Nat) : List Char := (Nat.repr n).toList

def zeros (n : Nat) : List Char := List.replicate n '0'

/-- Digits with the point after the first `k` of them. -/
def pointAfter (digits : List Char) (k : Nat) : List Char :=
  if digits.length ≤ k then digits ++ zeros (k - digits.length) ++ ".0".toList
  else digits.take k ++ '.' :: digits.drop k

/-- The text of a positive decimal. -/
def decimal (f : NumberFormat) (d : Decimal) : List Char :=
  let digits := digitsOf d.digits
  let first : Int := d.exponent + (digits.length : Int) - 1
  if f.leastPlain ≤ first ∧ first ≤ f.greatestPlain then
    if 0 ≤ first then pointAfter digits (first.toNat + 1)
    else "0.".toList ++ zeros ((-first).toNat - 1) ++ digits
  else
    let mantissa := match digits with
      | [] => []
      | [c] => [c]
      | c :: rest => c :: '.' :: rest
    let sign := if 0 ≤ first then '+' else '-'
    mantissa ++ 'e' :: sign :: digitsOf first.natAbs

/-- The text of a double.  A NaN and the infinities have no place in a document; their names
serve messages only. -/
def double (f : NumberFormat) (d : Double) : String :=
  if d.isNaN then "NaN"
  else
    let body :=
      if !d.isFinite then "inf".toList
      else if d.isZero then "0.0".toList
      else f.decimal d.shortest
    String.ofList (if d.isNegative then '-' :: body else body)

end NumberFormat

/-- The text of a double in a document. -/
def Double.text (d : Double) : String := NumberFormat.document.double d

end AnalysisDesk
