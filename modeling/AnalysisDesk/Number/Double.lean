/-
Double-precision numbers.

A score is kept as its sixty-four bits, so that two scores are equal exactly when they are the
same number, the sign of zero included.  The order `totalKey` puts all bit patterns in one line:
negative NaNs, negative infinity, the negative numbers, the two zeros, and so on upwards.
-/
import AnalysisDesk.Number.Limits

namespace AnalysisDesk

/-- A double-precision number, by its bits. -/
structure Double where
  bits : UInt64
deriving DecidableEq, Inhabited, Repr

namespace Double

/-- The place value of the sign bit. -/
def signPlace : Nat := 9223372036854775808

/-- The number of fractions, which is the place value of the lowest exponent bit. -/
def fractionCount : Nat := 4503599627370496

/-- The sign bit. -/
def isNegative (d : Double) : Bool := signPlace ≤ d.bits.toNat

/-- The bits below the sign: exponent and fraction. -/
def magnitude (d : Double) : Nat := d.bits.toNat % signPlace

/-- The eleven exponent bits. -/
def exponentBits (d : Double) : Nat := d.magnitude / fractionCount

/-- The fifty-two fraction bits. -/
def fractionBits (d : Double) : Nat := d.magnitude % fractionCount

/-- Neither an infinity nor a NaN. -/
def isFinite (d : Double) : Bool := d.exponentBits < 2047

def isNaN (d : Double) : Bool := 2047 * fractionCount < d.magnitude

def isZero (d : Double) : Bool := d.magnitude == 0

def zero : Double := ⟨0⟩
def negZero : Double := ⟨0x8000000000000000⟩
def infinity : Double := ⟨0x7FF0000000000000⟩
def negInfinity : Double := ⟨0xFFF0000000000000⟩
def nan : Double := ⟨0x7FF8000000000000⟩
def negNaN : Double := ⟨0xFFF8000000000000⟩

/-- The same number with the sign bit set. -/
def negate (d : Double) : Double := ⟨d.bits ^^^ 0x8000000000000000⟩

/-- The place of a bit pattern in the total order of all doubles. -/
def totalKey (d : Double) : Int :=
  if d.isNegative then -1 - (d.magnitude : Int) else d.magnitude

/-- The place of a number among the numbers: both zeros have the same one. -/
def numericKey (d : Double) : Int :=
  if d.isNegative then -(d.magnitude : Int) else d.magnitude

/-- The significand `m` and the exponent `q` of a finite number of magnitude `m * 2 ^ q`. -/
def significand (d : Double) : Nat × Int :=
  if d.exponentBits = 0 then (d.fractionBits, -1074)
  else (d.fractionBits + fractionCount, (d.exponentBits : Int) - 1075)

/-! ### Arithmetic -/

def ofFloat (f : Float) : Double := ⟨f.toBits⟩
def toFloat (d : Double) : Float := Float.ofBits d.bits

def add (a b : Double) : Double := ofFloat (a.toFloat + b.toFloat)
def sub (a b : Double) : Double := ofFloat (a.toFloat - b.toFloat)
def mul (a b : Double) : Double := ofFloat (a.toFloat * b.toFloat)
def div (a b : Double) : Double := ofFloat (a.toFloat / b.toFloat)

/-! ### Rounding -/

/-- The integer nearest to `num / den`; a half goes to the even neighbour. -/
def roundHalfEven (num den : Nat) : Nat :=
  let q := num / den
  let twice := 2 * (num % den)
  if twice < den then q
  else if den < twice then q + 1
  else if q % 2 = 0 then q else q + 1

/-- The greatest `k` with `2 ^ k ≤ num / den`, for positive `num` and `den`. -/
def floorLog2 (num den : Nat) : Int :=
  let k : Int := (num.log2 : Int) - den.log2
  let fits := if 0 ≤ k then den * twoTo k.toNat ≤ num else den ≤ num * twoTo (-k).toNat
  if fits then k else k - 1

/-- The double nearest to `num / den`; `none` where that lies beyond the finite numbers. -/
def ofRatio? (num den : Nat) : Option Double :=
  if num = 0 then some zero
  else
    let q : Int := max (floorLog2 num den - 52) (-1074)
    let m := if 0 ≤ q then roundHalfEven num (den * twoTo q.toNat)
             else roundHalfEven (num * twoTo (-q).toNat) den
    let place := m + ((q + 1074).toNat) * fractionCount
    if place < 2047 * fractionCount then some ⟨UInt64.ofNat place⟩ else none

/-- How many decimal digits a positive number has, give or take one. -/
def decimalWidth (n : Nat) : Nat := n.log2 * 30103 / 100000 + 1

/-- The double nearest to `digits * 10 ^ exponent`; `none` beyond the finite numbers. -/
def ofDecimal? (digits : Nat) (exponent : Int) : Option Double :=
  if digits = 0 then some zero
  else
    let width : Int := (decimalWidth digits : Int) + exponent
    if 320 < width then none
    else if width < -350 then some zero
    else if 0 ≤ exponent then ofRatio? (digits * tenTo exponent.toNat) 1
    else ofRatio? digits (tenTo (-exponent).toNat)

/-- The double nearest to a whole number below `2 ^ 64`. -/
def ofNat (n : Nat) : Double := (ofRatio? n 1).getD infinity

/-- The double nearest to a whole number. -/
def ofInt (i : Int) : Double :=
  if i < 0 then negate (ofNat i.natAbs) else ofNat i.natAbs

theorem totalKey_inj {a b : Double} (h : a.totalKey = b.totalKey) : a = b := by
  obtain ⟨x⟩ := a
  obtain ⟨y⟩ := b
  have hx := x.toNat_lt
  have hy := y.toNat_lt
  simp only [totalKey, isNegative, magnitude, decide_eq_true_eq] at h
  have : x.toNat = y.toNat := by unfold signPlace at h; split at h <;> split at h <;> omega
  exact congrArg Double.mk (UInt64.toNat_inj.1 this)

end Double

end AnalysisDesk
