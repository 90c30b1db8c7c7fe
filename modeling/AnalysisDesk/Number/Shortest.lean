/-
The shortest decimal of a double.

A positive finite double `m * 2 ^ q` is the nearest double to every real of an interval around
it.  Among the decimals of that interval the ones with the fewest digits are wanted, and of
those the one nearest to the number.  All arithmetic is on natural numbers: the number and the
two ends of the interval are put over one denominator.

The search tries one digit, two digits, up to seventeen, which always suffice.  For each count
there are only two decimals to look at, the ones on either side of the number.
-/
import AnalysisDesk.Number.Double

namespace AnalysisDesk

/-- A positive decimal `digits * 10 ^ exponent`. -/
structure Decimal where
  digits : Nat
  exponent : Int
deriving DecidableEq, Repr, Inhabited

/-- The reals that round to one double, over a common denominator. -/
structure RoundingInterval where
  low : Nat
  value : Nat
  high : Nat
  den : Nat
  /-- The ends belong to it: a half goes to the even neighbour. -/
  closed : Bool

namespace RoundingInterval

/-- The interval of the positive number with significand `m` and exponent `q`.  Below a power of
two the doubles lie twice as dense, so there the lower end is nearer. -/
def ofSignificand (m : Nat) (q : Int) : RoundingInterval :=
  let nearer := m = Double.fractionCount ∧ -1074 < q
  let low := if nearer then 4 * m - 1 else 4 * m - 2
  let e : Int := q - 2
  let scale := if 0 ≤ e then twoTo e.toNat else 1
  let den := if 0 ≤ e then 1 else twoTo (-e).toNat
  { low := low * scale, value := 4 * m * scale, high := (4 * m + 2) * scale, den := den,
    closed := m % 2 = 0 }

/-- Whether the decimal `n * 10 ^ e` lies in the interval. -/
def contains (r : RoundingInterval) (n : Nat) (e : Int) : Bool :=
  let x := if 0 ≤ e then n * tenTo e.toNat * r.den else n * r.den
  let s := if 0 ≤ e then 1 else tenTo (-e).toNat
  if r.closed then r.low * s ≤ x && x ≤ r.high * s else r.low * s < x && x < r.high * s

/-- Twice the number, and twice the decimal midway between `n` and `n + 1`, over one
denominator. -/
def againstMidpoint (r : RoundingInterval) (n : Nat) (e : Int) : Ordering :=
  let mid := if 0 ≤ e then (2 * n + 1) * tenTo e.toNat * r.den else (2 * n + 1) * r.den
  let s := if 0 ≤ e then 1 else tenTo (-e).toNat
  compare (2 * r.value * s) mid

/-- The whole multiples of `10 ^ e` below the number. -/
def below (r : RoundingInterval) (e : Int) : Nat :=
  if 0 ≤ e then r.value / (r.den * tenTo e.toNat) else r.value * tenTo (-e).toNat / r.den

/-- Whether `10 ^ k` is at most the number. -/
def reaches (r : RoundingInterval) (k : Int) : Bool :=
  if 0 ≤ k then r.den * tenTo k.toNat ≤ r.value else r.den ≤ r.value * tenTo (-k).toNat

/-- The exponent of the number's first digit: the greatest `k` with `10 ^ k` at most the
number. -/
def leading (r : RoundingInterval) : Int :=
  let guess : Int := ((r.value.log2 : Int) - r.den.log2) * 30103 / 100000
  if r.reaches (guess + 2) then guess + 2
  else if r.reaches (guess + 1) then guess + 1
  else if r.reaches guess then guess
  else if r.reaches (guess - 1) then guess - 1
  else guess - 2

/-- The decimal on the grid of multiples of `10 ^ e` that lies in the interval and is nearest to
the number; an exact tie goes to the even digit. -/
def onGrid? (r : RoundingInterval) (e : Int) : Option Decimal :=
  let n := r.below e
  let lower := r.contains n e && n != 0
  let upper := r.contains (n + 1) e
  match lower, upper with
  | false, false => none
  | true, false => some ⟨n, e⟩
  | false, true => some ⟨n + 1, e⟩
  | true, true =>
    match r.againstMidpoint n e with
    | .lt => some ⟨n, e⟩
    | .gt => some ⟨n + 1, e⟩
    | .eq => if n % 2 = 0 then some ⟨n, e⟩ else some ⟨n + 1, e⟩

/-- Tries the grids with `17 - fuel`, … digits. -/
def search (r : RoundingInterval) (first : Int) : Nat → Decimal
  | 0 => ⟨r.below (first - 16), first - 16⟩
  | fuel + 1 =>
    match r.onGrid? (first - (16 - fuel : Nat)) with
    | some d => d
    | none => search r first fuel

end RoundingInterval

/-- Takes trailing zeros out of the digits; `fuel` bounds their number. -/
def Decimal.trimZeros : Nat → Decimal → Decimal
  | 0, d => d
  | fuel + 1, d =>
    if d.digits % 10 = 0 && d.digits != 0 then trimZeros fuel ⟨d.digits / 10, d.exponent + 1⟩ else d

/-- The shortest decimal that reads back to the absolute value of a finite non-zero number. -/
def Double.shortest (d : Double) : Decimal :=
  let r := RoundingInterval.ofSignificand d.significand.1 d.significand.2
  (r.search r.leading 17).trimZeros 20

end AnalysisDesk
