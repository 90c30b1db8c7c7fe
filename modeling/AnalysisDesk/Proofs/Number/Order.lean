/-
The order of numbers.

The store orders numbers by their bits.  All finite numbers are multiples of the
smallest one, so a number has a size in such units; it grows with the bits below
the sign, from one bit pattern to the next, also where the exponent changes.  So the
order by bits is the order of the numbers.
-/
import AnalysisDesk.Number.Double
import Mathlib.Order.Monotone.Basic
import Mathlib.Tactic.Ring

namespace AnalysisDesk

/-- Comparing goes by what is less than what. -/
theorem compare_eq_of_lt_iff {α β : Type} [LinearOrder α] [LinearOrder β] {a b : α} {c d : β}
    (hlt : a < b ↔ c < d) (hgt : b < a ↔ d < c) : compare a b = compare c d := by
  rcases lt_trichotomy a b with h | h | h
  · rw [compare_lt_iff_lt.mpr h, compare_lt_iff_lt.mpr (hlt.mp h)]
  · have h' : c = d := le_antisymm (not_lt.mp fun hc => (hgt.mpr hc).ne' h)
      (not_lt.mp fun hc => (hlt.mpr hc).ne h)
    rw [compare_eq_iff_eq.mpr h, compare_eq_iff_eq.mpr h']
  · rw [compare_gt_iff_gt.mpr h, compare_gt_iff_gt.mpr (hgt.mp h)]

namespace Double

/-- The size of a finite number without its sign, in units of `2 ^ -1074`. -/
def size (d : Double) : Nat := d.significand.1 * 2 ^ (d.significand.2 + 1074).toNat

/-- A finite number in units of `2 ^ -1074`. -/
def units (d : Double) : Int := if d.isNegative then -(d.size : Int) else d.size

/-- The size that belongs to some bits below the sign. -/
private def sizeOf (magnitude : Nat) : Nat :=
  if magnitude / fractionCount = 0 then magnitude % fractionCount
  else (magnitude % fractionCount + fractionCount) * 2 ^ (magnitude / fractionCount - 1)

private theorem size_eq (d : Double) : d.size = sizeOf d.magnitude := by
  unfold size significand sizeOf exponentBits fractionBits
  by_cases hzero : d.magnitude / fractionCount = 0
  · rw [if_pos hzero, if_pos hzero]
    exact Nat.mul_one _
  · rw [if_neg hzero, if_neg hzero]
    congr 2
    omega

/-- The next bit pattern belongs to a greater number. -/
private theorem sizeOf_lt_succ (n : Nat) : sizeOf n < sizeOf (n + 1) := by
  unfold sizeOf fractionCount
  generalize he : n / 4503599627370496 = e
  generalize hf : n % 4503599627370496 = f
  by_cases hnext : f + 1 < 4503599627370496
  · have he' : (n + 1) / 4503599627370496 = e := by omega
    have hf' : (n + 1) % 4503599627370496 = f + 1 := by omega
    rw [he', hf']
    by_cases hzero : e = 0
    · rw [if_pos hzero, if_pos hzero]
      exact Nat.lt_succ_self f
    · rw [if_neg hzero, if_neg hzero]
      exact Nat.mul_lt_mul_of_pos_right (by omega) (Nat.two_pow_pos _)
  · -- the exponent changes: steps are twice as long from here on, and the fraction begins anew
    have he' : (n + 1) / 4503599627370496 = e + 1 := by omega
    have hf' : (n + 1) % 4503599627370496 = 0 := by omega
    rw [he', hf', if_neg (Nat.succ_ne_zero e)]
    cases e with
    | zero =>
        rw [if_pos rfl]
        show f < (0 + 4503599627370496) * 2 ^ 0
        omega
    | succ k =>
        rw [if_neg (Nat.succ_ne_zero k)]
        show (f + 4503599627370496) * 2 ^ k < (0 + 4503599627370496) * 2 ^ (k + 1)
        have hpos := Nat.two_pow_pos k
        calc (f + 4503599627370496) * 2 ^ k < (2 * 4503599627370496) * 2 ^ k :=
              Nat.mul_lt_mul_of_pos_right (by omega) hpos
          _ = (0 + 4503599627370496) * 2 ^ (k + 1) := by ring

private theorem sizeOf_strictMono : StrictMono sizeOf := strictMono_nat_of_lt_succ sizeOf_lt_succ

private theorem sizeOf_zero : sizeOf 0 = 0 := rfl

/-- **The order by bits is the order of the numbers.** -/
theorem numericKey_lt_iff {a b : Double} : a.numericKey < b.numericKey ↔ a.units < b.units := by
  have hle := fun m n => sizeOf_strictMono.le_iff_le (a := m) (b := n)
  have hlt := fun m n => sizeOf_strictMono.lt_iff_lt (a := m) (b := n)
  have hpos := hlt 0 b.magnitude
  have hpos' := hlt 0 a.magnitude
  have hab := hlt a.magnitude b.magnitude
  have hba := hlt b.magnitude a.magnitude
  rw [sizeOf_zero] at hpos hpos'
  unfold numericKey units
  rw [size_eq, size_eq]
  split <;> split <;> omega

theorem compare_numericKey (a b : Double) :
    compare a.numericKey b.numericKey = compare a.units b.units :=
  compare_eq_of_lt_iff numericKey_lt_iff numericKey_lt_iff

end Double

end AnalysisDesk
