/-
The total order of all doubles.

Numbers alone leave two things open: the two zeros are the same number, and what is no
number is neither less nor greater than anything.  The total order settles both.  The
zero with the sign comes before the other one, and what is no number stands at the ends,
on the side that its sign says, the further out the greater its payload.  `Precedes`
says so case by case, and `totalKey` finds the same line by counting bit patterns.

A column of the store holds neither what is no number nor a zero with a sign, and on the
rest the total order is the order of the numbers.
-/
import AnalysisDesk.Proofs.Number.Order

namespace AnalysisDesk

namespace Double

/-- The total order.  An infinity counts as the power of two that comes after all finite numbers. -/
inductive Precedes : Double → Double → Prop
  | number {a b : Double} (ha : a.isNaN = false) (hb : b.isNaN = false) (h : a.units < b.units) :
      Precedes a b
  | zeros : Precedes negZero zero
  | first {a b : Double} (ha : a.isNaN = true) (hsign : a.isNegative = true)
      (hb : b.isNaN = true → b.isNegative = false) : Precedes a b
  | last {a b : Double} (ha : a.isNaN = true → a.isNegative = true) (hb : b.isNaN = true)
      (hsign : b.isNegative = false) : Precedes a b
  | outward {a b : Double} (ha : a.isNaN = true) (hb : b.isNaN = true)
      (hasign : a.isNegative = true) (hbsign : b.isNegative = true)
      (h : b.fractionBits < a.fractionBits) : Precedes a b
  | upward {a b : Double} (ha : a.isNaN = true) (hb : b.isNaN = true)
      (hasign : a.isNegative = false) (hbsign : b.isNegative = false)
      (h : a.fractionBits < b.fractionBits) : Precedes a b

variable {a b : Double}

theorem isNaN_iff : a.isNaN = true ↔ 2047 * fractionCount < a.magnitude := decide_eq_true_iff

theorem isNaN_eq_false_iff : a.isNaN = false ↔ a.magnitude ≤ 2047 * fractionCount := by
  rw [← Nat.not_lt]
  exact decide_eq_false_iff_not

/-- What is no number has all exponent bits set, so that its payload alone tells it from others. -/
theorem magnitude_of_isNaN (h : a.isNaN = true) :
    a.magnitude = 2047 * fractionCount + a.fractionBits := by
  have hbound : a.magnitude < signPlace := Nat.mod_lt _ (by decide)
  have hnan := isNaN_iff.mp h
  unfold fractionBits
  unfold signPlace at hbound
  unfold fractionCount at hnan ⊢
  omega

theorem totalKey_of_negative (h : a.isNegative = true) : a.totalKey = -1 - (a.magnitude : Int) :=
  if_pos h

theorem totalKey_of_positive (h : a.isNegative = false) : a.totalKey = a.magnitude :=
  if_neg (by rw [h]; exact Bool.false_ne_true)

/-- The places of numbers that are the same number. -/
private theorem zeros_of_units {a b : Double} (hunits : ¬ a.units < b.units)
    (h : a.totalKey < b.totalKey) : a = negZero ∧ b = zero := by
  have hplaces : a.totalKey = -1 ∧ b.totalKey = 0 := by
    rw [← numericKey_lt_iff] at hunits
    cases hasign : a.isNegative <;> cases hbsign : b.isNegative <;>
      simp only [totalKey, numericKey, hasign, hbsign, if_true, Bool.false_eq_true, if_false]
        at h hunits ⊢ <;>
      omega
  exact ⟨totalKey_inj hplaces.1, totalKey_inj hplaces.2⟩

theorem precedes_of_totalKey_lt (h : a.totalKey < b.totalKey) : a.Precedes b := by
  cases ha : a.isNaN with
  | false =>
      have hnumber := isNaN_eq_false_iff.mp ha
      cases hb : b.isNaN with
      | false =>
          by_cases hunits : a.units < b.units
          · exact .number ha hb hunits
          · obtain ⟨rfl, rfl⟩ := zeros_of_units hunits h
            exact .zeros
      | true =>
          have hnone := isNaN_iff.mp hb
          refine .last (fun hc => ?_) hb ?_
          · rw [ha] at hc
            exact Bool.noConfusion hc
          · by_contra hsign
            rw [totalKey_of_negative (Bool.eq_true_of_not_eq_false hsign)] at h
            unfold totalKey at h
            omega
  | true =>
      have hnone := isNaN_iff.mp ha
      cases hasign : a.isNegative with
      | true =>
          by_cases hb : b.isNaN = true ∧ b.isNegative = true
          · refine .outward ha hb.1 hasign hb.2 ?_
            rw [totalKey_of_negative hasign, totalKey_of_negative hb.2, magnitude_of_isNaN ha,
              magnitude_of_isNaN hb.1] at h
            omega
          · refine .first ha hasign fun hbnan => ?_
            exact Bool.eq_false_of_not_eq_true fun hc => hb ⟨hbnan, hc⟩
      | false =>
          rw [totalKey_of_positive hasign] at h
          have hbsign : b.isNegative = false := by
            by_contra hc
            rw [totalKey_of_negative (Bool.eq_true_of_not_eq_false hc)] at h
            omega
          rw [totalKey_of_positive hbsign] at h
          have hb : b.isNaN = true := isNaN_iff.mpr (by omega)
          refine .upward ha hb hasign hbsign ?_
          rw [magnitude_of_isNaN ha, magnitude_of_isNaN hb] at h
          omega

theorem Precedes.totalKey_lt (h : a.Precedes b) : a.totalKey < b.totalKey := by
  cases h with
  | number ha hb h =>
      rw [← numericKey_lt_iff] at h
      cases hasign : a.isNegative <;> cases hbsign : b.isNegative <;>
        simp only [totalKey, numericKey, hasign, hbsign, if_true, Bool.false_eq_true, if_false]
          at h ⊢ <;>
        omega
  | zeros => decide
  | first ha hsign hb =>
      have hnone := isNaN_iff.mp ha
      rw [totalKey_of_negative hsign]
      unfold totalKey
      split
      · rename_i hbsign
        have hnumber := isNaN_eq_false_iff.mp (Bool.eq_false_of_not_eq_true fun hc => by
          rw [hb hc] at hbsign
          exact Bool.noConfusion hbsign)
        omega
      · omega
  | last ha hb hsign =>
      have hnone := isNaN_iff.mp hb
      rw [totalKey_of_positive hsign]
      unfold totalKey
      split
      · omega
      · rename_i hasign
        have hnumber := isNaN_eq_false_iff.mp
          (Bool.eq_false_of_not_eq_true fun hc => hasign (ha hc))
        omega
  | outward ha hb hasign hbsign h =>
      rw [totalKey_of_negative hasign, totalKey_of_negative hbsign, magnitude_of_isNaN ha,
        magnitude_of_isNaN hb]
      omega
  | upward ha hb hasign hbsign h =>
      rw [totalKey_of_positive hasign, totalKey_of_positive hbsign, magnitude_of_isNaN ha,
        magnitude_of_isNaN hb]
      omega

/-- **The places of bit patterns are those of the total order.** -/
theorem totalKey_lt_iff : a.totalKey < b.totalKey ↔ a.Precedes b :=
  ⟨precedes_of_totalKey_lt, Precedes.totalKey_lt⟩

/-! ### Without the zero that has a sign -/

/-- The places among all bit patterns and among the numbers differ by the zero with a sign. -/
theorem totalKey_lt_iff_numericKey_lt (ha : a ≠ negZero) (hb : b ≠ negZero) :
    a.totalKey < b.totalKey ↔ a.numericKey < b.numericKey := by
  have hplace : ∀ d : Double, d ≠ negZero → d.isNegative = true → 0 < d.magnitude := by
    intro d hd hsign
    by_contra hzero
    refine hd (totalKey_inj ?_)
    rw [totalKey_of_negative hsign, Nat.eq_zero_of_not_pos hzero]
    rfl
  have hapos := hplace a ha
  have hbpos := hplace b hb
  cases hasign : a.isNegative <;> cases hbsign : b.isNegative <;>
    simp only [totalKey, numericKey, hasign, hbsign, if_true, Bool.false_eq_true, if_false,
      true_implies] at hapos hbpos ⊢ <;>
    omega

end Double

end AnalysisDesk
