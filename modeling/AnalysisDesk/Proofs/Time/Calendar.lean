/-
Days and dates.

Every number of a day is the number of one date, which the calendar has, and
`Date.toDay` leads back from the date to the number.  Two things have to be seen:
that the guess at the year is off by one at most, so that the year that is settled
on is the one the day lies in, and that the months of a year fill it exactly.
-/
import AnalysisDesk.Time.Civil
import Mathlib.Algebra.BigOperators.Group.List.Basic
import Mathlib.Tactic.Ring

namespace AnalysisDesk

namespace Date

/-! ### Years -/

/-- The length of a year in days. -/
def yearLength (year : Int) : Nat := if isLeapYear year then 366 else 365

theorem daysBeforeYear_succ (year : Int) :
    daysBeforeYear (year + 1) = daysBeforeYear year + yearLength year := by
  unfold daysBeforeYear yearLength
  by_cases hleap : isLeapYear year = true
  · rw [if_pos hleap]
    unfold isLeapYear at hleap
    rw [decide_eq_true_eq] at hleap
    omega
  · rw [if_neg hleap]
    unfold isLeapYear at hleap
    rw [decide_eq_true_eq] at hleap
    omega

theorem daysBeforeYear_mono {a b : Int} (h : a ≤ b) : daysBeforeYear a ≤ daysBeforeYear b := by
  unfold daysBeforeYear
  omega

/-- **The year of a day** is the one in which the day lies. -/
theorem yearOf_spec (n : Int) :
    daysBeforeYear (yearOf n) ≤ n ∧ n < daysBeforeYear (yearOf n + 1) := by
  unfold yearOf
  dsimp only
  generalize hguess : n * 400 / 146097 + 1 = guess
  -- four hundred years have 146097 days, so the guess is out by less than a year either way
  have hbelow : daysBeforeYear (guess - 1) ≤ n := by unfold daysBeforeYear; omega
  have habove : n < daysBeforeYear (guess + 1 + 1) := by unfold daysBeforeYear; omega
  by_cases hlow : n < daysBeforeYear guess
  · rw [if_pos hlow, Int.sub_add_cancel]
    exact ⟨hbelow, hlow⟩
  · rw [if_neg hlow]
    by_cases hhigh : daysBeforeYear (guess + 1) ≤ n
    · rw [if_pos hhigh]
      exact ⟨hhigh, habove⟩
    · rw [if_neg hhigh]
      exact ⟨Int.not_lt.mp hlow, Int.not_le.mp hhigh⟩

/-! ### Months -/

theorem length_monthLengths (year : Int) : (monthLengths year).length = 12 := rfl

theorem sum_monthLengths (year : Int) : (monthLengths year).sum = yearLength year := by
  unfold monthLengths yearLength
  cases isLeapYear year <;> rfl

theorem monthLengths_le (year : Int) : ∀ length ∈ monthLengths year, length ≤ 31 := by
  unfold monthLengths
  cases isLeapYear year <;> decide

/-- The month and the day that lie `n` days into some months: the month is one of them, it has the
day, and the days before come to `n`. -/
structure IsMonthOf (lengths : List Nat) (first n : Nat) (found : Nat × Nat) : Prop where
  first_le : first ≤ found.1
  lt_last : found.1 < first + lengths.length
  one_le : 1 ≤ found.2
  le_length : found.2 ≤ lengths.getD (found.1 - first) 0
  days : (lengths.take (found.1 - first)).sum + found.2 = n + 1

theorem monthOf_spec : ∀ {lengths : List Nat} {first n : Nat}, n < lengths.sum →
    IsMonthOf lengths first n (monthOf lengths first n)
  | [], _, _, h => nomatch h
  | [length], first, n, h => by
      rw [List.sum_singleton] at h
      refine ⟨Nat.le_refl _, Nat.lt_succ_self _, Nat.succ_le_succ (Nat.zero_le n), ?_, ?_⟩
      · simpa [monthOf] using Nat.succ_le_of_lt h
      · simp [monthOf]
  | length :: next :: rest, first, n, h => by
      rw [List.sum_cons] at h
      by_cases hlt : n < length
      · rw [monthOf, if_pos hlt]
        · refine ⟨Nat.le_refl _, ?_, Nat.succ_le_succ (Nat.zero_le n), ?_, ?_⟩
          · simp
          · simpa using Nat.succ_le_of_lt hlt
          · simp
        · simp
      · rw [monthOf, if_neg hlt]
        · have hrest : IsMonthOf (next :: rest) (first + 1) (n - length)
              (monthOf (next :: rest) (first + 1) (n - length)) := monthOf_spec (by omega)
          generalize monthOf (next :: rest) (first + 1) (n - length) = found at hrest ⊢
          obtain ⟨hfirst, hlast, hone, hlength, hdays⟩ := hrest
          -- one month further on, the place of the month in the list is one greater
          have hplace : found.1 - first = (found.1 - (first + 1)) + 1 := by omega
          refine ⟨by omega, ?_, hone, ?_, ?_⟩
          · rw [List.length_cons]
            omega
          · rw [hplace, List.getD_cons_succ]
            exact hlength
          · rw [hplace, List.take_succ_cons, List.sum_cons]
            omega
        · simp

/-! ### Dates -/

section OfDay

variable (day : Int)

/-- The days since the beginning of its year. -/
private def dayOfYear : Nat := (day + epochDays - daysBeforeYear (yearOf (day + epochDays))).toNat

private theorem dayOfYear_eq :
    (dayOfYear day : Int) = day + epochDays - daysBeforeYear (yearOf (day + epochDays)) := by
  have hyear := yearOf_spec (day + epochDays)
  unfold dayOfYear
  omega

/-- The month of a day is a month of its year. -/
private theorem ofDay_isMonthOf :
    IsMonthOf (monthLengths (ofDay day).year) 1 (dayOfYear day)
      ((ofDay day).month, (ofDay day).day) := by
  have hwithin : dayOfYear day < (monthLengths (yearOf (day + epochDays))).sum := by
    have hyear := yearOf_spec (day + epochDays)
    have hlength := daysBeforeYear_succ (yearOf (day + epochDays))
    have hday := dayOfYear_eq day
    rw [sum_monthLengths]
    omega
  exact monthOf_spec hwithin

theorem ofDay_month : 1 ≤ (ofDay day).month ∧ (ofDay day).month ≤ 12 := by
  obtain ⟨hfirst, hlast, -, -, -⟩ := ofDay_isMonthOf day
  rw [length_monthLengths] at hlast
  exact ⟨hfirst, by omega⟩

/-- **The date of a day is one that the calendar has.** -/
theorem ofDay_isValid : (ofDay day).isValid = true := by
  obtain ⟨hfirst, -, hone, hlength, -⟩ := ofDay_isMonthOf day
  have hmonth : (ofDay day).month ≠ 0 := by omega
  unfold isValid monthLength
  rw [if_neg hmonth, Bool.and_eq_true, decide_eq_true_eq, decide_eq_true_eq]
  exact ⟨hone, hlength⟩

theorem ofDay_day : 1 ≤ (ofDay day).day ∧ (ofDay day).day ≤ 31 := by
  obtain ⟨hfirst, hlast, hone, hlength, -⟩ := ofDay_isMonthOf day
  refine ⟨hone, Nat.le_trans hlength ?_⟩
  have hlt : (ofDay day).month - 1 < (monthLengths (ofDay day).year).length := by omega
  show (monthLengths (ofDay day).year).getD ((ofDay day).month - 1) 0 ≤ 31
  rw [List.getD_eq_getElem?_getD, List.getElem?_eq_getElem hlt]
  exact monthLengths_le _ _ (List.getElem_mem hlt)

/-- **The number of the date of a day is that of the day.** -/
theorem toDay_ofDay : (ofDay day).toDay = day := by
  obtain ⟨-, -, hone, -, hdays⟩ := ofDay_isMonthOf day
  have hbefore : daysBeforeMonth (ofDay day).year (ofDay day).month
      = ((monthLengths (ofDay day).year).take ((ofDay day).month - 1)).sum :=
    List.sum_eq_foldl.symm
  have hday := dayOfYear_eq day
  have hyear : daysBeforeYear (ofDay day).year = daysBeforeYear (yearOf (day + epochDays)) := rfl
  unfold toDay
  rw [hbefore, hyear]
  dsimp only at hdays
  omega

end OfDay

end Date

end AnalysisDesk
