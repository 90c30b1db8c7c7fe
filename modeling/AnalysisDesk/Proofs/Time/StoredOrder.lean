/-
Stored timestamps compare as texts in the order of their milliseconds.

A timestamp is a row of numbers of fixed width, each with a mark behind it, and the
greater unit always stands before the smaller one.  So of two texts the earlier one is
the smaller one: as far as the fields agree the texts agree, and the first field that
differs decides, because numbers of one width compare as their digits do.  What is left
is that a later day has a later date.  Years outside of 0 to 9999 have other widths and
signs in front of them, and nothing is said of them here.
-/
import AnalysisDesk.Proofs.Time.StoredText
import Mathlib.Algebra.Order.BigOperators.Group.List
import Mathlib.Data.String.Basic

namespace AnalysisDesk

namespace Date

/-! ### Days and dates -/

/-- The days of a month lie before those of a later month of the year. -/
theorem daysBeforeMonth_add_le (year : Int) {month later : Nat} (hmonth : 1 ≤ month)
    (hlater : month < later) (hlast : later ≤ 12) :
    daysBeforeMonth year month + monthLength year month ≤ daysBeforeMonth year later := by
  have hbefore : ∀ month, daysBeforeMonth year month
      = ((monthLengths year).take (month - 1)).sum := fun _ => List.sum_eq_foldl.symm
  have hplace : month - 1 < (monthLengths year).length := by
    rw [length_monthLengths]
    omega
  have hnext : ((monthLengths year).take (month - 1 + 1)).sum
      ≤ ((monthLengths year).take (later - 1)).sum :=
    List.monotone_sum_take _ (by omega)
  have hlength : monthLength year month = (monthLengths year)[month - 1] := by
    unfold monthLength
    rw [if_neg (by omega), List.getD_eq_getElem?_getD, List.getElem?_eq_getElem hplace]
    rfl
  rw [List.sum_take_succ _ _ hplace] at hnext
  rw [hbefore, hbefore, hlength]
  exact hnext

/-- **A later day has a later date**: the first of year, month and day that differs is greater. -/
theorem ofDay_lt {a b : Int} (h : a < b) :
    (ofDay a).year < (ofDay b).year ∨
      (ofDay a).year = (ofDay b).year ∧
        ((ofDay a).month < (ofDay b).month ∨
          (ofDay a).month = (ofDay b).month ∧ (ofDay a).day < (ofDay b).day) := by
  have hayear : daysBeforeYear (ofDay a).year ≤ a + epochDays := (yearOf_spec (a + epochDays)).1
  have hbyear : b + epochDays < daysBeforeYear ((ofDay b).year + 1) :=
    (yearOf_spec (b + epochDays)).2
  rcases lt_trichotomy (ofDay a).year (ofDay b).year with hyear | hyear | hyear
  · exact Or.inl hyear
  · refine Or.inr ⟨hyear, ?_⟩
    have haday := toDay_ofDay a
    have hbday := toDay_ofDay b
    have hvalid := ofDay_isValid b
    unfold toDay at haday hbday
    unfold isValid at hvalid
    rw [hyear] at haday
    rw [Bool.and_eq_true, decide_eq_true_eq, decide_eq_true_eq] at hvalid
    have hfirst := (ofDay_day a).1
    rcases lt_trichotomy (ofDay a).month (ofDay b).month with hmonth | hmonth | hmonth
    · exact Or.inl hmonth
    · refine Or.inr ⟨hmonth, ?_⟩
      rw [hmonth] at haday
      omega
    · have hbefore := daysBeforeMonth_add_le (ofDay b).year (ofDay_month b).1 hmonth
        (ofDay_month a).2
      omega
  · have hmono := daysBeforeYear_mono (Int.add_one_le_of_lt hyear)
    omega

end Date

namespace Instant

/-! ### Fields -/

/-- Of two numbers of one width the one that starts greater is greater. -/
private theorem ofDigitChars_lt_of_lt : ∀ {as bs : List Char}, as.length = bs.length →
    (∀ c ∈ as, c.isDigit = true) → ∀ {m n : Nat}, m < n →
      Nat.ofDigitChars 10 as m < Nat.ofDigitChars 10 bs n := by
  intro as
  induction as with
  | nil =>
      intro bs hlength _ m n h
      rw [List.length_nil] at hlength
      rw [List.length_eq_zero_iff.mp hlength.symm]
      exact h
  | cons a as ih =>
      intro bs hlength hdigits m n h
      cases bs with
      | nil => exact nomatch hlength
      | cons b bs =>
          have hdigit : a.toNat - '0'.toNat < 10 := by
            have hrange := hdigits a (List.mem_cons_self ..)
            rw [Char.isDigit_iff_toNat] at hrange
            have hnine : '9'.toNat = '0'.toNat + 9 := rfl
            omega
          rw [Nat.ofDigitChars_cons, Nat.ofDigitChars_cons]
          refine ih (Nat.succ.inj hlength) (fun c hc => hdigits c (List.mem_cons_of_mem _ hc)) ?_
          omega

/-- Numbers of one width compare as their digits do. -/
private theorem lt_of_ofDigitChars_lt : ∀ {as bs : List Char}, as.length = bs.length →
    (∀ c ∈ as, c.isDigit = true) → (∀ c ∈ bs, c.isDigit = true) → ∀ {n : Nat},
      Nat.ofDigitChars 10 as n < Nat.ofDigitChars 10 bs n → as < bs := by
  intro as
  induction as with
  | nil =>
      intro bs hlength _ _ n h
      rw [List.length_nil] at hlength
      rw [List.length_eq_zero_iff.mp hlength.symm] at h
      exact absurd h (Nat.lt_irrefl _)
  | cons a as ih =>
      intro bs hlength hasDigits hbsDigits n h
      cases bs with
      | nil => exact nomatch hlength
      | cons b bs =>
          have htail := Nat.succ.inj hlength
          have hasTail : ∀ c ∈ as, c.isDigit = true :=
            fun c hc => hasDigits c (List.mem_cons_of_mem _ hc)
          have hbsTail : ∀ c ∈ bs, c.isDigit = true :=
            fun c hc => hbsDigits c (List.mem_cons_of_mem _ hc)
          rw [Nat.ofDigitChars_cons, Nat.ofDigitChars_cons] at h
          rw [List.cons_lt_cons_iff]
          rcases lt_trichotomy a b with hab | rfl | hab
          · exact Or.inl hab
          · exact Or.inr ⟨rfl, ih htail hasTail hbsTail h⟩
          · -- a first digit that is greater would make the whole number greater
            have hbrange := hbsDigits b (List.mem_cons_self ..)
            rw [Char.isDigit_iff_toNat] at hbrange
            have hdigits : b.toNat < a.toNat := hab
            have hgreater := ofDigitChars_lt_of_lt htail.symm hbsTail
              (m := 10 * n + (b.toNat - '0'.toNat)) (n := 10 * n + (a.toNat - '0'.toNat)) (by omega)
            exact absurd h (Nat.lt_asymm hgreater)

theorem padded_lt_padded {width m n : Nat} (hwidth : 0 < width) (hn : n < 10 ^ width)
    (h : m < n) : padded width m < padded width n := by
  refine lt_of_ofDigitChars_lt (n := 0) ?_ (fun _ => isDigit_of_mem_padded)
    (fun _ => isDigit_of_mem_padded) ?_
  · rw [length_padded hwidth (h.trans hn), length_padded hwidth hn]
  · rw [ofDigitChars_padded, ofDigitChars_padded]
    exact h

private theorem append_lt_append : ∀ {as bs : List Char}, as.length = bs.length → as < bs →
    ∀ (xs ys : List Char), as ++ xs < bs ++ ys := by
  intro as
  induction as with
  | nil =>
      intro bs hlength h
      rw [List.length_nil] at hlength
      rw [List.length_eq_zero_iff.mp hlength.symm] at h
      exact absurd h (List.lt_irrefl [])
  | cons a as ih =>
      intro bs hlength h xs ys
      cases bs with
      | nil => exact nomatch hlength
      | cons b bs =>
          rw [List.cons_lt_cons_iff] at h
          rw [List.cons_append, List.cons_append, List.cons_lt_cons_iff]
          exact h.imp_right fun ⟨hab, hrest⟩ => ⟨hab, ih (Nat.succ.inj hlength) hrest xs ys⟩

/-- A field that is smaller decides, whatever follows. -/
theorem field_lt {width m n : Nat} (hwidth : 0 < width) (hn : n < 10 ^ width) (h : m < n)
    (xs ys : List Char) : padded width m ++ xs < padded width n ++ ys := by
  refine append_lt_append ?_ (padded_lt_padded hwidth hn h) xs ys
  rw [length_padded hwidth (h.trans hn), length_padded hwidth hn]

/-- A field that is equal leaves it to what follows its mark. -/
theorem field_eq {cs xs ys : List Char} {mark : Char} (h : xs < ys) :
    cs ++ mark :: xs < cs ++ mark :: ys :=
  List.append_left_lt (List.cons_lt_cons_iff.mpr (Or.inr ⟨rfl, h⟩))

/-! ### Timestamps -/

variable {a b : Instant}

/-- The stored form as its fields. -/
private theorem toList_stored (hyear : a.HasPlainYear) :
    a.stored.toList = padded 4 a.date.year.toNat ++ '-' :: (padded 2 a.date.month ++ '-' ::
      (padded 2 a.date.day ++ 'T' :: (padded 2 (a.nanosOfDay / Span.nanosPerSecond / 3600) ++ ':' ::
        (padded 2 (a.nanosOfDay / Span.nanosPerSecond / 60 % 60) ++ ':' ::
          (padded 2 (a.nanosOfDay / Span.nanosPerSecond % 60) ++ '.' ::
            (padded 3 (a.nanosOfDay % Span.nanosPerSecond / 1000000) ++ 'Z' :: [])))))) := by
  have hyearText : yearText a.date.year = padded 4 a.date.year.toNat := if_pos hyear
  unfold stored textWith dateText timeText
  rw [String.toList_ofList, hyearText]
  simp only [List.append_assoc, List.cons_append]

/-- The time of day of one instant is earlier than that of another, unit by unit. -/
private theorem timeOfDay_lt {m n : Nat} (h : m / 1000000 < n / 1000000) :
    m / 1000000000 / 3600 < n / 1000000000 / 3600 ∨
      m / 1000000000 / 3600 = n / 1000000000 / 3600 ∧
        (m / 1000000000 / 60 % 60 < n / 1000000000 / 60 % 60 ∨
          m / 1000000000 / 60 % 60 = n / 1000000000 / 60 % 60 ∧
            (m / 1000000000 % 60 < n / 1000000000 % 60 ∨
              m / 1000000000 % 60 = n / 1000000000 % 60 ∧
                m % 1000000000 / 1000000 < n % 1000000000 / 1000000)) := by
  omega

/-- The earlier of two instants has the smaller text. -/
theorem stored_lt_stored (ha : a.HasPlainYear) (hb : b.HasPlainYear) (h : a.millis < b.millis) :
    a.stored < b.stored := by
  have hbday := Timestamp.nanosOfDay_lt b
  have hbmonth := (Date.ofDay_month (b.nanos / nanosPerDay)).2
  have hbdate := (Date.ofDay_day (b.nanos / nanosPerDay)).2
  have hbyear : b.date.year ≤ 9999 := hb.2
  have hayear : 0 ≤ a.date.year := ha.1
  rw [String.lt_iff_toList_lt, toList_stored ha, toList_stored hb]
  rcases Int.lt_trichotomy (a.nanos / nanosPerDay) (b.nanos / nanosPerDay) with hday | hday | hday
  · rcases Date.ofDay_lt hday with hyear | ⟨hyear, hmonth | ⟨hmonth, hdate⟩⟩
    · have hyear' : a.date.year < b.date.year := hyear
      exact field_lt (by decide) (by omega) (by omega) _ _
    · have hyear' : a.date.year = b.date.year := hyear
      rw [hyear']
      exact field_eq (field_lt (by decide) (Nat.lt_of_le_of_lt hbmonth (by decide)) hmonth _ _)
    · have hyear' : a.date.year = b.date.year := hyear
      have hmonth' : a.date.month = b.date.month := hmonth
      rw [hyear', hmonth']
      have hdays : b.date.day < 10 ^ 2 := Nat.lt_of_le_of_lt hbdate (by decide)
      exact field_eq (field_eq (field_lt (by decide) hdays hdate _ _))
  · have hdate : a.date = b.date := congrArg Date.ofDay hday
    have htime : a.nanosOfDay / 1000000 < b.nanosOfDay / 1000000 := by
      unfold millis nanosPerMilli at h
      unfold nanosOfDay
      unfold nanosPerDay at hday ⊢
      omega
    unfold Span.nanosPerSecond at hbday ⊢
    rw [hdate]
    refine field_eq (field_eq (field_eq ?_))
    rcases timeOfDay_lt htime with hhour | ⟨hhour, hminute | ⟨hminute, hsecond | ⟨hsecond, hmillis⟩⟩⟩
    · exact field_lt (by decide) (by omega) hhour _ _
    · rw [hhour]
      exact field_eq (field_lt (by decide) (by omega) hminute _ _)
    · rw [hhour, hminute]
      exact field_eq (field_eq (field_lt (by decide) (by omega) hsecond _ _))
    · rw [hhour, hminute, hsecond]
      exact field_eq (field_eq (field_eq (field_lt (by decide) (by omega) hmillis _ _)))
  · unfold millis nanosPerMilli at h
    unfold nanosPerDay at hday
    omega

/-- The stored form of an instant is that of its millisecond. -/
theorem stored_congr (h : a.millis = b.millis) : a.stored = b.stored := by
  unfold millis nanosPerMilli at h
  have hday : a.nanos / nanosPerDay = b.nanos / nanosPerDay := by
    unfold nanosPerDay
    omega
  have hdate : a.date = b.date := congrArg Date.ofDay hday
  have hseconds : a.nanosOfDay / Span.nanosPerSecond = b.nanosOfDay / Span.nanosPerSecond := by
    unfold nanosOfDay nanosPerDay Span.nanosPerSecond
    omega
  have hmillis : a.nanosOfDay % Span.nanosPerSecond / 1000000
      = b.nanosOfDay % Span.nanosPerSecond / 1000000 := by
    unfold nanosOfDay nanosPerDay Span.nanosPerSecond
    omega
  unfold stored textWith
  dsimp only
  rw [hdate, hseconds, hmillis]

/-- **Stored timestamps compare as texts in the order of their milliseconds**, if their years have
four digits. -/
theorem stored_le_stored_iff (ha : a.HasPlainYear) (hb : b.HasPlainYear) :
    a.stored ≤ b.stored ↔ a.millis ≤ b.millis := by
  rcases Int.lt_trichotomy a.millis b.millis with h | h | h
  · exact iff_of_true (String.not_lt.mp fun hc =>
      String.lt_asymm hc (stored_lt_stored ha hb h)) (Int.le_of_lt h)
  · rw [stored_congr h, h]
    exact iff_of_true (String.le_refl _) (Int.le_refl _)
  · exact iff_of_false (String.not_le.mpr (stored_lt_stored hb ha h)) (Int.not_le.mpr h)

end Instant

end AnalysisDesk
