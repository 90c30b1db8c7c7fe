/-
The stored form of an instant reads back.

A timestamp is written by numbers of fixed width with marks between them, and the
strict reader takes off one after the other, so what it reads of a timestamp that
was written are the parts that were written: the date, the time of day and the
milliseconds.  Together they are the instant cut to milliseconds.  That holds for
the years 0 to 9999, in which a year has four digits; outside of them a sign is
written first, and the reader stops there.
-/
import AnalysisDesk.Proofs.Time.Calendar
import AnalysisDesk.Time.Timestamp

namespace AnalysisDesk

namespace Instant

/-- An instant whose year is written with four digits. -/
def HasPlainYear (t : Instant) : Prop := 0 ≤ t.year ∧ t.year ≤ 9999

instance (t : Instant) : Decidable t.HasPlainYear :=
  inferInstanceAs (Decidable (0 ≤ t.year ∧ t.year ≤ 9999))

/-! ### Numbers -/

theorem padded_eq (width n : Nat) :
    padded width n = List.replicate (width - (Nat.toDigits 10 n).length) '0' ++ Nat.toDigits 10 n := by
  unfold padded
  rw [Nat.repr_eq_ofList_toDigits, String.toList_ofList]

theorem isDigit_of_mem_padded {width n : Nat} {c : Char} (h : c ∈ padded width n) :
    c.isDigit = true := by
  rw [padded_eq] at h
  rcases List.mem_append.mp h with hc | hc
  · rw [List.eq_of_mem_replicate hc]
    rfl
  · exact Nat.isDigit_of_mem_toDigits (by decide) (by decide) hc

theorem length_padded {width n : Nat} (hwidth : 0 < width) (h : n < 10 ^ width) :
    (padded width n).length = width := by
  have hdigits := (Nat.length_toDigits_le_iff (by decide) hwidth).mpr h
  rw [padded_eq, List.length_append, List.length_replicate]
  omega

theorem ofDigitChars_padded (width n : Nat) : Nat.ofDigitChars 10 (padded width n) 0 = n := by
  rw [padded_eq, Nat.ofDigitChars_append, Nat.ofDigitChars_replicate_zero, Nat.mul_zero,
    Nat.ofDigitChars_ten_toDigits]

end Instant

namespace Timestamp

theorem length_le_byteLength (cs : List Char) : cs.length ≤ byteLength cs := by
  have hgeneral : ∀ (cs : List Char) (n : Nat),
      n + cs.length ≤ cs.foldl (fun n c => n + c.utf8Size) n := by
    intro cs
    induction cs with
    | nil => exact fun n => Nat.le_refl n
    | cons c rest ih =>
        intro n
        have hsize := c.utf8Size_pos
        have hrest := ih (n + c.utf8Size)
        rw [List.foldl_cons, List.length_cons]
        omega
  have hall := hgeneral cs 0
  rw [Nat.zero_add] at hall
  exact hall

/-- Digits are taken as far as they go, or up to the number that is wanted. -/
theorem takeDigits_append {digits : List Char} (hdigits : ∀ c ∈ digits, c.isDigit = true)
    {most : Nat} (hmost : digits.length ≤ most) {rest : List Char}
    (hrest : digits.length = most ∨ ∀ c ∈ rest.head?, c.isDigit = false) (value count : Nat) :
    takeDigits most value count (digits ++ rest)
      = (Nat.ofDigitChars 10 digits value, count + digits.length, rest) := by
  induction digits generalizing most value count with
  | nil =>
      cases most with
      | zero => rfl
      | succ most =>
          cases rest with
          | nil => rfl
          | cons c rest =>
              have hc : c.isDigit = false := by
                rcases hrest with hc | hc
                · exact nomatch hc
                · exact hc c rfl
              show takeDigits (most + 1) value count (c :: rest) = (value, count, c :: rest)
              rw [takeDigits, hc, if_neg Bool.false_ne_true]
  | cons c digits ih =>
      cases most with
      | zero => exact nomatch hmost
      | succ most =>
          have hc : c.isDigit = true := hdigits c (List.mem_cons_self ..)
          rw [List.cons_append, takeDigits, hc, if_pos rfl,
            ih (fun d hd => hdigits d (List.mem_cons_of_mem _ hd)) (Nat.le_of_succ_le_succ hmost)
              (hrest.imp_left Nat.succ.inj),
            Nat.ofDigitChars_cons, Nat.mul_comm value 10, List.length_cons]
          congr 2
          omega

/-- A number of fixed width reads back. -/
theorem number_padded {width n : Nat} (hwidth : 0 < width) (h : n < 10 ^ width)
    (rest : List Char) : number width width (Instant.padded width n ++ rest) = .ok (n, rest) := by
  have hlength := Instant.length_padded hwidth h
  have hbytes := length_le_byteLength (Instant.padded width n ++ rest)
  rw [List.length_append] at hbytes
  unfold number
  rw [if_neg (by omega),
    takeDigits_append (fun _ => Instant.isDigit_of_mem_padded) (Nat.le_of_eq hlength)
      (Or.inl hlength), Instant.ofDigitChars_padded, hlength]
  dsimp only
  rw [if_neg (by omega)]

/-- Two digits of a number in a range. -/
theorem within_padded {low high n : Nat} (hlow : low ≤ n) (hhigh : n ≤ high) (h : n < 100)
    (rest : List Char) :
    within low high (number 2 2 (Instant.padded 2 n ++ rest)) = .ok (n, rest) := by
  rw [number_padded (by decide) h]
  exact if_pos ⟨hlow, hhigh⟩

/-- Three digits of a fraction of a second are milliseconds. -/
theorem fraction?_padded {n : Nat} (h : n < 1000) (rest : List Char)
    (hrest : ∀ c ∈ rest.head?, c.isDigit = false) :
    fraction? ('.' :: (Instant.padded 3 n ++ rest)) = .ok (n * 1000000, rest) := by
  have hlength : (Instant.padded 3 n).length = 3 := Instant.length_padded (by decide) h
  have hnonempty : (Instant.padded 3 n ++ rest).isEmpty = false := by
    rw [List.isEmpty_eq_false_iff, ← List.length_pos_iff_ne_nil, List.length_append, hlength]
    omega
  have hdrop : rest.dropWhile Char.isDigit = rest := by
    cases rest with
    | nil => rfl
    | cons c rest => rw [List.dropWhile_cons, hrest c rfl, if_neg Bool.false_ne_true]
  show fraction _ = _
  unfold fraction
  rw [hnonempty, if_neg Bool.false_ne_true,
    takeDigits_append (fun _ => Instant.isDigit_of_mem_padded) (by omega) (Or.inr hrest),
    Instant.ofDigitChars_padded, hlength]
  dsimp only
  rw [if_neg (by decide), hdrop]
  rfl

/-! ### The parts -/

section Parts

variable (t : Instant)

/-- The parts of the stored form of an instant. -/
def partsOf : Parts where
  year := t.date.year
  month := t.date.month
  day := t.date.day
  hour := t.nanosOfDay / Span.nanosPerSecond / 3600
  minute := t.nanosOfDay / Span.nanosPerSecond / 60 % 60
  second := t.nanosOfDay / Span.nanosPerSecond % 60
  nanos := t.nanosOfDay % Span.nanosPerSecond / 1000000 * 1000000
  offset := 0

theorem nanosOfDay_lt : t.nanosOfDay < 86400 * Span.nanosPerSecond := by
  unfold Instant.nanosOfDay Instant.nanosPerDay Span.nanosPerSecond
  omega

/-- **The stored form is read as it was written**, if the year has four digits. -/
theorem strictParts_stored {t : Instant} (hyear : t.HasPlainYear) :
    strictParts t.stored.toList = .ok (partsOf t, []) := by
  have hday := nanosOfDay_lt t
  unfold Span.nanosPerSecond at hday
  obtain ⟨hmonth, hmonth'⟩ := Date.ofDay_month (t.nanos / Instant.nanosPerDay)
  obtain ⟨hdate, hdate'⟩ := Date.ofDay_day (t.nanos / Instant.nanosPerDay)
  have hyearText : Instant.yearText t.date.year = Instant.padded 4 t.date.year.toNat := if_pos hyear
  have hyearNat : (t.date.year.toNat : Int) = t.date.year := Int.toNat_of_nonneg hyear.1
  have hyear4 : t.date.year.toNat < 10 ^ 4 := by
    have hlast : t.date.year ≤ 9999 := hyear.2
    omega
  -- each part of the text, whatever follows it
  have hyears := fun rest => number_padded (by decide) hyear4 rest
  have hmonths := within_padded (n := t.date.month) hmonth hmonth' (Nat.lt_of_le_of_lt hmonth' (by decide))
  have hdays := within_padded (n := t.date.day) hdate hdate' (Nat.lt_of_le_of_lt hdate' (by decide))
  have hhour : t.nanosOfDay / Span.nanosPerSecond / 3600 ≤ 23 := by
    unfold Span.nanosPerSecond
    omega
  have hminute : t.nanosOfDay / Span.nanosPerSecond / 60 % 60 ≤ 59 := by omega
  have hsecond : t.nanosOfDay / Span.nanosPerSecond % 60 ≤ 60 := by omega
  have hhours := within_padded (Nat.zero_le _) hhour (Nat.lt_of_le_of_lt hhour (by decide))
  have hminutes := within_padded (Nat.zero_le _) hminute (Nat.lt_of_le_of_lt hminute (by decide))
  have hseconds := within_padded (Nat.zero_le _) hsecond (Nat.lt_of_le_of_lt hsecond (by decide))
  have hmillis := fraction?_padded (n := t.nanosOfDay % Span.nanosPerSecond / 1000000)
    (by unfold Span.nanosPerSecond; omega) ['Z'] (by simp)
  unfold Instant.stored Instant.textWith Instant.dateText Instant.timeText
  rw [String.toList_ofList, hyearText]
  simp only [List.append_assoc, List.cons_append]
  simp only [strictParts, hyears, hmonths, hdays, hhours, hminutes, hseconds, hmillis, bind,
    Except.bind, mark, dateEnd, offset, hyearNat, partsOf, greatestOffset, pure, Except.pure,
    if_true, true_or]
  rfl

/-- The time of day in seconds and milliseconds, on the day of the instant. -/
theorem ofParts_partsOf :
    Instant.ofParts t.date
        (((partsOf t).hour * 3600 + (partsOf t).minute * 60 + (partsOf t).second)
          * Span.nanosPerSecond + (partsOf t).nanos) = t.cut := by
  have hday : t.date.toDay = t.nanos / Instant.nanosPerDay := Date.toDay_ofDay _
  unfold Instant.ofParts Instant.cut Instant.ofMillis Instant.millis
  rw [hday, Instant.mk.injEq]
  unfold partsOf Instant.nanosOfDay Instant.nanosPerDay Instant.nanosPerMilli Span.nanosPerSecond
  dsimp only
  omega

/-- The clock can show the years that have four digits. -/
theorem isShowable_cut {t : Instant} (hyear : t.HasPlainYear) :
    t.cut.isShowable = true := by
  have hyears : Date.daysBeforeYear t.year ≤ t.nanos / Instant.nanosPerDay + Date.epochDays ∧
      t.nanos / Instant.nanosPerDay + Date.epochDays < Date.daysBeforeYear (t.year + 1) :=
    Date.yearOf_spec (t.nanos / Instant.nanosPerDay + Date.epochDays)
  have hlow := Date.daysBeforeYear_mono hyear.1
  have hhigh := Date.daysBeforeYear_mono (Int.add_le_add_right hyear.2 1)
  have hzero : Date.daysBeforeYear 0 = -366 := by decide
  have hend : Date.daysBeforeYear (9999 + 1) = 3652059 := by decide
  have hearliest : Instant.firstDay.toDay = -96465292 := by decide +kernel
  have hlatest : Instant.lastDay.toDay = 95026236 := by decide +kernel
  have hcut : t.cut.nanos = t.nanos / Instant.nanosPerMilli * Instant.nanosPerMilli := rfl
  unfold Instant.isShowable
  rw [hearliest, hlatest, hcut, Bool.and_eq_true, decide_eq_true_eq, decide_eq_true_eq]
  unfold Instant.nanosPerDay Instant.nanosPerMilli at *
  unfold Date.epochDays at hyears
  omega

/-- The parts of the stored form make the instant that was cut. -/
theorem instant?_partsOf {t : Instant} (hyear : t.HasPlainYear) :
    (partsOf t).instant? = .ok t.cut := by
  have hdate : (⟨(partsOf t).year, (partsOf t).month, (partsOf t).day⟩ : Date) = t.date := rfl
  have hvalid : t.date.isValid = true := Date.ofDay_isValid _
  have hoffset : (partsOf t).offset = 0 := rfl
  unfold Parts.instant?
  dsimp only
  rw [hdate, ofParts_partsOf, hvalid, hoffset, Bool.not_true, if_neg Bool.false_ne_true,
    Int.zero_mul, Int.sub_zero]
  exact if_pos (isShowable_cut hyear)

end Parts

/-- A year that needs a sign is not read. -/
theorem strictParts_stored_of_sign {t : Instant} (hyear : ¬ t.HasPlainYear) :
    strictParts t.stored.toList = .error .invalid := by
  have hsign : ∀ {sign : Char} {rest : List Char}, sign.isDigit = false → 3 ≤ rest.length →
      strictParts (sign :: rest) = .error .invalid := by
    intro sign rest hsign hrest
    have hbytes := length_le_byteLength (sign :: rest)
    rw [List.length_cons] at hbytes
    have hnumber : number 4 4 (sign :: rest) = .error .invalid := by
      unfold number
      rw [if_neg (by omega), takeDigits, hsign, if_neg Bool.false_ne_true]
      rfl
    unfold strictParts
    rw [hnumber]
    rfl
  have hyearText : ∃ sign : Char, sign.isDigit = false ∧
      Instant.yearText t.date.year = sign :: Instant.padded 4 t.date.year.natAbs := by
    unfold Instant.yearText
    rw [if_neg (show ¬ (0 ≤ t.date.year ∧ t.date.year ≤ 9999) from hyear)]
    by_cases hnegative : t.date.year < 0
    · exact ⟨'-', rfl, if_pos hnegative⟩
    · exact ⟨'+', rfl, if_neg hnegative⟩
  obtain ⟨sign, hdigit, htext⟩ := hyearText
  unfold Instant.stored Instant.textWith Instant.dateText
  rw [String.toList_ofList, htext]
  simp only [List.cons_append]
  refine hsign hdigit ?_
  simp only [List.length_append, List.length_cons]
  omega

/-- **What is read of the stored form of an instant**: the instant cut to milliseconds, provided
that its year has four digits. -/
theorem read_stored (t : Instant) :
    read t.stored = if t.HasPlainYear then .ok t.cut else .error .invalid := by
  unfold read
  by_cases hyear : t.HasPlainYear
  · rw [strictParts_stored hyear, if_pos hyear]
    exact instant?_partsOf hyear
  · rw [strictParts_stored_of_sign hyear, if_neg hyear]

end Timestamp

end AnalysisDesk
