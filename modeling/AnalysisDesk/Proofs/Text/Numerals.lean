/-
Numerals.

A reader of numbers stops at the first digit that leads out of the range, so it never holds a
value for which it has no room.  Whether a text is read does not depend on that: `Writes` says what
a text looks like that writes a number of any size, and what is read is what is written and lies
in the range.

The induction is on the digits and carries the value so far.  It can only grow, so a value that
left the range on the way would also be out of it at the end.
-/
import AnalysisDesk.Text.Numeral

namespace AnalysisDesk

theorem map_eq_ok_iff {ε α β : Type} {f : α → β} {x : Except ε α} {b : β} :
    x.map f = .ok b ↔ ∃ a, x = .ok a ∧ f a = b := by
  cases x <;> simp [Except.map]

namespace Text

/-- A row of digits that writes a number. -/
structure Digits (cs : List Char) (n : Nat) : Prop where
  nonempty : cs ≠ []
  isDigit : ∀ c ∈ cs, c.isDigit = true
  value : Nat.ofDigitChars 10 cs 0 = n

/-- A text that writes a number without sign: digits, a plus before them or not. -/
inductive WritesNat (s : String) (n : Nat) : Prop
  | bare (h : Digits s.toList n) : WritesNat s n
  | plus (rest : List Char) (hs : s.toList = '+' :: rest) (h : Digits rest n) : WritesNat s n

/-- A text that writes a number: digits, a plus or a minus before them or neither. -/
inductive Writes (s : String) : Int → Prop
  | positive (n : Nat) (h : WritesNat s n) : Writes s n
  | minus (rest : List Char) (n : Nat) (hs : s.toList = '-' :: rest) (h : Digits rest n) :
      Writes s (-(n : Int))

variable {greatest n : Nat} {overflow : NumeralFault} {c : Char} {cs : List Char} {s : String}

theorem le_ofDigitChars (cs : List Char) (value : Nat) : value ≤ Nat.ofDigitChars 10 cs value := by
  induction cs generalizing value with
  | nil => exact Nat.le_refl value
  | cons c cs ih =>
      have hcons := ih (10 * value + (c.toNat - '0'.toNat))
      rw [Nat.ofDigitChars_cons]
      omega

theorem readDigits_eq_ok_iff {value : Nat} (hvalue : value ≤ greatest) :
    readDigits greatest overflow value cs = .ok n ↔
      (∀ c ∈ cs, c.isDigit = true) ∧ Nat.ofDigitChars 10 cs value = n ∧ n ≤ greatest := by
  induction cs generalizing value with
  | nil =>
      simp only [readDigits, Except.ok.injEq, Nat.ofDigitChars_nil]
      constructor
      · rintro rfl
        exact ⟨by simp, rfl, hvalue⟩
      · exact fun h => h.2.1
  | cons c cs ih =>
      by_cases hdigit : c.isDigit = true
      · by_cases hroom : greatest < 10 * value + (c.toNat - '0'.toNat)
        · -- the value only grows from here
          have hgrows := le_ofDigitChars cs (10 * value + (c.toNat - '0'.toNat))
          simp only [readDigits, if_pos hdigit, if_pos hroom, Nat.ofDigitChars_cons, reduceCtorEq,
            false_iff]
          rintro ⟨-, hn, hle⟩
          omega
        · rw [readDigits, if_pos hdigit]
          simp only [if_neg hroom, ih (Nat.le_of_not_lt hroom), Nat.ofDigitChars_cons,
            List.forall_mem_cons, hdigit, true_and]
      · simp [readDigits, hdigit]

theorem readSomeDigits_eq_ok_iff :
    readSomeDigits greatest overflow cs = .ok n ↔ Digits cs n ∧ n ≤ greatest := by
  cases cs with
  | nil =>
      simp only [readSomeDigits, List.isEmpty_nil, if_true, reduceCtorEq, false_iff]
      exact fun h => h.1.nonempty rfl
  | cons c cs =>
      simp only [readSomeDigits, List.isEmpty_cons, Bool.false_eq_true, if_false,
        readDigits_eq_ok_iff (Nat.zero_le greatest)]
      exact ⟨fun ⟨hdigits, hvalue, hle⟩ => ⟨⟨by simp, hdigits, hvalue⟩, hle⟩,
        fun ⟨h, hle⟩ => ⟨h.isDigit, h.value, hle⟩⟩

/-- What begins with something other than a digit is no row of digits. -/
theorem Digits.head (h : Digits (c :: cs) n) : c.isDigit = true := h.isDigit c (by simp)

theorem writesNat_iff_of_plus {rest : List Char} (hs : s.toList = '+' :: rest) :
    WritesNat s n ↔ Digits rest n := by
  constructor
  · rintro (h | ⟨rest', hs', h⟩)
    · rw [hs] at h
      exact absurd h.head (by decide)
    · rw [hs] at hs'
      cases hs'
      exact h
  · exact .plus rest hs

theorem writesNat_iff_of_not_plus (hs : ∀ rest, s.toList ≠ '+' :: rest) :
    WritesNat s n ↔ Digits s.toList n := by
  constructor
  · rintro (h | ⟨rest, hs', -⟩)
    · exact h
    · exact absurd hs' (hs rest)
  · exact .bare

/-- **What is read as a number without sign** is what the text writes, if there is room for it. -/
theorem readNatural_eq_ok_iff :
    readNatural greatest s = .ok n ↔ WritesNat s n ∧ n ≤ greatest := by
  unfold readNatural
  split
  next hs =>
    rw [writesNat_iff_of_not_plus (by simp [hs]), hs]
    simp only [reduceCtorEq, false_iff]
    exact fun h => h.1.nonempty rfl
  next rest hs => rw [readSomeDigits_eq_ok_iff, writesNat_iff_of_plus hs]
  next hplus => rw [readSomeDigits_eq_ok_iff, writesNat_iff_of_not_plus hplus]

/-- A text writes one number at most. -/
theorem WritesNat.unique {m : Nat} (h : WritesNat s n) (h' : WritesNat s m) : n = m := by
  have hn := readNatural_eq_ok_iff.mpr ⟨h, Nat.le_max_left n m⟩
  have hm := readNatural_eq_ok_iff.mpr ⟨h', Nat.le_max_right n m⟩
  exact Except.ok.inj (hn.symm.trans hm)

/-! ### Numbers with sign -/

theorem WritesNat.not_minus {rest : List Char} (h : WritesNat s n) : s.toList ≠ '-' :: rest := by
  intro hs
  rcases h with h | ⟨_, hs', -⟩
  · rw [hs] at h
    exact absurd h.head (by decide)
  · rw [hs] at hs'
    exact absurd hs' (by simp)

/-- Without a minus the sign makes no difference. -/
theorem readInteger_of_not_minus (hs : ∀ rest, s.toList ≠ '-' :: rest) :
    readInteger s = (readNatural Limit.greatest64.toNat s).map Int.ofNat := by
  unfold readInteger readNatural
  generalize s.toList = cs at hs
  split
  · rfl
  · rfl
  next rest => exact absurd rfl (hs rest)
  next hempty hplus _ =>
    split
    · exact absurd rfl hempty
    · exact absurd rfl (hplus _)
    · rfl

/-- **What is read as a number with sign** is what the text writes, if it lies in the range. -/
theorem readInteger_eq_ok_iff {i : Int} :
    readInteger s = .ok i ↔ Writes s i ∧ Limit.holds64 i = true := by
  rw [Limit.holds64_iff, Limit.least64, Limit.greatest64]
  by_cases hminus : ∃ rest, s.toList = '-' :: rest
  · obtain ⟨rest, hs⟩ := hminus
    have hread : readInteger s =
        (readSomeDigits (-Limit.least64).toNat .tooSmall rest).map fun n : Nat => -(n : Int) := by
      simp only [readInteger, hs]
      cases readSomeDigits (-Limit.least64).toNat .tooSmall rest <;> rfl
    rw [hread, map_eq_ok_iff]
    constructor
    · rintro ⟨n, hn, rfl⟩
      obtain ⟨hdigits, hle⟩ := readSomeDigits_eq_ok_iff.mp hn
      have hle : n ≤ 9223372036854775808 := hle
      exact ⟨.minus rest n hs hdigits, by omega, by omega⟩
    · rintro ⟨h, hlow, -⟩
      cases h with
      | positive n h => exact absurd hs h.not_minus
      | minus rest' n hs' h =>
          rw [hs] at hs'
          cases hs'
          refine ⟨n, readSomeDigits_eq_ok_iff.mpr ⟨h, ?_⟩, rfl⟩
          show n ≤ 9223372036854775808
          omega
  · have hminus : ∀ rest, s.toList ≠ '-' :: rest := fun rest hs => hminus ⟨rest, hs⟩
    rw [readInteger_of_not_minus hminus, map_eq_ok_iff]
    constructor
    · rintro ⟨n, hn, rfl⟩
      obtain ⟨hwrites, hle⟩ := readNatural_eq_ok_iff.mp hn
      have hle : n ≤ 9223372036854775807 := hle
      refine ⟨.positive n hwrites, ?_⟩
      simp only [Int.ofNat_eq_natCast]
      omega
    · rintro ⟨h, -, hhigh⟩
      cases h with
      | positive n h =>
          refine ⟨n, readNatural_eq_ok_iff.mpr ⟨h, ?_⟩, rfl⟩
          show n ≤ 9223372036854775807
          omega
      | minus rest _ hs => exact absurd hs (hminus rest)

example : Writes "-7" (-7) := .minus ['7'] 7 rfl ⟨by simp, by simp, rfl⟩

end Text

end AnalysisDesk
