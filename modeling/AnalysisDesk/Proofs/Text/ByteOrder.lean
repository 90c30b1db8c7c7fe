/-
Texts compare as their bytes.

Two texts are compared character by character, by the numbers of the characters.  As bytes
a character is one to four numbers: the first says how many there are, and is the greater
the more there are; after it the number of the character is written digit by digit, the
most significant one first.  So of two characters that differ the smaller one has the
smaller byte at the first place where their bytes differ, before either of them ends, and
nothing that follows can make up for that.
-/
import AnalysisDesk.Text.Bytes
import Mathlib.Data.String.Basic

namespace AnalysisDesk.Text

/-! ### The first byte that differs -/

/-- The first bytes at which two rows differ lie in both of them, and that of the one is smaller. -/
inductive BreaksBelow : List UInt8 → List UInt8 → Prop
  | here {x y : UInt8} (h : x < y) (xs ys : List UInt8) : BreaksBelow (x :: xs) (y :: ys)
  | later (x : UInt8) {xs ys : List UInt8} (h : BreaksBelow xs ys) :
      BreaksBelow (x :: xs) (x :: ys)

namespace BreaksBelow

variable {xs ys : List UInt8}

/-- Such rows stay in their order whatever follows them. -/
theorem append_lt (h : BreaksBelow xs ys) (as bs : List UInt8) : xs ++ as < ys ++ bs := by
  induction h with
  | here hlt xs ys => exact List.cons_lt_cons_iff.mpr (Or.inl hlt)
  | later x _ ih => exact List.cons_lt_cons_iff.mpr (Or.inr ⟨rfl, ih⟩)

/-- A digit decides, or leaves it to those behind it. -/
theorem of_digits {m n : Nat} (hn : n < 256) (hle : m ≤ n) (hrest : m = n → BreaksBelow xs ys) :
    BreaksBelow (UInt8.ofNat m :: xs) (UInt8.ofNat n :: ys) := by
  rcases Nat.lt_or_eq_of_le hle with hlt | rfl
  · refine .here ?_ xs ys
    rw [UInt8.lt_iff_toNat_lt, UInt8.toNat_ofNat_of_lt' (hlt.trans hn), UInt8.toNat_ofNat_of_lt' hn]
    exact hlt
  · exact .later _ (hrest rfl)

end BreaksBelow

/-- **Of two characters the smaller one has the smaller bytes.** -/
theorem breaksBelow_utf8EncodeChar {a b : Char} (h : a < b) :
    BreaksBelow (String.utf8EncodeChar a) (String.utf8EncodeChar b) := by
  have hlt : a.val.toNat < b.val.toNat := h
  have hlast : b.val.toNat < 1114112 := by
    rcases b.valid with hlow | ⟨-, hhigh⟩
    · exact Nat.lt_trans hlow (by decide)
    · exact hhigh
  unfold String.utf8EncodeChar
  generalize a.val.toNat = m at hlt ⊢
  generalize b.val.toNat = n at hlt hlast ⊢
  dsimp only
  -- a character of fewer bytes begins with a smaller one; of as many bytes all are compared, digit
  -- by digit
  by_cases hone : m ≤ 127
  · rw [if_pos hone]
    split
    · exact .of_digits (by omega) (by omega) fun _ => by omega
    split
    · exact .of_digits (by omega) (by omega) fun _ => by omega
    split <;> exact .of_digits (by omega) (by omega) fun _ => by omega
  rw [if_neg hone, if_neg (show ¬ n ≤ 127 by omega)]
  by_cases htwo : m ≤ 2047
  · rw [if_pos htwo]
    split
    · exact .of_digits (by omega) (by omega) fun _ =>
        .of_digits (by omega) (by omega) fun _ => by omega
    split <;> exact .of_digits (by omega) (by omega) fun _ => by omega
  rw [if_neg htwo, if_neg (show ¬ n ≤ 2047 by omega)]
  by_cases hthree : m ≤ 65535
  · rw [if_pos hthree]
    split
    · exact .of_digits (by omega) (by omega) fun _ =>
        .of_digits (by omega) (by omega) fun _ =>
          .of_digits (by omega) (by omega) fun _ => by omega
    · exact .of_digits (by omega) (by omega) fun _ => by omega
  rw [if_neg hthree, if_neg (show ¬ n ≤ 65535 by omega)]
  exact .of_digits (by omega) (by omega) fun _ =>
    .of_digits (by omega) (by omega) fun _ =>
      .of_digits (by omega) (by omega) fun _ =>
        .of_digits (by omega) (by omega) fun _ => by omega

/-! ### Texts -/

private theorem toList_loop (bs : ByteArray) (i : Nat) (seen : List UInt8) :
    ByteArray.toList.loop bs i seen = seen.reverse ++ bs.data.toList.drop i := by
  fun_induction ByteArray.toList.loop bs i seen with
  | case1 i seen h ih =>
      have hi : i < bs.data.toList.length := by simpa using h
      rw [ih, List.drop_eq_getElem_cons hi, List.reverse_cons, List.append_assoc]
      simp [ByteArray.get!, h]
  | case2 i seen h =>
      rw [List.drop_eq_nil_of_le (by simpa using h), List.append_nil]

/-- The bytes of a text are those of its characters. -/
theorem bytes_eq (s : String) : bytes s = s.toList.flatMap String.utf8EncodeChar := by
  have hencoded : s.toUTF8 = s.toList.utf8Encode := String.utf8Encode_toList.symm
  unfold bytes ByteArray.toList
  rw [toList_loop, hencoded]
  exact List.toList_data_toByteArray

/-- The smaller of two rows of characters has the smaller bytes. -/
theorem flatMap_utf8EncodeChar_lt : ∀ {as bs : List Char}, as < bs →
    as.flatMap String.utf8EncodeChar < bs.flatMap String.utf8EncodeChar := by
  intro as
  induction as with
  | nil =>
      intro bs h
      cases bs with
      | nil => exact absurd h (List.lt_irrefl [])
      | cons b bs =>
          obtain ⟨x, xs, hx⟩ := List.exists_cons_of_ne_nil (String.utf8EncodeChar_ne_nil (c := b))
          rw [List.flatMap_nil, List.flatMap_cons, hx]
          exact List.nil_lt_cons _ _
  | cons a as ih =>
      intro bs h
      cases bs with
      | nil => exact absurd h (List.not_lt_nil _)
      | cons b bs =>
          rw [List.flatMap_cons, List.flatMap_cons]
          rcases List.cons_lt_cons_iff.mp h with hab | ⟨rfl, hrest⟩
          · exact (breaksBelow_utf8EncodeChar hab).append_lt _ _
          · exact List.append_left_lt (ih hrest)

/-- **Texts compare as their bytes.** -/
theorem bytes_lt_bytes_iff {s t : String} : bytes s < bytes t ↔ s < t := by
  have hforth : ∀ {s t : String}, s < t → bytes s < bytes t := fun h => by
    rw [bytes_eq, bytes_eq]
    exact flatMap_utf8EncodeChar_lt (String.lt_iff_toList_lt.mp h)
  refine ⟨fun h => ?_, hforth⟩
  by_contra hnot
  rcases (String.not_lt.mp hnot).lt_or_eq with hlt | rfl
  · exact List.lt_asymm h (hforth hlt)
  · exact List.lt_irrefl _ h

end AnalysisDesk.Text
