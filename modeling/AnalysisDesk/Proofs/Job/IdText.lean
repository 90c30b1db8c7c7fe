/-
The written form of an identifier reads back.

The digits of an identifier are cut into groups with hyphens between them, and
reading a text of thirty-six bytes undoes just that: it takes the groups off one
by one, each hyphen in its place, and then turns every character back into its
digit.  So no two identifiers have one text, and rows of the store that are kept
under these texts are kept under the identifiers themselves.
-/
import AnalysisDesk.Job.Id
import Mathlib.Algebra.GroupWithZero.Nat
import Mathlib.Data.String.Basic

namespace AnalysisDesk

namespace JobId

/-! ### The groups -/

/-- The hyphens stand where they are looked for. -/
theorem ungrouped?_grouped : ∀ (lengths : List Nat) (digits : List Char),
    digits.length = lengths.sum → ungrouped? lengths (grouped lengths digits) = some digits := by
  intro lengths
  induction lengths with
  | nil => intro digits _; rfl
  | cons n rest ih =>
      intro digits hlen
      cases rest with
      | nil =>
          rw [List.sum_singleton] at hlen
          exact if_pos hlen
      | cons m more =>
          rw [List.sum_cons] at hlen
          have htake : (digits.take n).length = n := by rw [List.length_take]; omega
          have hrest := ih (digits.drop n) (by rw [List.length_drop]; omega)
          have hdrop : (digits.take n ++ '-' :: grouped (m :: more) (digits.drop n)).drop n
              = '-' :: grouped (m :: more) (digits.drop n) := by
            rw [List.drop_append_of_le_length (Nat.le_of_eq htake.symm), List.drop_eq_nil_of_le (by omega),
              List.nil_append]
          have hhead : (digits.take n ++ '-' :: grouped (m :: more) (digits.drop n)).take n
              = digits.take n := by
            rw [List.take_append_of_le_length (Nat.le_of_eq htake.symm), List.take_take, Nat.min_self]
          show ungrouped? (n :: m :: more)
            (digits.take n ++ '-' :: grouped (m :: more) (digits.drop n)) = some digits
          rw [ungrouped?, hdrop]
          · simp only [hhead, hrest, Option.map_some, List.take_append_drop]
          · simp

theorem mem_grouped {c : Char} : ∀ (lengths : List Nat) (digits : List Char),
    c ∈ grouped lengths digits → c = '-' ∨ c ∈ digits := by
  intro lengths
  induction lengths with
  | nil => intro digits h; exact Or.inr h
  | cons n rest ih =>
      intro digits h
      cases rest with
      | nil => exact Or.inr h
      | cons m more =>
          rcases List.mem_append.mp h with hin | hin
          · exact Or.inr (List.mem_of_mem_take hin)
          · rcases List.mem_cons.mp hin with hc | hin
            · exact Or.inl hc
            · exact (ih _ hin).imp_right List.mem_of_mem_drop

/-- One hyphen for every group but the last. -/
theorem length_grouped (n : Nat) : ∀ (lengths : List Nat) (digits : List Char),
    digits.length = (n :: lengths).sum →
      (grouped (n :: lengths) digits).length = digits.length + lengths.length := by
  intro lengths
  induction lengths generalizing n with
  | nil => intro digits _; rfl
  | cons m more ih =>
      intro digits hlen
      rw [List.sum_cons] at hlen
      have hrest := ih m (digits.drop n) (by rw [List.length_drop]; omega)
      show (digits.take n ++ '-' :: grouped (m :: more) (digits.drop n)).length
        = digits.length + (more.length + 1)
      rw [List.length_append, List.length_cons, hrest, List.length_take, List.length_drop]
      omega

/-! ### The digits -/

theorem digitOf?_digitChar : ∀ d : Fin 16, digitOf? (digitChar d) = some d := by decide

theorem utf8Size_digitChar : ∀ d : Fin 16, (digitChar d).utf8Size = 1 := by decide

theorem mapM_digitOf? (digits : List (Fin 16)) :
    (digits.map digitChar).mapM digitOf? = some digits := by
  induction digits with
  | nil => rfl
  | cons d rest ih => rw [List.map_cons, List.mapM_cons, ih, digitOf?_digitChar]; rfl

private theorem utf8Len_eq_length : ∀ (cs : List Char), (∀ c ∈ cs, c.utf8Size = 1) →
    String.utf8Len cs = cs.length := by
  intro cs
  induction cs with
  | nil => intro _; rfl
  | cons c rest ih =>
      intro h
      rw [String.utf8Len_cons, ih fun d hd => h d (by simp [hd]), h c (by simp), List.length_cons]

/-! ### The text -/

variable (id : JobId)

private theorem length_digits : (id.digits.toList.map digitChar).length = groups.sum := by
  simp [groups]

theorem utf8ByteSize_text : id.text.utf8ByteSize = 36 := by
  have hascii : ∀ c ∈ grouped groups (id.digits.toList.map digitChar), c.utf8Size = 1 := by
    intro c hc
    rcases mem_grouped _ _ hc with rfl | hin
    · rfl
    · obtain ⟨d, -, rfl⟩ := List.mem_map.mp hin
      exact utf8Size_digitChar d
  rw [text, String.utf8ByteSize_ofList, utf8Len_eq_length _ hascii, groups,
    length_grouped 8 _ _ (length_digits id), length_digits id]
  rfl

/-- **An identifier is read back from its text.** -/
theorem read?_text : read? id.text = some id := by
  have hcs : id.text.toList = grouped groups (id.digits.toList.map digitChar) := by
    rw [text, String.toList_ofList]
  have hplain : ofPlain? (id.digits.toList.map digitChar) = some id := by
    rw [ofPlain?, mapM_digitOf?, Option.bind_some, ofDigits?, dif_pos (by simp)]
    rfl
  simp only [read?, utf8ByteSize_text, hcs, ofGrouped?, ungrouped?_grouped _ _ (length_digits id),
    Option.bind_some, hplain]
  simp

theorem text_injective : Function.Injective text := by
  intro a b h
  have hread : some a = some b := by rw [← read?_text a, h, read?_text b]
  exact Option.some.inj hread

@[simp] theorem text_inj {a b : JobId} : a.text = b.text ↔ a = b := text_injective.eq_iff

end JobId

end AnalysisDesk
