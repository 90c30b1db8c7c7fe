/-
Texts in pieces.

Paths, queries and filters are rows of pieces with a mark between them.  A row without a mark is
one piece, and a mark at an end leaves an empty piece there.
-/
namespace AnalysisDesk.Text

/-- The pieces of a row, cut at a mark. -/
def cutAt (mark : Char) : List Char → List (List Char)
  | [] => [[]]
  | c :: rest =>
    if c = mark then [] :: cutAt mark rest
    else
      match cutAt mark rest with
      | [] => [[c]]
      | piece :: pieces => (c :: piece) :: pieces

/-- Pieces with a mark between them. -/
def joinAt (mark : Char) : List (List Char) → List Char
  | [] => []
  | [piece] => piece
  | piece :: pieces => piece ++ mark :: joinAt mark pieces

theorem cutAt_ne_nil (mark : Char) (cs : List Char) : cutAt mark cs ≠ [] := by
  cases cs with
  | nil => simp [cutAt]
  | cons c rest =>
    simp only [cutAt]
    split
    · simp
    · split <;> simp

/-- Nothing is lost by cutting. -/
theorem joinAt_cutAt (mark : Char) (cs : List Char) : joinAt mark (cutAt mark cs) = cs := by
  induction cs with
  | nil => rfl
  | cons c rest ih =>
    have hne := cutAt_ne_nil mark rest
    cases hcut : cutAt mark rest with
    | nil => exact absurd hcut hne
    | cons piece pieces =>
      rw [hcut] at ih
      by_cases h : c = mark
      · simp [cutAt, h, hcut, joinAt, ih]
      · cases pieces with
        | nil => simp_all [cutAt, joinAt]
        | cons next more => simp_all [cutAt, joinAt]

/-- A mark cuts what stands before it from what stands after it. -/
theorem cutAt_append (mark : Char) (before after : List Char) :
    cutAt mark (before ++ mark :: after) = cutAt mark before ++ cutAt mark after := by
  induction before with
  | nil => simp [cutAt]
  | cons c before ih =>
      by_cases h : c = mark
      · simp only [List.cons_append, cutAt, if_pos h, ih]
      · obtain ⟨piece, pieces, hcut⟩ := List.exists_cons_of_ne_nil (cutAt_ne_nil mark before)
        simp only [List.cons_append, cutAt, if_neg h, ih, hcut]

/-- A row is one piece if it has no mark, and then it is the piece. -/
theorem cutAt_eq_singleton_iff {mark : Char} {cs piece : List Char} :
    cutAt mark cs = [piece] ↔ mark ∉ cs ∧ piece = cs := by
  constructor
  · intro h
    have hjoin := joinAt_cutAt mark cs
    rw [h] at hjoin
    refine ⟨fun hmem => ?_, hjoin⟩
    obtain ⟨before, after, rfl⟩ := List.append_of_mem hmem
    have hlength := congrArg List.length h
    have hbefore := List.length_pos_iff.mpr (cutAt_ne_nil mark before)
    have hafter := List.length_pos_iff.mpr (cutAt_ne_nil mark after)
    rw [cutAt_append, List.length_append, List.length_singleton] at hlength
    omega
  · rintro ⟨hmem, rfl⟩
    induction piece with
    | nil => rfl
    | cons c rest ih =>
        have hc : ¬c = mark := fun h => hmem (by simp [h])
        have hrest : mark ∉ rest := fun h => hmem (List.mem_cons_of_mem c h)
        simp only [cutAt, if_neg hc, ih hrest]

/-- A piece is made of what is cut, without marks. -/
theorem mem_of_mem_cutAt {mark c : Char} {cs piece : List Char} (hpiece : piece ∈ cutAt mark cs)
    (hc : c ∈ piece) : c ∈ cs ∧ c ≠ mark := by
  induction cs generalizing piece with
  | nil =>
      obtain rfl := List.mem_singleton.mp hpiece
      exact absurd hc List.not_mem_nil
  | cons d rest ih =>
      obtain ⟨first, pieces, hcut⟩ := List.exists_cons_of_ne_nil (cutAt_ne_nil mark rest)
      rw [hcut] at ih
      by_cases h : d = mark
      · simp only [cutAt, if_pos h, hcut, List.mem_cons] at hpiece
        rcases hpiece with rfl | hpiece
        · exact absurd hc List.not_mem_nil
        · exact (ih (List.mem_cons.mpr hpiece) hc).imp_left (List.mem_cons_of_mem d)
      · simp only [cutAt, if_neg h, hcut, List.mem_cons] at hpiece
        rcases hpiece with rfl | hpiece
        · rcases List.mem_cons.mp hc with rfl | hc
          · exact ⟨List.mem_cons_self, h⟩
          · exact (ih List.mem_cons_self hc).imp_left (List.mem_cons_of_mem d)
        · exact (ih (List.mem_cons_of_mem first hpiece) hc).imp_left (List.mem_cons_of_mem d)

end AnalysisDesk.Text
