/-
Trees that grow.

What a command prepares before its own work only adds to the tree: a directory where none was, a
file where nothing was.  `Grows` says so of two trees; what is new may be any directory, and a text
of a kind that is given.

A tree that has grown answers as before wherever it gave an answer.  So a path that led somewhere
still leads there, and steps of growth can be put one after another.
-/
import AnalysisDesk.Files.Tree

namespace AnalysisDesk.Tree

variable {allowed other : Place → String → Prop} {t t' t'' : Tree} {here place : Place}

/-! ### Entries -/

theorem lookup_putEntry {entry : Entry} {entries : List (Place × Entry)} {at_ : Place} :
    (putEntry place entry entries).lookup at_ =
      if at_ = place then some entry else entries.lookup at_ := by
  induction entries with
  | nil => grind [putEntry]
  | cons first rest ih =>
      obtain ⟨key, value⟩ := first
      grind [putEntry]

/-- What is put at a place is there, unless that is the root. -/
theorem entry?_put {entry : Entry} {at_ : Place} (hplace : place ≠ []) :
    entry? (t.put place entry) at_ = if at_ = place then some entry else t.entry? at_ := by
  cases at_ with
  | nil => simp [ entry?, hplace.symm]
  | cons step steps => exact lookup_putEntry

/-! ### Growth -/

/-- A tree and one that came of it: everything that was there is there, and what is new is a
directory or a text that may be there. -/
structure Grows (allowed : Place → String → Prop) (t t' : Tree) : Prop where
  kept : ∀ place entry, t.entry? place = some entry → t'.entry? place = some entry
  fresh : ∀ place entry, t.entry? place = none → t'.entry? place = some entry →
    entry = .directory ∨ ∃ content, entry = .text content ∧ allowed place content

namespace Grows

theorem refl (t : Tree) : Grows allowed t t where
  kept _ _ h := h
  fresh _ _ h h' := nomatch h.symm.trans h'

theorem mono (h : Grows allowed t t') (hallowed : ∀ place content, allowed place content →
    other place content) : Grows other t t' where
  kept := h.kept
  fresh place entry hnone hsome :=
    (h.fresh place entry hnone hsome).imp_right fun ⟨content, hentry, hcontent⟩ =>
      ⟨content, hentry, hallowed place content hcontent⟩

theorem trans (h : Grows allowed t t') (h' : Grows allowed t' t'') : Grows allowed t t'' where
  kept place entry hentry := h'.kept place entry (h.kept place entry hentry)
  fresh place entry hnone hsome := by
    cases hmiddle : t'.entry? place with
    | none => exact h'.fresh place entry hmiddle hsome
    | some entry' =>
        rw [h'.kept place entry' hmiddle] at hsome
        cases hsome
        exact h.fresh place entry hnone hmiddle

/-- Something that may be there is put where nothing is. -/
theorem put {entry : Entry} (hnone : t.entry? place = none)
    (hentry : entry = .directory ∨ ∃ content, entry = .text content ∧ allowed place content) :
    Grows allowed t (t.put place entry) := by
  have hplace : place ≠ [] := by
    rintro rfl
    exact nomatch hnone
  constructor
  · intro at_ found hfound
    rw [entry?_put hplace]
    split
    next h => exact nomatch (h ▸ hfound).symm.trans hnone
    next => exact hfound
  · intro at_ found hmissing hfound
    rw [entry?_put hplace] at hfound
    split at hfound
    next h =>
      cases hfound
      exact h ▸ hentry
    next => exact nomatch hmissing.symm.trans hfound

/-! ### Paths -/

theorem isDirectory (h : Grows allowed t t') (hdirectory : t.isDirectory place = true) :
    t'.isDirectory place = true := by
  unfold Tree.isDirectory at hdirectory ⊢
  split at hdirectory
  next hentry => rw [h.kept place _ hentry]
  next => exact nomatch hdirectory

/-- A path that leads somewhere leads there still. -/
theorem follow (h : Grows allowed t t') {steps : List String}
    (hfollow : t.follow here steps = some place) : t'.follow here steps = some place := by
  induction steps generalizing here with
  | nil => exact hfollow
  | cons step rest ih =>
      simp only [Tree.follow] at hfollow ⊢
      split at hfollow
      next => exact nomatch hfollow
      next hdirectory =>
        have hdirectory' := h.isDirectory (by simpa using hdirectory)
        rw [hdirectory']
        grind

theorem resolve? (h : Grows allowed t t') {path : String}
    (hresolve : t.resolve? here path = some place) : t'.resolve? here path = some place := by
  unfold Tree.resolve? at hresolve ⊢
  split at hresolve
  next => exact nomatch hresolve
  next hpath =>
    rw [if_neg hpath]
    exact h.follow hresolve

theorem find? (h : Grows allowed t t') {path : String} {entry : Entry}
    (hfind : t.find? here path = some entry) : t'.find? here path = some entry := by
  obtain ⟨place, hresolve, hentry⟩ := Option.bind_eq_some_iff.mp hfind
  exact Option.bind_eq_some_iff.mpr ⟨place, h.resolve? hresolve, h.kept place entry hentry⟩

/-! ### Steps of growth -/

theorem makeFrom {steps : List String} (h : t.makeFrom here steps = some t') :
    Grows allowed t t' := by
  induction steps generalizing t here with
  | nil =>
      simp only [Tree.makeFrom] at h
      split at h
      next =>
        cases h
        exact .refl _
      next => exact nomatch h
  | cons step rest ih =>
      simp only [Tree.makeFrom] at h
      split at h
      next => exact ih h
      next =>
        split at h
        next => exact ih h
        next =>
          split at h
          next => exact ih h
          next => exact nomatch h
          next hnone => exact (put hnone (Or.inl rfl)).trans (ih h)

/-- Making directories makes nothing else. -/
theorem makeDirectories? {path : String} (h : t.makeDirectories? here path = some t') :
    Grows allowed t t' := makeFrom h

/-- A text that is written where nothing is. -/
theorem write? {path content : String} (hmissing : t.find? here path = none)
    (h : t.write? here path content = some t') :
    Grows (fun place text => t.resolve? here path = some place ∧ text = content) t t' := by
  obtain ⟨place, hresolve, h⟩ := Option.bind_eq_some_iff.mp h
  have hnone : t.entry? place = none := by
    simpa [Tree.find?, hresolve] using hmissing
  rw [hnone] at h
  dsimp only at h
  split at h
  next =>
    cases h
    exact put hnone (Or.inr ⟨content, rfl, hresolve, rfl⟩)
  next => exact nomatch h

end Grows

end AnalysisDesk.Tree
