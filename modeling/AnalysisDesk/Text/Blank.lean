/-
White space.

A branch name or a filter that holds nothing but white space counts as absent, and an id in a
header may be padded with it.  White space here is the standard's property of that name: the
twenty-five characters of `blankRanges`, not only the ones on a keyboard.
-/
namespace AnalysisDesk.Text

/-- The ranges of code points that are white space. -/
def blankRanges : List (Nat × Nat) :=
  [(0x09, 0x0D), (0x20, 0x20), (0x85, 0x85), (0xA0, 0xA0), (0x1680, 0x1680), (0x2000, 0x200A),
   (0x2028, 0x2029), (0x202F, 0x202F), (0x205F, 0x205F), (0x3000, 0x3000)]

/-- Whether a character is white space. -/
def isBlankChar (c : Char) : Bool :=
  blankRanges.any fun range => range.1 ≤ c.toNat && c.toNat ≤ range.2

/-- Drops white space at the front. -/
def dropBlank (cs : List Char) : List Char := cs.dropWhile isBlankChar

/-- Drops the characters at the end for which `p` holds. -/
def dropEndWhile (p : Char → Bool) (cs : List Char) : List Char :=
  (cs.reverse.dropWhile p).reverse

/-- Drops white space at both ends. -/
def trim (s : String) : String :=
  String.ofList (dropEndWhile isBlankChar (dropBlank s.toList))

/-- Whether a text holds nothing but white space. -/
def isBlank (s : String) : Bool := s.toList.all isBlankChar

/-- The text itself, unless it is blank. -/
def nonBlank? (s : String) : Option String := if isBlank s then none else some s

theorem nonBlank?_eq_some_iff {s t : String} :
    nonBlank? s = some t ↔ isBlank s = false ∧ s = t := by
  unfold nonBlank?
  cases isBlank s <;> simp

end AnalysisDesk.Text
