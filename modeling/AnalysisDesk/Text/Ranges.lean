/-
Properties of characters, as tables of ranges.
-/
namespace AnalysisDesk.Text

/-- Whether one of the ranges from index `low` to before `high` holds `code`; the ranges ascend.
Each step halves what is left, so the distance is fuel enough. -/
def inRangesBetween (ranges : Array (Nat × Nat)) (code : Nat) : Nat → Nat → Nat → Bool
  | 0, _, _ => false
  | fuel + 1, low, high =>
    if low < high then
      let mid := (low + high) / 2
      let range := ranges.getD mid (0, 0)
      if code < range.1 then inRangesBetween ranges code fuel low mid
      else if range.2 < code then inRangesBetween ranges code fuel (mid + 1) high
      else true
    else false

/-- Whether one of the ranges of an ascending table holds `code`. -/
def inRanges (ranges : Array (Nat × Nat)) (code : Nat) : Bool :=
  inRangesBetween ranges code ranges.size 0 ranges.size

end AnalysisDesk.Text
