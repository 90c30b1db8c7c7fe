/-
Powers and limits.

The whole numbers that a field can hold end just below a power of two.  The limits are written out
here once, under the names by which the readers and writers of numbers ask for them.

A sum that has no room is nothing that a caller is told of.  The program checks its sums and falls
over by one that goes too far, so what it does with an `Overflow` is to go no further.
-/
namespace AnalysisDesk

/-- Two to the power of `k`. -/
def twoTo (k : Nat) : Nat := Nat.pow 2 k

/-- Ten to the power of `k`. -/
def tenTo (k : Nat) : Nat := Nat.pow 10 k

/-- What a program falls over: the outcome of a sum that has no room where it is kept. -/
inductive Overflow where
  /-- A number of sixty-four bits. -/
  | number
  /-- An instant of the clock by which waits are timed. -/
  | instant
deriving DecidableEq, Repr

def Overflow.message : Overflow → String
  | .number => "attempt to add with overflow"
  | .instant => "overflow when adding duration to instant"

namespace Limit

/-! ### Numbers without sign -/

/-- The greatest number of sixteen bits. -/
def word16 : Nat := 65535

/-- The greatest number of thirty-two bits. -/
def word32 : Nat := 4294967295

/-- The greatest number of sixty-four bits. -/
def word64 : Nat := 18446744073709551615

/-! ### Numbers with sign -/

/-- The least number of sixty-four bits with sign. -/
def least64 : Int := -9223372036854775808

/-- The greatest number of sixty-four bits with sign. -/
def greatest64 : Int := 9223372036854775807

/-- Whether a number has room in sixty-four bits with sign. -/
def holds64 (i : Int) : Bool := least64 ≤ i && i ≤ greatest64

theorem holds64_iff {i : Int} : holds64 i = true ↔ least64 ≤ i ∧ i ≤ greatest64 := by
  simp [holds64]

/-- Adds numbers to a total, one after the other.  Each total on the way has to have room in
sixty-four bits with sign. -/
def addAll : Int → List Int → Except Overflow Int
  | total, [] => .ok total
  | total, number :: rest =>
    if holds64 (total + number) then addAll (total + number) rest else .error .number

end Limit

end AnalysisDesk
