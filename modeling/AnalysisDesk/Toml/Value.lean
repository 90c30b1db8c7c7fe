/-
Settings as they stand in a settings file.

A file in this format is a table: keys with values, some of which are tables again.  Points in
time are kept as they are written, because no setting is one.
-/
import AnalysisDesk.Number.Double

namespace AnalysisDesk

/-- A value of a settings file. -/
inductive Toml where
  | str (text : String)
  | int (value : Int)
  | float (value : Double)
  | bool (value : Bool)
  /-- A date, a time, or both. -/
  | moment (text : String)
  | arr (items : List Toml)
  | table (entries : List (String × Toml))
deriving Inhabited

/-- A whole settings file. -/
abbrev TomlTable : Type := List (String × Toml)

namespace Toml

/-- The whole numbers that can be written. -/
def leastInt : Int := -170141183460469231731687303715884105728

def greatestInt : Int := 340282366920938463463374607431768211455

/-- How many lists and tables between brackets may stand inside each other. -/
def deepest : Nat := 80

end Toml

end AnalysisDesk
