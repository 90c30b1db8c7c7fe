/-
Documents.

A document is a value of the usual data format: null, truth values, numbers, texts, lists and
objects.  Whole numbers and floating-point numbers are different values, as `1` and `1.0` are
different texts.  An object's fields stand in the order of their names.
-/
import AnalysisDesk.Number.Written

namespace AnalysisDesk

/-- A document. -/
inductive Json where
  | null
  | bool (value : Bool)
  | int (value : Int)
  | float (value : Double)
  | str (text : String)
  | arr (items : List Json)
  | obj (fields : List (String × Json))
deriving Inhabited

namespace Json

/-- Puts a field in its place by name; a field of that name is replaced. -/
def insertField (name : String) (value : Json) : List (String × Json) → List (String × Json)
  | [] => [(name, value)]
  | field :: rest =>
    if name < field.1 then (name, value) :: field :: rest
    else if name = field.1 then (name, value) :: rest
    else field :: insertField name value rest

/-- The object with the given fields; of two fields of one name the later one counts. -/
def object (fields : List (String × Json)) : Json :=
  .obj (fields.foldl (fun acc field => insertField field.1 field.2 acc) [])

/-- The value of a field. -/
def field? (name : String) : Json → Option Json
  | .obj fields => (fields.find? fun field => field.1 == name).map (·.2)
  | _ => none

def str? : Json → Option String
  | .str text => some text
  | _ => none

def int? : Json → Option Int
  | .int value => some value
  | _ => none

def bool? : Json → Option Bool
  | .bool value => some value
  | _ => none

def arr? : Json → Option (List Json)
  | .arr items => some items
  | _ => none

/-- The value, or null where there is none. -/
def option {α : Type} (encode : α → Json) : Option α → Json
  | none => .null
  | some a => encode a

/-- A number; a NaN or an infinity cannot be written and becomes null. -/
def number (d : Double) : Json := if d.isFinite then .float d else .null

def nat (n : Nat) : Json := .int n

end Json

end AnalysisDesk
