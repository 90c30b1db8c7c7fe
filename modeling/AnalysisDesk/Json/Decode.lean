/-
Decoding documents.

A `Decoder` turns a reading into a value or names the first fault from the left.  Records are
described by their members: `Fields` is the list of them together with the function that builds
the value, so that a record's decoder is written like its constructor.

A record may come as an object or as the list of its members in order.  Members that the record
does not know are passed over.  The members present are decoded in the order of the document;
only then is it checked that none is missing.
-/
import AnalysisDesk.Json.Reading
import AnalysisDesk.Text.Quoted

namespace AnalysisDesk.Decode

/-- What was found in the place of something else. -/
inductive Found where
  | null
  | bool (value : Bool)
  | int (value : Int)
  | float (value : Double)
  | str (text : String)
  | list
  | object
deriving DecidableEq, Repr

def Found.describe : Found → String
  | .null => "null"
  | .bool true => "boolean `true`"
  | .bool false => "boolean `false`"
  | .int value => "integer `" ++ toString value ++ "`"
  | .float value => "floating point `" ++ value.text ++ "`"
  | .str text => "string " ++ Text.quoted text
  | .list => "sequence"
  | .object => "map"

/-- Why a document is not of the wanted shape. -/
inductive Cause where
  | wrongType (found : Found) (wanted : String)
  | outOfRange (value : Int) (wanted : String)
  | unknownLabel (label : String) (labels : List String)
  | missing (field : String)
  | repeated (field : String)
  /-- A record given as a list ends before its member `index`. -/
  | tooShort (index : Nat) (record : String) (members : Nat)
  /-- A record given as a list goes on after its last member. -/
  | tooLong (length : Nat)
  /-- A label given as an object has not exactly one field. -/
  | notSingle
  /-- A text does not denote a value of its kind. -/
  | malformed (explanation : String)
deriving DecidableEq, Repr

/-- A label between backticks. -/
def ticked (s : String) : String := "`" ++ s ++ "`"

/-- The labels that would have been right. -/
def expectedLabels : List String → String
  | [] => "there are no variants"
  | [a] => "expected " ++ ticked a
  | [a, b] => "expected " ++ ticked a ++ " or " ++ ticked b
  | labels => "expected one of " ++ ", ".intercalate (labels.map ticked)

def Cause.message : Cause → String
  | .wrongType found wanted => "invalid type: " ++ found.describe ++ ", expected " ++ wanted
  | .outOfRange value wanted =>
    "invalid value: integer " ++ ticked (toString value) ++ ", expected " ++ wanted
  | .unknownLabel label labels => "unknown variant " ++ ticked label ++ ", " ++ expectedLabels labels
  | .missing field => "missing field " ++ ticked field
  | .repeated field => "duplicate field " ++ ticked field
  | .tooShort index record members =>
    "invalid length " ++ toString index ++ ", expected struct " ++ record ++ " with "
      ++ toString members ++ (if members = 1 then " element" else " elements")
  | .tooLong length =>
    "invalid length " ++ toString length ++ ", expected fewer elements in array"
  | .notSingle => "invalid value: map, expected map with a single key"
  | .malformed explanation => explanation

/-- A step from a document to a part of it. -/
inductive Step where
  | field (name : String)
  | item (index : Nat)
deriving DecidableEq, Repr

/-- The first fault of a document. -/
inductive Fault where
  /-- The text is no document. -/
  | broken
  /-- The part at `path` is not of the wanted shape. -/
  | wrong (path : List Step) (cause : Cause)
deriving DecidableEq, Repr

namespace Fault

/-- The fault of a part, as a fault of the whole. -/
def within (step : Step) : Fault → Fault
  | .broken => .broken
  | .wrong path cause => .wrong (step :: path) cause

/-- The path of a part as text: names joined by points, indices in brackets. -/
def pathText : List Step → String
  | [] => ""
  | [.field name] => name
  | [.item index] => "[" ++ toString index ++ "]"
  | .field name :: .item index :: rest => name ++ pathText (.item index :: rest)
  | .field name :: rest => name ++ "." ++ pathText rest
  | .item index :: .item next :: rest =>
    "[" ++ toString index ++ "]" ++ pathText (.item next :: rest)
  | .item index :: rest => "[" ++ toString index ++ "]." ++ pathText rest

/-- The cause alone. -/
def message : Fault → String
  | .broken => ""
  | .wrong _ cause => cause.message

/-- The cause after the path of the part that has it. -/
def located : Fault → String
  | .broken => ""
  | .wrong [] cause => cause.message
  | .wrong path cause => pathText path ++ ": " ++ cause.message

end Fault

/-- Where a reading comes from. -/
inductive Origin where
  /-- A text that is decoded while it is read. -/
  | text
  /-- A document that has been read before. -/
  | document
deriving DecidableEq, Repr

end Decode

open Decode

/-- Reads a value of a type out of a reading. -/
def Decoder (α : Type) : Type := Origin → Reading → Except Fault α

namespace Decoder

/-- The fault of a value of another type. -/
def mismatch (wanted : String) : Reading → Fault
  | .null => .wrong [] (.wrongType .null wanted)
  | .bool value => .wrong [] (.wrongType (.bool value) wanted)
  | .int value => .wrong [] (.wrongType (.int value) wanted)
  | .float value => .wrong [] (.wrongType (.float value) wanted)
  | .str text => .wrong [] (.wrongType (.str text) wanted)
  | .arr _ _ => .wrong [] (.wrongType .list wanted)
  | .obj _ _ => .wrong [] (.wrongType .object wanted)
  | .beyond => .broken
  | .torn => .broken
  | .broken => .broken

/-- A whole number from `low` to `high`; `wanted` names the range in messages. -/
def integer (low high : Int) (wanted : String) : Decoder Int := fun _ reading =>
  match reading with
  | .int value =>
    if low ≤ value ∧ value ≤ high then .ok value else .error (.wrong [] (.outOfRange value wanted))
  | other => .error (mismatch wanted other)

/-- A whole number of sixty-four bits with sign. -/
def int64 : Decoder Int := integer Limit.least64 Limit.greatest64 "i64"

/-- A whole number of the given range, not negative. -/
def natural (high : Nat) (wanted : String) : Decoder Nat := fun origin reading =>
  (integer 0 high wanted origin reading).map Int.toNat

def uint32 : Decoder Nat := natural Limit.word32 "u32"
def uint64 : Decoder Nat := natural Limit.word64 "u64"

/-- A floating-point number; a whole number will do. -/
def double : Decoder Double := fun _ reading =>
  match reading with
  | .float value => .ok value
  | .int value => .ok (.ofInt value)
  | other => .error (mismatch "f64" other)

def string : Decoder String := fun _ reading =>
  match reading with
  | .str text => .ok text
  | other => .error (mismatch "a string" other)

/-- A text that denotes a value. -/
def parsed {α : Type} (wanted : String) (parse : String → Except String α) : Decoder α :=
  fun _ reading =>
    match reading with
    | .str text =>
      match parse text with
      | .ok a => .ok a
      | .error explanation => .error (.wrong [] (.malformed explanation))
    | other => .error (mismatch wanted other)

/-- Null, or a value. -/
def nullable {α : Type} (d : Decoder α) : Decoder (Option α) := fun origin reading =>
  match reading with
  | .null => .ok none
  | other => (d origin other).map some

/-- Decodes the items of a list from index `index` on. -/
def items {α : Type} (d : Decoder α) (origin : Origin) : Nat → List Reading → Except Fault (List α)
  | _, [] => .ok []
  | index, item :: rest =>
    match d origin item with
    | .error fault => .error (fault.within (.item index))
    | .ok a =>
      match items d origin (index + 1) rest with
      | .error fault => .error fault
      | .ok as => .ok (a :: as)

def list {α : Type} (d : Decoder α) : Decoder (List α) := fun origin reading =>
  match reading with
  | .arr elements whole =>
    match items d origin 0 elements with
    | .error fault => .error fault
    | .ok as => if whole then .ok as else .error .broken
  | other => .error (mismatch "a sequence" other)

/-- One of the given labels, as a text or as the name of an object's one field, which is null. -/
def label {α : Type} (choices : List (String × α)) : Decoder α := fun origin reading =>
  let choose (name : String) : Except Fault α :=
    match choices.lookup name with
    | some a => .ok a
    | none => .error (.wrong [] (.unknownLabel name (choices.map (·.1))))
  let content : Reading → Except Fault Unit
    | .null => .ok ()
    | other => .error (mismatch "unit" other)
  match origin, reading with
  | _, .str text => choose text
  | .document, .obj [(name, value)] _ =>
    match choose name, content value with
    | .error fault, _ => .error fault
    | _, .error fault => .error fault
    | .ok a, .ok () => .ok a
  | .document, .obj _ _ => .error (.wrong [] .notSingle)
  | .document, other => .error (mismatch "string or map" other)
  | .text, .obj ((name, value) :: rest) whole =>
    match choose name, content value with
    | .error fault, _ => .error fault
    | _, .error fault => .error fault
    | .ok a, .ok () => if rest.isEmpty ∧ whole then .ok a else .error .broken
  | .text, _ => .error .broken

end Decoder

/-! ### Records -/

namespace Decode

/-- What a record does without one of its members. -/
inductive Absence where
  /-- It cannot do without. -/
  | refused
  /-- A record given as an object may leave it out; given as a list, not. -/
  | ofObject
  /-- It has a default. -/
  | defaulted
deriving DecidableEq, Repr

/-- A member of a record, as far as its presence and its fault go. -/
structure Member where
  name : String
  absence : Absence
  /-- The fault of the member's value, if it has one. -/
  fault? : Origin → Reading → Option Fault

/-- The members of a record that serve to build a value. -/
structure Fields (α : Type) where
  members : List Member
  /-- Builds the value from the members that are present. -/
  build : Origin → (String → Option Reading) → Except Fault α

namespace Fields

/-- The fault of a decoder's result. -/
def faultOf {α : Type} (d : Decoder α) (origin : Origin) (reading : Reading) : Option Fault :=
  match d origin reading with
  | .ok _ => none
  | .error fault => some fault

/-- A member that has to be there. -/
def required {α : Type} (name : String) (d : Decoder α) : Fields α where
  members := [⟨name, .refused, faultOf d⟩]
  build origin present :=
    match present name with
    | some reading => d origin reading
    | none => .error (.wrong [] (.missing name))

/-- A member that an object may leave out. -/
def optional {α : Type} (name : String) (d : Decoder α) : Fields (Option α) where
  members := [⟨name, .ofObject, faultOf d.nullable⟩]
  build origin present :=
    match present name with
    | some reading => d.nullable origin reading
    | none => .ok none

/-- A member with a default. -/
def defaulted {α : Type} (name : String) (d : Decoder α) (default : α) : Fields α where
  members := [⟨name, .defaulted, faultOf d⟩]
  build origin present :=
    match present name with
    | some reading => d origin reading
    | none => .ok default

/-- An optional member that a list may leave out as well. -/
def spare {α : Type} (name : String) (d : Decoder α) : Fields (Option α) :=
  defaulted name d.nullable none

instance : Functor Fields where
  map f fields :=
    { members := fields.members
      build := fun origin present => (fields.build origin present).map f }

instance : Seq Fields where
  seq f a :=
    { members := f.members ++ (a ()).members
      build := fun origin present =>
        match f.build origin present, (a ()).build origin present with
        | .error fault, _ => .error fault
        | _, .error fault => .error fault
        | .ok g, .ok x => .ok (g x) }

/-- The first fault among the fields of an object; `seen` are the members met before. -/
def objectFault? (members : List Member) (origin : Origin) (whole : Bool) :
    List String → List (String × Reading) → Option Fault
  | _, [] => if whole then none else some .broken
  | seen, (name, value) :: rest =>
    match members.find? fun member => member.name == name with
    | none => if value.isSound then objectFault? members origin whole seen rest else some .broken
    | some member =>
      if seen.contains name then some (.wrong [] (.repeated name))
      else
        match member.fault? origin value with
        | some fault => some (fault.within (.field name))
        | none => objectFault? members origin whole (name :: seen) rest

/-- The first fault among the items of a list that stand for the members from `index` on. -/
def listFault? (record : String) (total : Nat) (origin : Origin) (whole : Bool) (length : Nat) :
    Nat → List Member → List Reading → Option Fault
  | _, [], [] => if whole then none else some .broken
  | _, [], _ :: _ =>
    match origin with
    | .text => some .broken
    | .document => some (.wrong [] (.tooLong length))
  | index, member :: members, [] =>
    if !whole then some .broken
    else if member.absence = .defaulted then
      listFault? record total origin whole length (index + 1) members []
    else some (.wrong [] (.tooShort index record total))
  | index, member :: members, item :: items =>
    match member.fault? origin item with
    | some fault => some (fault.within (.item index))
    | none => listFault? record total origin whole length (index + 1) members items

/-- The decoder of a record. -/
def decoder {α : Type} (record : String) (fields : Fields α) : Decoder α := fun origin reading =>
  match reading with
  | .obj entries whole =>
    match objectFault? fields.members origin whole [] entries with
    | some fault => .error fault
    | none => fields.build origin fun name => entries.lookup name
  | .arr elements whole =>
    match listFault? record fields.members.length origin whole elements.length 0 fields.members
        elements with
    | some fault => .error fault
    | none => fields.build origin fun name => ((fields.members.map (·.name)).zip elements).lookup name
  | other => .error (Decoder.mismatch ("struct " ++ record) other)

end Fields

end Decode

namespace Decoder

/-- Decodes a document. -/
def ofJson {α : Type} (d : Decoder α) (j : Json) : Except Fault α := d .document (.ofJson j)

/-- Decodes a text while it is read. -/
def ofText {α : Type} (d : Decoder α) (s : String) : Except Fault α :=
  match Reading.ofText s with
  | (reading, ends) =>
    match d .text reading with
    | .error fault => .error fault
    | .ok a => if ends then .ok a else .error .broken

end Decoder

end AnalysisDesk
