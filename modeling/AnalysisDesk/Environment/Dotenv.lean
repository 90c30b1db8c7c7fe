/-
Variables from a file.

A file beside the command may hold variables, one a line: a name, an equals sign and a value.  A
value may be quoted, may go over several lines between quotes, and may refer to other variables
after a dollar sign.  Variables that are there already stay as they are, and the first line that
cannot be understood ends the file.
-/
import AnalysisDesk.Environment.Basic
import AnalysisDesk.Text.Alphanumeric
import AnalysisDesk.Text.Blank

namespace AnalysisDesk.Dotenv

/-- The name of the file. -/
def fileName : String := ".env"

/-! ### Lines -/

/-- Where one stands in a line, as far as it matters to where the line ends. -/
inductive Spot where
  | plain
  /-- After a blank, where a comment may begin. -/
  | blank
  | escape
  | single
  | singleEscape
  | double
  | doubleEscape
  | comment
deriving DecidableEq, Repr

/-- The spot after a character. -/
def Spot.after (c : Char) : Spot → Spot
  | .plain =>
    if Text.isBlankChar c && c ≠ '\n' && c ≠ '\r' then .blank
    else if c = '\\' then .escape
    else if c = '"' then .double
    else if c = '\'' then .single
    else .plain
  | .blank =>
    if c = '#' then .comment
    else if c = '\\' then .escape
    else if c = '"' then .double
    else if c = '\'' then .single
    else .plain
  | .escape => .plain
  | .single => if c = '\\' then .singleEscape else if c = '\'' then .plain else .single
  | .singleEscape => .single
  | .double => if c = '\\' then .doubleEscape else if c = '"' then .plain else .double
  | .doubleEscape => .double
  | .comment => .comment

/-- Goes through a line up to a comment: what stands before it, and the spot at the end. -/
def Spot.walk : Spot → List Char → List Char × Spot
  | spot, [] => ([], spot)
  | spot, c :: rest =>
    match spot.after c with
    | .comment => ([], .comment)
    | next =>
      let (kept, final) := next.walk rest
      (c :: kept, final)

/-- The lines of a text, each with its line break. -/
def rawLines : List Char → List (List Char)
  | [] => []
  | c :: rest =>
    if c = '\n' then [c] :: rawLines rest
    else
      match rawLines rest with
      | [] => [[c]]
      | line :: lines => (c :: line) :: lines

/-- A line without its line break. -/
def withoutBreak (cs : List Char) : List Char :=
  match cs.reverse with
  | '\n' :: '\r' :: rest => rest.reverse
  | '\n' :: rest => rest.reverse
  | _ => cs

/-- Joins lines that belong together; `before` is what came before the next line and belongs to
it.  The last line is missing if quotes are open at the end. -/
def joinedLines : List Char → Spot → List (List Char) → List (Option (List Char))
  | _, spot, [] => if spot = .plain then [] else [none]
  | before, spot, line :: rest =>
    let whole := before ++ line
    if (Text.dropBlank whole).head? = some '#' then some [] :: joinedLines [] .plain rest
    else
      match spot.walk line with
      | (_, .plain) => some (withoutBreak whole) :: joinedLines [] .plain rest
      | (kept, .comment) => some (before ++ kept) :: joinedLines [] .plain rest
      | (_, open_) => joinedLines whole open_ rest

/-! ### Values -/

/-- A reference to a variable that is being read. -/
inductive Reference where
  | none
  | bare
  | braced
deriving DecidableEq, Repr

/-- How far a value has been read; texts are kept last character first. -/
structure ValueState where
  output : List Char
  single : Bool
  double : Bool
  escaped : Bool
  /-- Only blanks and a comment may follow. -/
  ended : Bool
  reference : Reference
  name : List Char

namespace ValueState

def start : ValueState := ⟨[], false, false, false, false, .none, []⟩

def push (s : ValueState) (c : Char) : ValueState := { s with output := c :: s.output }

/-- Puts the variable in the place of its name. -/
def resolve (env : Environment) (s : ValueState) : ValueState :=
  let value := (env (String.ofList s.name.reverse)).getD ""
  { s with output := value.toList.reverse ++ s.output, name := [], reference := .none }

/-- Takes a character that follows a backslash. -/
def takeEscaped (s : ValueState) (c : Char) : Option ValueState :=
  let s := { s with escaped := false }
  if "\\'\"$ ".toList.contains c then some (s.push c)
  else if c = 'n' then some (s.push '\n')
  else none

/-- Takes a character that may belong to the name of a variable. -/
def takeName (env : Environment) (s : ValueState) (c : Char) : ValueState :=
  if Text.isAlphanumeric c then { s with name := c :: s.name }
  else if s.reference = .braced then
    if c = '\x7d' then s.resolve env else { s with name := c :: s.name }
  else if c = '\x7b' ∧ s.name.isEmpty then { s with reference := .braced }
  else if c = '$' then { s.resolve env with reference := .bare }
  else (s.resolve env).push c

/-- Takes a character. -/
def take (env : Environment) (s : ValueState) (c : Char) : Option ValueState :=
  if s.ended then if c = ' ' ∨ c = '\t' then some s else none
  else if s.escaped then s.takeEscaped c
  else if s.single then some (if c = '\'' then { s with single := false } else s.push c)
  else if s.reference ≠ .none then some (s.takeName env c)
  else if c = '$' then some { s with reference := .bare }
  else if s.double then
    some (if c = '"' then { s with double := false }
      else if c = '\\' then { s with escaped := true }
      else s.push c)
  else if c = '\'' then some { s with single := true }
  else if c = '"' then some { s with double := true }
  else if c = '\\' then some { s with escaped := true }
  else if c = ' ' ∨ c = '\t' then some { s with ended := true }
  else some (s.push c)

/-- Takes characters up to a comment. -/
def takeAll (env : Environment) : ValueState → List Char → Option ValueState
  | s, [] => some s
  | s, c :: rest =>
    if s.ended ∧ c = '#' then some s
    else
      match s.take env c with
      | some s => takeAll env s rest
      | none => none

/-- The value, if nothing is left open. -/
def finish? (env : Environment) (s : ValueState) : Option String :=
  if s.reference = .braced ∨ s.single ∨ s.double then none
  else some (String.ofList (s.resolve env).output.reverse)

end ValueState

/-- Reads a value. -/
def value? (env : Environment) (cs : List Char) : Option String :=
  (ValueState.start.takeAll env cs).bind (ValueState.finish? env)

/-! ### Entries -/

/-- What a line says. -/
inductive Entry where
  | nothing
  | variable (name value : String)
deriving DecidableEq, Repr

def isNameChar (c : Char) : Bool := c.isAlphanum || c = '_' || c = '.'

/-- The name at the front. -/
def name? : List Char → Option (String × List Char)
  | [] => none
  | c :: rest =>
    if c.isAlpha ∨ c = '_' then
      let tail := rest.takeWhile isNameChar
      some (String.ofList (c :: tail), rest.drop tail.length)
    else none

/-- What follows an equals sign. -/
def afterEquals? : List Char → Option (List Char)
  | '=' :: rest => some rest
  | _ => none

/-- Reads a line; none if it cannot be understood.  The word `export` may stand before the
name. -/
def entry? (env : Environment) (line : List Char) : Option Entry := do
  let cs := Text.dropBlank (Text.dropEndWhile Text.isBlankChar line)
  match cs with
  | [] => some .nothing
  | '#' :: _ => some .nothing
  | cs =>
    let (first, rest) ← name? cs
    let rest := Text.dropBlank rest
    let (name, rest) ←
      match first == "export", afterEquals? rest with
      | _, some rest => some (first, rest)
      | true, none => do
        let (name, rest) ← name? rest
        some (name, ← afterEquals? (Text.dropBlank rest))
      | false, none => none
    match Text.dropBlank rest with
    | [] => some (.variable name "")
    | '#' :: _ => some (.variable name "")
    | rest => some (.variable name (← value? env rest))

/-- Adds the variables of some lines. -/
def loadLines (env : Environment) : List (Option (List Char)) → Environment
  | [] => env
  | none :: _ => env
  | some line :: rest =>
    match entry? env line with
    | none => env
    | some .nothing => loadLines env rest
    | some (.variable name value) => loadLines (env.orElse name value) rest

/-- The variables, with those of a file's text. -/
def load (env : Environment) (text : String) : Environment :=
  let cs := match text.toList with
    | '\uFEFF' :: rest => rest
    | cs => cs
  loadLines env (joinedLines [] .plain (rawLines cs))

end AnalysisDesk.Dotenv
