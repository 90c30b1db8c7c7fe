/-
Reading settings files.

A file is read line by line.  A line opens a table, gives a value under a key, or holds nothing;
a comment may end it.  Lists and tables between brackets may go over several lines, and a comma
may follow their last item.
-/
import AnalysisDesk.Toml.Draft
import AnalysisDesk.Toml.Text

namespace AnalysisDesk.Toml

/-! ### Gaps -/

/-- What follows a comment, if one stands at the front: the line break that ends it. -/
def afterComment? : List Char → Option (List Char)
  | '#' :: rest =>
    let comment := rest.takeWhile fun c => c != '\n' && c != '\r'
    if comment.all isTextChar then some (rest.drop comment.length) else none
  | cs => some cs

/-- What follows the rest of a line that holds nothing but a comment. -/
def afterLine? (cs : List Char) : Option (List Char) := do
  match ← afterComment? (dropSpace cs) with
  | [] => some []
  | rest => afterBreak? rest

/-- What follows blanks, line breaks and comments.  Every step takes a character, so the length
is fuel enough. -/
def afterGap? : Nat → List Char → Option (List Char)
  | 0, _ => none
  | fuel + 1, cs => do
    let cs ← afterComment? (dropSpace cs)
    match afterBreak? cs with
    | some rest => afterGap? fuel rest
    | none => some cs

/-! ### Keys -/

def isBareKeyChar (c : Char) : Bool := c.isAlphanum || c = '_' || c = '-'

/-- Reads a key without points. -/
def simpleKey? (cs : List Char) : Option (String × List Char) :=
  let bare := cs.takeWhile isBareKeyChar
  if bare.isEmpty then lineText? cs else some (String.ofList bare, cs.drop bare.length)

/-- Reads a key: its last part, the parts before it, and what follows.  Every part takes a
character, so the length is fuel enough. -/
def key? : Nat → List Char → Option (List String × String × List Char)
  | 0, _ => none
  | fuel + 1, cs => do
    let (part, rest) ← simpleKey? (dropSpace cs)
    match dropSpace rest with
    | '.' :: rest =>
      let (path, last, rest) ← key? fuel rest
      some (part :: path, last, rest)
    | rest => some ([], part, rest)

/-! ### Values -/

/-- The characters that end a word. -/
def endsWord (c : Char) : Bool :=
  isSpace c || "\n\r,[]\x7b\x7d=#\"'".toList.contains c

/-- The word at the front.  After a date it includes a time that one blank parts from it. -/
def wordAhead (cs : List Char) : List Char :=
  let word := cs.takeWhile fun c => !endsWord c
  if afterDay? word == some [] then
    match cs.drop word.length with
    | ' ' :: c :: rest =>
      if c.isDigit then word ++ ' ' :: (c :: rest).takeWhile fun c => !endsWord c else word
    | _ => word
  else word

mutual

/-- Reads a value; `depth` brackets may still be opened. -/
def readValue : Nat → Nat → List Char → Option (Toml × List Char)
  | 0, _, _ => none
  | fuel + 1, depth, cs =>
    match cs with
    | '[' :: rest =>
      if depth = 0 then none
      else (readItems fuel (depth - 1) rest).map fun (items, rest) => (.arr items, rest)
    | '\x7b' :: rest =>
      if depth = 0 then none
      else (readPairs fuel (depth - 1) [] rest).map fun (entries, rest) =>
        (.table (Draft.finishEntries entries), rest)
    | '"' :: _ | '\'' :: _ => (text? cs).map fun (text, rest) => (.str text, rest)
    | cs =>
      let word := wordAhead cs
      (word? word).map fun value => (value, cs.drop word.length)

/-- Reads the items of a list up to its closing bracket. -/
def readItems : Nat → Nat → List Char → Option (List Toml × List Char)
  | 0, _, _ => none
  | fuel + 1, depth, cs => do
    match ← afterGap? (cs.length + 1) cs with
    | ']' :: rest => some ([], rest)
    | cs =>
      let (item, rest) ← readValue fuel depth cs
      match ← afterGap? (rest.length + 1) rest with
      | ']' :: rest => some ([item], rest)
      | ',' :: rest =>
        let (items, rest) ← readItems fuel depth rest
        some (item :: items, rest)
      | _ => none

/-- Reads the entries of a table up to its closing brace, after the entries `entries`. -/
def readPairs : Nat → Nat → Entries → List Char → Option (Entries × List Char)
  | 0, _, _, _ => none
  | fuel + 1, depth, entries, cs => do
    match ← afterGap? (cs.length + 1) cs with
    | '\x7d' :: rest => some (entries, rest)
    | cs =>
      let (path, key, rest) ← key? (cs.length + 1) cs
      let rest ← after? '=' rest
      let (value, rest) ← readValue fuel depth (dropSpace rest)
      let entries ← Draft.add path key value entries
      match ← afterGap? (rest.length + 1) rest with
      | '\x7d' :: rest => some (entries, rest)
      | ',' :: rest => readPairs fuel depth entries rest
      | _ => none

end

/-! ### Lines -/

/-- A line of a settings file. -/
inductive Line where
  /-- A header; `next` if it is in double brackets. -/
  | header (next : Bool) (path : List String) (key : String)
  | pair (path : List String) (key : String) (content : Toml)
  | empty

/-- Reads the header after its opening brackets. -/
def header? (next : Bool) (cs : List Char) : Option (Line × List Char) := do
  let (path, key, rest) ← key? (cs.length + 1) cs
  let rest ← after? ']' rest
  let rest ← if next then after? ']' rest else some rest
  some (.header next path key, rest)

/-- Reads the beginning of a line, up to where only a comment may follow. -/
def line? (cs : List Char) : Option (Line × List Char) :=
  match dropSpace cs with
  | [] => some (.empty, [])
  | '[' :: '[' :: rest => header? true rest
  | '[' :: rest => header? false rest
  | c :: rest =>
    if c = '\n' ∨ c = '\r' ∨ c = '#' then some (.empty, c :: rest)
    else do
      let (path, key, rest) ← key? ((c :: rest).length + 1) (c :: rest)
      let rest ← after? '=' rest
      let (value, rest) ← readValue (rest.length + 1) deepest (dropSpace rest)
      some (.pair path key value, rest)

/-- Takes up a line: the name of the table that is open, and all tables. -/
def takeLine : List String × Entries → Line → Option (List String × Entries)
  | (name, entries), .pair path key content =>
    (Draft.change (Draft.add path key content) name entries).map fun entries => (name, entries)
  | (_, entries), .header next path key =>
    (Draft.change (if next then Draft.openNext key else Draft.openTable key) path entries).map
      fun entries => (path ++ [key], entries)
  | state, .empty => some state

/-- Reads all lines.  Every line takes a character, so the length is fuel enough. -/
def readLines : Nat → List String × Entries → List Char → Option Entries
  | 0, _, _ => none
  | _ + 1, (_, entries), [] => some entries
  | fuel + 1, state, c :: cs => do
    let (line, rest) ← line? (c :: cs)
    let state ← takeLine state line
    let rest ← afterLine? rest
    readLines fuel state rest

/-- Drops the mark that some editors put before a text. -/
def dropMark : List Char → List Char
  | '\uFEFF' :: rest => rest
  | cs => cs

/-- Reads a settings file. -/
def read? (text : String) : Option TomlTable :=
  let cs := dropMark text.toList
  (readLines (cs.length + 1) ([], []) cs).map Draft.finishEntries

end AnalysisDesk.Toml
