/-
Writing texts into settings files.

A text is written the way that needs the fewest backslashes: between double quotes as it is, else
between single quotes, else as a text of several lines between double or single quotes, and only
if none of these will do with backslashes.
-/
import AnalysisDesk.Toml.Text

namespace AnalysisDesk.Toml

/-- A way to write a text. -/
inductive Quoting where
  | basic
  | literal
  | linesBasic
  | linesLiteral
deriving DecidableEq, Repr

/-- Whether a character needs a backslash wherever it stands. -/
def needsCode (c : Char) : Bool := c ≠ '\n' && !isTextChar c

/-- The longest run of a character, counted on from `current`. -/
def longestRun (quote : Char) : Nat → List Char → Nat
  | current, [] => current
  | current, c :: rest =>
    if c = quote then longestRun quote (current + 1) rest
    else max current (longestRun quote 0 rest)

/-- How a text is written. -/
def quoting (cs : List Char) : Quoting :=
  let coded := cs.any needsCode
  let broken := cs.contains '\n'
  let folded := cs.contains '\\'
  let doubles := longestRun '"' 0 cs
  let singles := longestRun '\'' 0 cs
  if !coded && !folded && doubles = 0 && !broken then .basic
  else if !coded && singles = 0 && !broken then .literal
  else if !coded && !folded && doubles ≤ 2 then .linesBasic
  else if !coded && singles ≤ 2 then .linesLiteral
  else if broken then .linesBasic
  else .basic

/-- A character by its code. -/
def coded (c : Char) : List Char :=
  let n := c.toNat
  '\\' :: 'u' :: [n / 4096, n / 256 % 16, n / 16 % 16, n % 16].map fun digit =>
    (Nat.digitChar digit).toUpper

/-- A character between double quotes, other than a double quote. -/
def escapedChar (several : Bool) (c : Char) : List Char :=
  if c = '\x08' then ['\\', 'b']
  else if c = '\t' then ['\\', 't']
  else if c = '\n' then if several then ['\n'] else ['\\', 'n']
  else if c = '\x0c' then ['\\', 'f']
  else if c = '\r' then ['\\', 'r']
  else if c = '\\' then ['\\', '\\']
  else if needsCode c then coded c
  else [c]

/-- Characters between double quotes; `quotes` double quotes stand right before them, of which
two in a row may stand for themselves in a text of several lines. -/
def escapedChars (several : Bool) : Nat → List Char → List Char
  | _, [] => []
  | quotes, c :: rest =>
    if c = '"' then
      (if several ∧ quotes < 2 then ['"'] else ['\\', '"']) ++ escapedChars several (quotes + 1) rest
    else escapedChar several c ++ escapedChars several 0 rest

/-- A text with its quotes. -/
def quotedChars (cs : List Char) : List Char :=
  let opening : List Char := if cs.contains '\n' then ['\n'] else []
  match quoting cs with
  | .basic => '"' :: escapedChars false 0 cs ++ ['"']
  | .literal => '\'' :: cs ++ ['\'']
  | .linesBasic => "\"\"\"".toList ++ opening ++ escapedChars true 0 cs ++ "\"\"\"".toList
  | .linesLiteral => "'''".toList ++ opening ++ cs ++ "'''".toList

/-- A text as it is written into a settings file. -/
def quoted (s : String) : String := String.ofList (quotedChars s.toList)

end AnalysisDesk.Toml
