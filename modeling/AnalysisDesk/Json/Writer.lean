/-
Writing documents.

A document is written on one line without spaces.  Inside a text the quote, the backslash and
the control characters are escaped, everything else stands as it is.
-/
import AnalysisDesk.Json.Value

namespace AnalysisDesk.Json

/-- A hexadecimal digit. -/
def hexDigit (n : Nat) : Char := (Nat.digitChar n)

/-- How one character stands in a written text. -/
def writtenChar (c : Char) : List Char :=
  match c.toNat with
  | 0x08 => ['\\', 'b']
  | 0x09 => ['\\', 't']
  | 0x0A => ['\\', 'n']
  | 0x0C => ['\\', 'f']
  | 0x0D => ['\\', 'r']
  | 0x22 => ['\\', '"']
  | 0x5C => ['\\', '\\']
  | code =>
    if code < 0x20 then ['\\', 'u', '0', '0', hexDigit (code / 16), hexDigit (code % 16)] else [c]

def writtenText (s : String) : List Char :=
  '"' :: s.toList.flatMap writtenChar ++ ['"']

mutual

/-- The characters of a document. -/
def written : Json → List Char
  | .null => "null".toList
  | .bool true => "true".toList
  | .bool false => "false".toList
  | .int value => (toString value).toList
  | .float value => value.text.toList
  | .str text => writtenText text
  | .arr items => '[' :: writtenItems items ++ [']']
  | .obj fields => '\x7b' :: writtenFields fields ++ ['\x7d']

/-- The items of a list, with commas between them. -/
def writtenItems : List Json → List Char
  | [] => []
  | [item] => written item
  | item :: rest => written item ++ ',' :: writtenItems rest

/-- The fields of an object, with commas between them. -/
def writtenFields : List (String × Json) → List Char
  | [] => []
  | [(name, value)] => writtenText name ++ ':' :: written value
  | (name, value) :: rest => writtenText name ++ ':' :: written value ++ ',' :: writtenFields rest

end

/-- The text of a document. -/
def write (j : Json) : String := String.ofList (written j)

end AnalysisDesk.Json
