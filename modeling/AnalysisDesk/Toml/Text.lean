/-
Texts of a settings file.

A text stands between quotes, and there are four ways to quote it.  Between single quotes every
character stands for itself; between double quotes a backslash stands with what follows it for
another character.  Three quotes on each side make a text of several lines: a line break right
after the opening quotes does not count, and up to two quotes may stand in front of the closing
ones.
-/
import AnalysisDesk.Toml.Scalar

namespace AnalysisDesk.Toml

/-- Whether a character may stand for itself in a text or a comment. -/
def isTextChar (c : Char) : Bool := c = '\t' || (0x20 ≤ c.toNat && c.toNat ≠ 0x7F)

def isSpace (c : Char) : Bool := c = ' ' || c = '\t'

def dropSpace (cs : List Char) : List Char := cs.dropWhile isSpace

/-- What follows a line break at the front. -/
def afterBreak? : List Char → Option (List Char)
  | '\n' :: rest => some rest
  | '\r' :: '\n' :: rest => some rest
  | _ => none

/-! ### Backslashes -/

/-- The character with the code that the `n` hexadecimal digits at the front name. -/
def codeChar? (n : Nat) (cs : List Char) : Option (Char × List Char) := do
  let front := cs.take n
  if front.length = n then
    let code ← front.foldlM (fun value c => (digitValue? 16 c).map (16 * value + ·)) 0
    if code.isValidChar then some (Char.ofNat code, cs.drop n) else none
  else none

/-- The character that a backslash and what follows it stand for, and the rest. -/
def escaped? : List Char → Option (Char × List Char)
  | 'b' :: rest => some ('\x08', rest)
  | 't' :: rest => some ('\t', rest)
  | 'n' :: rest => some ('\n', rest)
  | 'f' :: rest => some ('\x0c', rest)
  | 'r' :: rest => some ('\r', rest)
  | 'e' :: rest => some ('\x1b', rest)
  | '"' :: rest => some ('"', rest)
  | '\\' :: rest => some ('\\', rest)
  | 'x' :: rest => codeChar? 2 rest
  | 'u' :: rest => codeChar? 4 rest
  | 'U' :: rest => codeChar? 8 rest
  | _ => none

/-- What follows the gap behind a backslash at the end of a line: all blanks and line breaks, of
which there has to be at least one.  Every step takes a character, so the length is fuel enough. -/
def afterFold? : Nat → Bool → List Char → Option (List Char)
  | 0, _, _ => none
  | fuel + 1, broken, cs =>
    let cs := dropSpace cs
    match afterBreak? cs with
    | some rest => afterFold? fuel true rest
    | none => if broken then some cs else none

/-! ### Texts of one line -/

/-- Reads a text between single quotes, after the opening one. -/
def literalText? (cs : List Char) : Option (String × List Char) :=
  let content := cs.takeWhile (· != '\'')
  match cs.drop content.length with
  | [] => none
  | _ :: rest => if content.all isTextChar then some (String.ofList content, rest) else none

/-- Reads a text between double quotes, after the opening one; `acc` are the characters before,
last one first.  Every step takes a character, so the length is fuel enough. -/
def basicText? : Nat → List Char → List Char → Option (String × List Char)
  | 0, _, _ => none
  | _ + 1, _, [] => none
  | fuel + 1, acc, c :: rest =>
    if c = '"' then some (String.ofList acc.reverse, rest)
    else if c = '\\' then
      match escaped? rest with
      | some (d, rest) => basicText? fuel (d :: acc) rest
      | none => none
    else if isTextChar c then basicText? fuel (c :: acc) rest
    else none

/-! ### Texts of several lines -/

/-- Drops a line break at the front. -/
def dropBreak (cs : List Char) : List Char := (afterBreak? cs).getD cs

/-- How many quotes stand at the front; more than five do not matter. -/
def quotesAhead (quote : Char) (cs : List Char) : Nat :=
  ((cs.take 5).takeWhile (· == quote)).length

/-- Reads a text of several lines, after the opening quotes.  Only between double quotes does a
backslash stand for something else.  Every step takes a character, so the length is fuel
enough. -/
def linesText? (quote : Char) : Nat → List Char → List Char → Option (String × List Char)
  | 0, _, _ => none
  | _ + 1, _, [] => none
  | fuel + 1, acc, c :: rest =>
    let quotes := quotesAhead quote (c :: rest)
    if 3 ≤ quotes then
      some (String.ofList (List.replicate (quotes - 3) quote ++ acc).reverse,
        (c :: rest).drop quotes)
    else if c = '\\' ∧ quote = '"' then
      match afterFold? (rest.length + 1) false rest with
      | some rest => linesText? quote fuel acc rest
      | none =>
        match escaped? rest with
        | some (d, rest) => linesText? quote fuel (d :: acc) rest
        | none => none
    else
      match afterBreak? (c :: rest) with
      | some after => linesText? quote fuel (((c :: rest).take
          ((c :: rest).length - after.length)).reverse ++ acc) after
      | none => if isTextChar c then linesText? quote fuel (c :: acc) rest else none

/-- Reads a text of several lines, after the opening quotes and before a line break that does not
count. -/
def manyLines? (quote : Char) (cs : List Char) : Option (String × List Char) :=
  linesText? quote (cs.length + 1) [] (dropBreak cs)

/-! ### Quotes -/

/-- Reads a text of one line with its quotes. -/
def lineText? : List Char → Option (String × List Char)
  | '"' :: rest => basicText? (rest.length + 1) [] rest
  | '\'' :: rest => literalText? rest
  | _ => none

/-- Reads a text with its quotes. -/
def text? : List Char → Option (String × List Char)
  | '"' :: '"' :: '"' :: rest => manyLines? '"' rest
  | '\'' :: '\'' :: '\'' :: rest => manyLines? '\'' rest
  | cs => lineText? cs

end AnalysisDesk.Toml
