/-
Quoted text for messages.

A message that shows a text puts it in double quotes and escapes what would not be visible: the
quote, the backslash, line breaks and tabs by a letter, everything else that is not printable by
its code point.
-/
import AnalysisDesk.Text.Printable

namespace AnalysisDesk.Text

/-- The lower-case hexadecimal digits of a number. -/
def hexDigits (n : Nat) : List Char := Nat.toDigits 16 n

/-- How one character stands between double quotes. -/
def quotedChar (c : Char) : List Char :=
  match c.toNat with
  | 0x00 => ['\\', '0']
  | 0x09 => ['\\', 't']
  | 0x0A => ['\\', 'n']
  | 0x0D => ['\\', 'r']
  | 0x22 => ['\\', '"']
  | 0x5C => ['\\', '\\']
  | code => if isPrintable c then [c] else "\\u\x7b".toList ++ hexDigits code ++ ['\x7d']

/-- A text in double quotes. -/
def quoted (s : String) : String :=
  String.ofList ('"' :: s.toList.flatMap quotedChar ++ ['"'])

end AnalysisDesk.Text
