/-
Texts as bytes, and bytes as texts.

A character takes one to four bytes.  Bytes that are no characters are either refused or shown as
the replacement character, one for each longest beginning of a character that breaks off.

In addresses and forms a byte may be written as a percent sign and two hexadecimal digits.
-/
namespace AnalysisDesk.Text

/-- The bytes of a text. -/
def bytes (s : String) : List UInt8 := s.toUTF8.toList

/-- What the first byte of a character of several bytes says: how many bytes follow, between
which bounds the next one lies, and the first bits of the code point. -/
def leadByte? (b : Nat) : Option (Nat × Nat × Nat × Nat) :=
  if 0xC2 ≤ b ∧ b ≤ 0xDF then some (1, 0x80, 0xBF, b - 0xC0)
  else if b = 0xE0 then some (2, 0xA0, 0xBF, 0)
  else if b = 0xED then some (2, 0x80, 0x9F, 0xD)
  else if 0xE1 ≤ b ∧ b ≤ 0xEF then some (2, 0x80, 0xBF, b - 0xE0)
  else if b = 0xF0 then some (3, 0x90, 0xBF, 0)
  else if b = 0xF4 then some (3, 0x80, 0x8F, 4)
  else if 0xF1 ≤ b ∧ b ≤ 0xF3 then some (3, 0x80, 0xBF, b - 0xF0)
  else none

/-- Takes the bytes that follow a first one: the character, if none is missing, and the rest. -/
def followBytes : Nat → Nat → Nat → Nat → List UInt8 → Option Char × List UInt8
  | 0, _, _, code, rest => (some (Char.ofNat code), rest)
  | _ + 1, _, _, _, [] => (none, [])
  | missing + 1, low, high, code, b :: rest =>
    if low ≤ b.toNat ∧ b.toNat ≤ high then
      followBytes missing 0x80 0xBF (64 * code + (b.toNat - 0x80)) rest
    else (none, b :: rest)

/-- The characters of a row of bytes; none where bytes are no character.  There are at most
`fuel` of them. -/
def charsWithin : Nat → List UInt8 → List (Option Char)
  | 0, _ => []
  | _ + 1, [] => []
  | fuel + 1, b :: rest =>
    if b.toNat < 0x80 then some (Char.ofNat b.toNat) :: charsWithin fuel rest
    else
      match leadByte? b.toNat with
      | none => none :: charsWithin fuel rest
      | some (missing, low, high, code) =>
        let (c, rest) := followBytes missing low high code rest
        c :: charsWithin fuel rest

def chars (bs : List UInt8) : List (Option Char) := charsWithin bs.length bs

/-- The text that some bytes are. -/
def ofBytes? (bs : List UInt8) : Option String := ((chars bs).mapM id).map String.ofList

/-- The text with replacement characters where the bytes are no text. -/
def ofBytesLossy (bs : List UInt8) : String :=
  String.ofList ((chars bs).map fun c => c.getD '\uFFFD')

/-! ### Percent signs -/

/-- The value of a hexadecimal digit given as a byte. -/
def hexValue? (b : UInt8) : Option Nat :=
  let n := b.toNat
  if 0x30 ≤ n ∧ n ≤ 0x39 then some (n - 0x30)
  else if 0x41 ≤ n ∧ n ≤ 0x46 then some (n - 0x41 + 10)
  else if 0x61 ≤ n ∧ n ≤ 0x66 then some (n - 0x61 + 10)
  else none

/-- The bytes that a text with percent signs stands for.  A percent sign without two digits after
it stands for itself. -/
def percentDecoded : List UInt8 → List UInt8
  | [] => []
  | b :: h :: l :: rest =>
    if b = 0x25 then
      match hexValue? h, hexValue? l with
      | some high, some low => UInt8.ofNat (16 * high + low) :: percentDecoded rest
      | _, _ => b :: percentDecoded (h :: l :: rest)
    else b :: percentDecoded (h :: l :: rest)
  | b :: rest => b :: percentDecoded rest

def upperHexDigit (n : Nat) : Char := (Nat.digitChar n).toUpper

/-- A byte as a percent sign and two digits. -/
def percentEncodedByte (b : UInt8) : List Char :=
  ['%', upperHexDigit (b.toNat / 16), upperHexDigit (b.toNat % 16)]

/-- A text with percent signs for the characters that `isPlain` does not admit. -/
def percentEncoded (isPlain : Char → Bool) (cs : List Char) : List Char :=
  cs.flatMap fun c =>
    if isPlain c then [c] else (bytes (String.singleton c)).flatMap percentEncodedByte

end AnalysisDesk.Text
