/-
Job identifiers.

A job is identified by thirty-two hexadecimal digits.  They are written in lower case in groups
of 8, 4, 4, 4 and 12.  Reading is more liberal: the digits may stand without the hyphens, and the
groups may be put in braces or after `urn:uuid:`.
-/
import AnalysisDesk.Number.Limits

namespace AnalysisDesk

/-- A job's identifier. -/
structure JobId where
  digits : Vector (Fin 16) 32
deriving DecidableEq

namespace JobId

instance : Inhabited JobId := ⟨⟨Vector.replicate 32 0⟩⟩

/-- The lengths of the groups. -/
def groups : List Nat := [8, 4, 4, 4, 12]

def digitChar (d : Fin 16) : Char := Nat.digitChar d.val

/-- The groups of a list of digits, with hyphens between them. -/
def grouped : List Nat → List Char → List Char
  | [], rest => rest
  | [_], rest => rest
  | n :: ns, rest => rest.take n ++ '-' :: grouped ns (rest.drop n)

/-- The written form. -/
def text (id : JobId) : String := String.ofList (grouped groups (id.digits.toList.map digitChar))

instance : ToString JobId := ⟨text⟩

/-- The value of a hexadecimal digit. -/
def digitOf? (c : Char) : Option (Fin 16) :=
  if '0' ≤ c ∧ c ≤ '9' then some (Fin.ofNat 16 (c.toNat - '0'.toNat))
  else if 'a' ≤ c ∧ c ≤ 'f' then some (Fin.ofNat 16 (c.toNat - 'a'.toNat + 10))
  else if 'A' ≤ c ∧ c ≤ 'F' then some (Fin.ofNat 16 (c.toNat - 'A'.toNat + 10))
  else none

/-- The identifier with these digits, if there are thirty-two. -/
def ofDigits? (digits : List (Fin 16)) : Option JobId :=
  if h : digits.length = 32 then some ⟨⟨digits.toArray, by simpa using h⟩⟩ else none

/-- The digits of a text without hyphens. -/
def ofPlain? (cs : List Char) : Option JobId := (cs.mapM digitOf?).bind ofDigits?

/-- The digits of a text in groups, the hyphens in their places. -/
def ungrouped? : List Nat → List Char → Option (List Char)
  | [], rest => some rest
  | [n], rest => if rest.length = n then some rest else none
  | n :: ns, rest =>
    match rest.drop n with
    | '-' :: more => (ungrouped? ns more).map (rest.take n ++ ·)
    | _ => none

def ofGrouped? (cs : List Char) : Option JobId := (ungrouped? groups cs).bind ofPlain?

/-- What an identifier may follow. -/
def urn : List Char := "urn:uuid:".toList

/-- Reads an identifier. -/
def read? (s : String) : Option JobId :=
  let cs := s.toList
  if s.utf8ByteSize = 32 then ofPlain? cs
  else if s.utf8ByteSize = 36 then ofGrouped? cs
  else if s.utf8ByteSize = 38 ∧ cs.head? = some '\x7b' ∧ cs.getLast? = some '\x7d' then
    ofGrouped? (cs.drop 1).dropLast
  else if s.utf8ByteSize = 45 ∧ urn.isPrefixOf cs then ofGrouped? (cs.drop urn.length)
  else none

/-- The identifier with number `n` among those a run hands out: the digits of `n` after a fixed
beginning. -/
def numbered (n : Nat) : JobId :=
  ⟨Vector.ofFn fun i =>
    if i.val < 12 then 15 else if i.val = 12 then 4 else if i.val = 16 then 11
    else if i.val < 20 then 15
    else Fin.ofNat 16 (n / twoTo (4 * (31 - i.val)))⟩

/-- The identifier that a number drawn at random stands for.  Two of its digits say that it was
drawn, whatever the number is. -/
def drawn (n : Nat) : JobId :=
  ⟨Vector.ofFn fun i =>
    let digit := n / twoTo (4 * (31 - i.val))
    if i.val = 12 then 4 else if i.val = 16 then Fin.ofNat 16 (8 + digit % 4)
    else Fin.ofNat 16 digit⟩

/-! ### Why a text is no identifier -/

/-- What is wrong with the text of an identifier. -/
inductive Flaw where
  /-- A character that has no place in it, with its position counted from one. -/
  | badChar (c : Char) (position : Nat)
  /-- Digits without hyphens, but not thirty-two. -/
  | badLength (length : Nat)
  | badGroups (count : Nat)
  | badGroup (group length : Nat)
deriving DecidableEq, Repr

def Flaw.message : Flaw → String
  | .badChar c position =>
    "invalid character: expected an optional prefix of `urn:uuid:` followed by [0-9a-fA-F-], found `"
      ++ String.singleton c ++ "` at " ++ toString position
  | .badLength length =>
    "invalid length: expected length 32 for simple format, found " ++ toString length
  | .badGroups count => "invalid group count: expected 5, found " ++ toString count
  | .badGroup group length =>
    "invalid group length in group " ++ toString group ++ ": expected "
      ++ toString (groups.getD group 0) ++ ", found " ++ toString length

/-- The first character that is neither digit nor hyphen, with its byte offset. -/
def strayChar? : Nat → List Char → Option (Char × Nat)
  | _, [] => none
  | offset, c :: rest =>
    if c = '-' ∨ (digitOf? c).isSome then strayChar? (offset + c.utf8Size) rest
    else some (c, offset)

/-- The offsets of the hyphens. -/
def hyphens : Nat → List Char → List Nat
  | _, [] => []
  | offset, c :: rest => if c = '-' then offset :: hyphens (offset + 1) rest else hyphens (offset + 1) rest

/-- The first group with a wrong length, given the offsets where the groups should start and
those where they end. -/
def badGroup? (group : Nat) : List Nat → List Nat → Option Flaw
  | start :: next :: starts, stop :: stops =>
    if stop + 1 = next then badGroup? (group + 1) (next :: starts) stops
    else some (.badGroup group (stop - start))
  | _, _ => none

/-- Why a text that `read?` refuses is no identifier. -/
def flaw (s : String) : Flaw :=
  let cs := s.toList
  let braced := cs.head? = some '\x7b' ∧ cs.getLast? = some '\x7d' ∧ 2 ≤ cs.length
  let named := urn.isPrefixOf cs
  let (body, offset) :=
    if braced then ((cs.drop 1).dropLast, 1)
    else if named then (cs.drop urn.length, urn.length) else (cs, 0)
  match strayChar? 0 body with
  | some (c, at') => .badChar c (at' + offset + 1)
  | none =>
    let cuts := hyphens 0 body
    if cuts.isEmpty ∧ ¬braced ∧ ¬named then .badLength s.utf8ByteSize
    else if cuts.length ≠ 4 then .badGroups (cuts.length + 1)
    else
      match badGroup? 0 [0, 9, 14, 19, 24] cuts with
      | some flaw => flaw
      | none => .badGroup 4 (s.utf8ByteSize - 24)

end JobId

end AnalysisDesk
