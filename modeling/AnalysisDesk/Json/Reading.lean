/-
Reading documents.

A text may break off in the middle, or may hold something that is no document.  Whoever decodes
it notices the first fault from the left, be it a wrong type or the place where the text breaks,
so the reader does not stop with an error: it returns a `Reading`, the document as far as it
goes, with a mark where it breaks.

Two faults matter only where the value is looked at: a number too large to be a double and a text
with half a surrogate pair.  Both are ordinary nodes of a `Reading`.
-/
import AnalysisDesk.Json.Value

namespace AnalysisDesk

/-- A document as far as its text could be read. -/
inductive Reading where
  | null
  | bool (value : Bool)
  | int (value : Int)
  | float (value : Double)
  | str (text : String)
  /-- A number beyond the finite doubles. -/
  | beyond
  /-- A text in which half a surrogate pair is escaped. -/
  | torn
  /-- A list; `whole` unless the text breaks after the items. -/
  | arr (items : List Reading) (whole : Bool)
  /-- An object, its fields in the order of the text. -/
  | obj (fields : List (String × Reading)) (whole : Bool)
  /-- The text breaks here. -/
  | broken
deriving Inhabited

namespace Reading

/-! ### Numbers -/

/-- The value of a run of decimal digits that follows the number `n`. -/
def digitsValue (n : Nat) (cs : List Char) : Nat :=
  cs.foldl (fun acc c => acc * 10 + (c.toNat - '0'.toNat)) n

/-- A power of ten as a double. -/
def powerOfTen (k : Nat) : Double := (Double.ofDecimal? 1 k).getD .infinity

/-- Scales a double by powers of ten, each step rounded; `none` beyond the finite numbers. -/
def scaled (fuel : Nat) (f : Double) (exponent : Int) : Option Double :=
  match fuel with
  | 0 => some f
  | fuel + 1 =>
    if exponent.natAbs ≤ 308 then
      if 0 ≤ exponent then
        let g := f.mul (powerOfTen exponent.toNat)
        if g.isFinite then some g else none
      else some (f.div (powerOfTen (-exponent).toNat))
    else if f.isZero then some f
    else if 0 ≤ exponent then none
    else scaled fuel (f.div (powerOfTen 308)) (exponent + 308)

/-- Takes up digits while the number stays within sixty-four bits; the rest only count. -/
def takeDigits (n : Nat) : List Char → Nat × Nat
  | [] => (n, 0)
  | c :: rest =>
    let next := n * 10 + (c.toNat - '0'.toNat)
    if next ≤ Limit.word64 then takeDigits next rest else (n, (c :: rest).length)

/-- The double written with the digits `whole`, the digits `fraction` after the point and a power
of ten.  Its first digits, as many as fit sixty-four bits, are rounded to a double, and then
their product with the power of ten is. -/
def floatOf (whole fraction : List Char) (exponent : Int) : Option Double :=
  let (n, dropped) := takeDigits 0 whole
  let (m, unused) := takeDigits n fraction
  scaled 400 (.ofNat m) (exponent + dropped - ((fraction.length - unused : Nat) : Int))

/-- The value of a number from its parts. -/
def number (negative : Bool) (whole fraction : List Char) (exponent : Option Int) : Reading :=
  let n := digitsValue 0 whole
  let float :=
    match floatOf whole fraction (exponent.getD 0) with
    | some f => .float (if negative then f.negate else f)
    | none => .beyond
  if fraction.isEmpty ∧ exponent.isNone then
    if negative then
      if n = 0 then .float .negZero else if Limit.holds64 (-n) then .int (-n) else float
    else if n ≤ Limit.word64 then .int n else float
  else float

/-- The digits at the front and what follows them. -/
def spanDigits (cs : List Char) : List Char × List Char :=
  (cs.takeWhile Char.isDigit, cs.dropWhile Char.isDigit)

/-- Reads a number after its sign: the value and what follows, or nothing if it is none. -/
def readNumber (negative : Bool) (cs : List Char) : Option (Reading × List Char) :=
  let (whole, rest) := spanDigits cs
  if whole.isEmpty ∨ (whole.head? = some '0' ∧ 1 < whole.length) then none
  else
    let fraction? : Option (List Char × List Char) :=
      match rest with
      | '.' :: more =>
        let (digits, after) := spanDigits more
        if digits.isEmpty then none else some (digits, after)
      | _ => some ([], rest)
    match fraction? with
    | none => none
    | some (fraction, rest) =>
      match rest with
      | c :: more =>
        if c = 'e' ∨ c = 'E' then
          let (minus, more) := match more with
            | '-' :: more => (true, more)
            | '+' :: more => (false, more)
            | _ => (false, more)
          let (digits, after) := spanDigits more
          if digits.isEmpty then none
          else
            let k : Int := digitsValue 0 digits
            some (number negative whole fraction (some (if minus then -k else k)), after)
        else some (number negative whole fraction none, rest)
      | [] => some (number negative whole fraction none, rest)

/-! ### Texts -/

def hexValue? (c : Char) : Option Nat :=
  if '0' ≤ c ∧ c ≤ '9' then some (c.toNat - '0'.toNat)
  else if 'a' ≤ c ∧ c ≤ 'f' then some (c.toNat - 'a'.toNat + 10)
  else if 'A' ≤ c ∧ c ≤ 'F' then some (c.toNat - 'A'.toNat + 10)
  else none

/-- The four hexadecimal digits at the front. -/
def hexUnit? : List Char → Option (Nat × List Char)
  | a :: b :: c :: d :: rest => do
    let w ← hexValue? a
    let x ← hexValue? b
    let y ← hexValue? c
    let z ← hexValue? d
    some (((w * 16 + x) * 16 + y) * 16 + z, rest)
  | _ => none

/-- The character that a letter after a backslash stands for. -/
def escapeLetter? : Char → Option Char
  | '"' => some '"'
  | '\\' => some '\\'
  | '/' => some '/'
  | 'b' => some '\x08'
  | 'f' => some '\x0c'
  | 'n' => some '\n'
  | 'r' => some '\r'
  | 't' => some '\t'
  | _ => none

/-- Reads a text after its opening quote: its characters, whether half a surrogate pair
stood in it, and what follows the closing quote.  Each step takes at least one character, so the length is fuel enough. -/
def readText : Nat → List Char → List Char → Bool → Option (String × Bool × List Char)
  | 0, _, _, _ => none
  | _ + 1, [], _, _ => none
  | fuel + 1, c :: rest, acc, half =>
    if c = '"' then some (String.ofList acc.reverse, half, rest)
    else if c = '\\' then
      match rest with
      | 'u' :: more =>
        match hexUnit? more with
        | none => none
        | some (unit, after) =>
          if 0xD800 ≤ unit ∧ unit < 0xDC00 then
            match after with
            | '\\' :: 'u' :: more' =>
              match hexUnit? more' with
              | some (low, after') =>
                if 0xDC00 ≤ low ∧ low < 0xE000 then
                  let code := 0x10000 + (unit - 0xD800) * 0x400 + (low - 0xDC00)
                  readText fuel after' (Char.ofNat code :: acc) half
                else readText fuel after acc true
              | none => none
            | _ => readText fuel after acc true
          else if 0xDC00 ≤ unit ∧ unit < 0xE000 then readText fuel after acc true
          else readText fuel after (Char.ofNat unit :: acc) half
      | e :: more =>
        match escapeLetter? e with
        | some x => readText fuel more (x :: acc) half
        | none => none
      | [] => none
    else if c.toNat < 0x20 then none
    else readText fuel rest (c :: acc) half

/-! ### Values -/

def isGap (c : Char) : Bool := c = ' ' ∨ c = '\n' ∨ c = '\t' ∨ c = '\r'

def dropGap (cs : List Char) : List Char := cs.dropWhile isGap

/-- What follows `word`, if the text begins with it. -/
def afterWord? : List Char → List Char → Option (List Char)
  | [], cs => some cs
  | w :: ws, c :: cs => if w = c then afterWord? ws cs else none
  | _ :: _, [] => none

mutual

/-- Reads one value; without a rest the text broke inside it. -/
def readValue : Nat → List Char → Reading × Option (List Char)
  | 0, _ => (.broken, none)
  | fuel + 1, cs =>
    match dropGap cs with
    | [] => (.broken, none)
    | c :: rest =>
      if c = '"' then
        match readText (rest.length + 1) rest [] false with
        | none => (.broken, none)
        | some (text, half, after) => (if half then .torn else .str text, some after)
      else if c = '[' then
        match dropGap rest with
        | ']' :: after => (.arr [] true, some after)
        | _ =>
          let (items, after) := readItems fuel rest
          (.arr items after.isSome, after)
      else if c = '\x7b' then
        match dropGap rest with
        | '\x7d' :: after => (.obj [] true, some after)
        | _ =>
          let (fields, after) := readFields fuel rest
          (.obj fields after.isSome, after)
      else if c = '-' then
        match readNumber true rest with
        | some (n, after) => (n, some after)
        | none => (.broken, none)
      else if c.isDigit then
        match readNumber false (c :: rest) with
        | some (n, after) => (n, some after)
        | none => (.broken, none)
      else
        match afterWord? "null".toList (c :: rest), afterWord? "true".toList (c :: rest),
            afterWord? "false".toList (c :: rest) with
        | some after, _, _ => (.null, some after)
        | _, some after, _ => (.bool true, some after)
        | _, _, some after => (.bool false, some after)
        | _, _, _ => (.broken, none)

/-- Reads the items of a list up to its closing bracket. -/
def readItems : Nat → List Char → List Reading × Option (List Char)
  | 0, _ => ([], none)
  | fuel + 1, cs =>
    match readValue fuel cs with
    | (item, none) => ([item], none)
    | (item, some rest) =>
      match dropGap rest with
      | ']' :: after => ([item], some after)
      | ',' :: more =>
        let (items, after) := readItems fuel more
        (item :: items, after)
      | _ => ([item], none)

/-- Reads the fields of an object up to its closing brace. -/
def readFields : Nat → List Char → List (String × Reading) × Option (List Char)
  | 0, _ => ([], none)
  | fuel + 1, cs =>
    match dropGap cs with
    | '"' :: rest =>
      match readText (rest.length + 1) rest [] false with
      | none => ([], none)
      | some (name, half, afterName) =>
        if half then ([], none)
        else
          match dropGap afterName with
          | ':' :: more =>
            match readValue fuel more with
            | (value, none) => ([(name, value)], none)
            | (value, some after) =>
              match dropGap after with
              | '\x7d' :: after => ([(name, value)], some after)
              | ',' :: more =>
                let (fields, after) := readFields fuel more
                ((name, value) :: fields, after)
              | _ => ([(name, value)], none)
          | _ => ([(name, .broken)], none)
    | _ => ([], none)

end

/-- Reads a whole text: the value at its front and whether nothing but gaps follows. -/
def ofText (s : String) : Reading × Bool :=
  let cs := s.toList
  match readValue (cs.length + 1) cs with
  | (value, some rest) => (value, (dropGap rest).isEmpty)
  | (value, none) => (value, false)

/-! ### Readings and documents -/

mutual

/-- The reading of a document: it never breaks. -/
def ofJson : Json → Reading
  | .null => .null
  | .bool value => .bool value
  | .int value => .int value
  | .float value => .float value
  | .str text => .str text
  | .arr items => .arr (ofItems items) true
  | .obj fields => .obj (ofFields fields) true

def ofItems : List Json → List Reading
  | [] => []
  | item :: rest => ofJson item :: ofItems rest

def ofFields : List (String × Json) → List (String × Reading)
  | [] => []
  | (name, value) :: rest => (name, ofJson value) :: ofFields rest

end

mutual

/-- The document that was read, if the reading has no fault. -/
def toJson? : Reading → Option Json
  | .null => some .null
  | .bool value => some (.bool value)
  | .int value => some (.int value)
  | .float value => some (.float value)
  | .str text => some (.str text)
  | .beyond => none
  | .torn => none
  | .arr items whole => if whole then (toItems? items).map .arr else none
  | .obj fields whole => if whole then (toFields? fields).map .object else none
  | .broken => none

def toItems? : List Reading → Option (List Json)
  | [] => some []
  | item :: rest => do
    let value ← toJson? item
    let values ← toItems? rest
    some (value :: values)

def toFields? : List (String × Reading) → Option (List (String × Json))
  | [] => some []
  | (name, item) :: rest => do
    let value ← toJson? item
    let values ← toFields? rest
    some ((name, value) :: values)

end

mutual

/-- Whether the text of a value is sound, whatever the value is. -/
def isSound : Reading → Bool
  | .arr items whole => whole && allSound items
  | .obj fields whole => whole && fieldsSound fields
  | .broken => false
  | _ => true

def allSound : List Reading → Bool
  | [] => true
  | item :: rest => isSound item && allSound rest

def fieldsSound : List (String × Reading) → Bool
  | [] => true
  | (_, value) :: rest => isSound value && fieldsSound rest

end

end Reading

/-- Reads a document; nothing but white space may follow it. -/
def Json.read? (s : String) : Option Json :=
  match Reading.ofText s with
  | (value, true) => value.toJson?
  | (_, false) => none

end AnalysisDesk
