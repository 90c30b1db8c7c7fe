/-
Web addresses.

An address is read the way browsers read it: blanks around it and line breaks in it do not count,
a backslash is as good as a slash, and the pieces `.` and `..` of the path are carried out.  What
cannot stand in a path or a query as it is gets percent signs.  The part after a `#` never leaves
the client.
-/
import AnalysisDesk.Number.Limits
import AnalysisDesk.Text.Bytes
import AnalysisDesk.Text.Pieces

namespace AnalysisDesk

/-- An address, as far as it matters to a request. -/
structure WebAddress where
  /-- Whether the connection is encrypted. -/
  secure : Bool
  host : String
  /-- The port, where it is not the usual one. -/
  port : Option Nat
  /-- The pieces of the path, each with a slash before it. -/
  path : List String
  query : Option String
deriving DecidableEq, Repr, Inhabited

namespace WebAddress

/-! ### Characters -/

/-- Whether a character is a control character or none of ASCII. -/
def isUnsafe (c : Char) : Bool := c.toNat < 0x20 || 0x7E < c.toNat

def isPathChar (c : Char) : Bool := !isUnsafe c && !" \"<>`#?\x7b\x7d".toList.contains c

def isQueryChar (c : Char) : Bool := !isUnsafe c && !" \"#<>'".toList.contains c

/-- Whether a character cannot stand in the name of a host. -/
def isNoHostChar (c : Char) : Bool :=
  c.toNat ≤ 0x20 || c.toNat = 0x7F || "#/:<>?@[\\]^|%".toList.contains c

def isSlash (c : Char) : Bool := c = '/' || c = '\\'

/-- Whether a character ends the part of an address that names the host. -/
def endsHost (c : Char) : Bool := isSlash c || c = '?' || c = '#'

/-- The text without blanks and controls around it and without line breaks and tabs in it. -/
def cleaned (cs : List Char) : List Char :=
  let isEdge : Char → Bool := fun c => c.toNat ≤ 0x20
  let core := ((cs.dropWhile isEdge).reverse.dropWhile isEdge).reverse
  core.filter fun c => c ≠ '\t' && c ≠ '\n' && c ≠ '\r'

/-! ### Paths -/

/-- A piece of a path with its points written out. -/
def pointed : List Char → List Char
  | '%' :: '2' :: 'e' :: rest => '.' :: pointed rest
  | '%' :: '2' :: 'E' :: rest => '.' :: pointed rest
  | c :: rest => c :: pointed rest
  | [] => []

/-- Goes through the pieces of a path; `acc` are those before, last one first. -/
def walk : List String → List (List Char) → List String
  | acc, [] => acc.reverse
  | acc, piece :: rest =>
    let ends := rest.isEmpty
    if pointed piece = ['.', '.'] then walk (if ends then "" :: acc.tail else acc.tail) rest
    else if pointed piece = ['.'] then walk (if ends then "" :: acc else acc) rest
    else walk (String.ofList (Text.percentEncoded isPathChar piece) :: acc) rest

/-- The pieces of the path that stands after the host. -/
def pathOf (cs : List Char) : List String :=
  let slashed := cs.map fun c => if c = '\\' then '/' else c
  match slashed with
  | '/' :: rest => walk [] (Text.cutAt '/' rest)
  | _ => [""]

/-! ### Hosts -/

/-- The port after a host: none, if nothing or the usual port stands there. -/
def portOf? (usual : Nat) (cs : List Char) : Option (Option Nat) :=
  if cs.all Char.isDigit then
    let n := cs.foldl (fun n c => 10 * n + (c.toNat - '0'.toNat)) 0
    if cs.isEmpty then some none
    else if n ≤ Limit.word16 then some (if n = usual then none else some n)
    else none
  else none

/-- The host and the port in the part of an address before its path. -/
def hostOf? (usual : Nat) (cs : List Char) : Option (String × Option Nat) := do
  let place := (cs.reverse.takeWhile (· != '@')).reverse
  match place with
  | '[' :: rest =>
    let inner := rest.takeWhile (· != ']')
    let after ← match rest.drop inner.length with
      | ']' :: after => some after
      | _ => none
    let port ← match after with
      | [] => some none
      | ':' :: digits => portOf? usual digits
      | _ => none
    if inner.all fun c => c.isDigit || "abcdefABCDEF:.".toList.contains c then
      some ((String.ofList ('[' :: inner ++ [']'])).toLower, port)
    else none
  | place =>
    let name := place.takeWhile (· != ':')
    let port ← portOf? usual ((place.drop name.length).drop 1)
    if name.isEmpty || name.any isNoHostChar then none
    else some ((String.ofList name).toLower, port)

/-- Reads an address of the web. -/
def ofText? (text : String) : Option WebAddress := do
  let cs := cleaned text.toList
  let scheme := cs.takeWhile (· != ':')
  let secure ← match (String.ofList scheme).toLower with
    | "http" => some false
    | "https" => some true
    | _ => none
  let rest ← match cs.drop scheme.length with
    | ':' :: rest => some (rest.dropWhile isSlash)
    | _ => none
  let place := rest.takeWhile fun c => !endsHost c
  let (host, port) ← hostOf? (if secure then 443 else 80) place
  let local_ := (rest.drop place.length).takeWhile (· != '#')
  let path := local_.takeWhile (· != '?')
  some {
    secure, host, port
    path := pathOf path
    query := match local_.drop path.length with
      | [] => none
      | _ :: query => some (String.ofList (Text.percentEncoded isQueryChar query)) }

/-! ### Writing -/

/-- What a request names: the path and the query. -/
def target (a : WebAddress) : String :=
  String.join (a.path.map ("/" ++ ·)) ++ (a.query.map ("?" ++ ·)).getD ""

/-- The whole address. -/
def text (a : WebAddress) : String :=
  (if a.secure then "https://" else "http://") ++ a.host
    ++ (a.port.map fun port => ":" ++ toString port).getD "" ++ a.target

end WebAddress

end AnalysisDesk
