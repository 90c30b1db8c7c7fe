/-
Requests.

A request has a method, a target, headers and a body.  Only the path and the query of the target
matter; the target may also name a scheme and a host.  What cannot be a request at all is refused
here, everything else is for the service to answer.
-/
import AnalysisDesk.Text.Bytes

namespace AnalysisDesk

/-- A request to the service. -/
structure HttpRequest where
  method : String
  path : String
  query : Option String
  /-- Names in lower case. -/
  headers : List (String × String)
  body : String
deriving DecidableEq, Repr, Inhabited

namespace HttpRequest

/-- The value of the first header of a name. -/
def header? (request : HttpRequest) (name : String) : Option String := request.headers.lookup name

/-! ### Targets -/

/-- The characters of a path. -/
def isPathChar (c : Char) : Bool :=
  let n := c.toNat
  n = 0x21 || n = 0x22 || (0x24 ≤ n && n ≤ 0x3B) || n = 0x3D || (0x40 ≤ n && n ≤ 0x5F)
    || (0x61 ≤ n && n ≤ 0x7E) || 0x7F ≤ n

/-- The characters of a query. -/
def isQueryChar (c : Char) : Bool :=
  let n := c.toNat
  n = 0x21 || (0x24 ≤ n && n ≤ 0x3B) || n = 0x3D || 0x3F ≤ n

/-- The path and the query of a target without scheme and host; what follows a `#` does not
count. -/
def pathAndQuery? (cs : List Char) : Option (String × Option String) :=
  let cs := cs.takeWhile (· != '#')
  let path := cs.takeWhile (· != '?')
  let query := (cs.drop path.length).drop 1
  if path.all isPathChar && query.all isQueryChar then
    some (String.ofList path,
      if path.length < cs.length then some (String.ofList query) else none)
  else none

def isHostChar (c : Char) : Bool :=
  c.isAlphanum || "-._~!$&'()*+,;=:@[]%".toList.contains c

/-- The path and the query of a target that names a host. -/
def afterHost? (cs : List Char) : Option (String × Option String) :=
  let host := cs.takeWhile fun c => c != '/' && c != '?' && c != '#'
  if host.isEmpty || !host.all isHostChar then none
  else
    (pathAndQuery? (cs.drop host.length)).map fun (path, query) =>
      (if path.isEmpty then "/" else path, query)

def isSchemeChar (c : Char) : Bool := c.isAlphanum || c = '+' || c = '-' || c = '.'

/-- Reads a target: a path and a query, a whole address, a star, or a host alone. -/
def readTarget? (target : String) : Option (String × Option String) :=
  match target.toList with
  | [] => none
  | ['*'] => some ("*", none)
  | '/' :: rest => pathAndQuery? ('/' :: rest)
  | cs =>
    let scheme := cs.takeWhile isSchemeChar
    match cs.drop scheme.length with
    | ':' :: '/' :: '/' :: rest => if scheme.isEmpty then none else afterHost? rest
    | _ => if cs.all isHostChar then some ("", none) else none

/-! ### The rest -/

/-- The characters of methods and of names of headers. -/
def isTokenChar (c : Char) : Bool :=
  c.isAlphanum || "!#$%&'*+-.^_`|~".toList.contains c

def isToken (s : String) : Bool := !s.isEmpty && s.toList.all isTokenChar

/-- The characters of values of headers. -/
def isValueChar (c : Char) : Bool := c = '\t' || (0x20 ≤ c.toNat && c.toNat ≠ 0x7F)

/-- The request with these parts, if they can be parts of a request. -/
def ofParts? (method target : String) (headers : List (String × String)) (body : String) :
    Option HttpRequest :=
  if isToken method && headers.all (fun h => isToken h.1 && h.2.toList.all isValueChar) then
    (readTarget? target).map fun (path, query) =>
      { method, path, query, headers := headers.map fun h => (h.1.toLower, h.2), body }
  else none

end HttpRequest

end AnalysisDesk
