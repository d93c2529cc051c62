import Portcullis.Text.Ascii

/-! Request targets: origin form, absolute form, authority form and the asterisk. -/
namespace Portcullis.Http

/-- A request target as it was written, without its fragment. A target without scheme and without
authority has a path; one with an authority alone has neither path nor query. -/
structure Uri where
  scheme : Option String := none
  authority : String := ""
  rawPath : String := ""
  query : Option String := none
  deriving DecidableEq, Repr, Inhabited

namespace Uri

def maxLength : Nat := 65534

def maxScheme : Nat := 64

def isSchemeChar (c : Char) : Bool :=
  c.isAlphanum || c == '+' || c == '-' || c == '.' || c == '~'

def isAuthorityChar (c : Char) : Bool :=
  c.isAlphanum || ":@[]!$&'()*+,;=-._~".toList.contains c

def endsAuthority (c : Char) : Bool :=
  c == '/' || c == '?' || c == '#'

/-- Beyond what a path should hold plainly, quotation marks, braces and all that is not ASCII pass. -/
def isPathChar (c : Char) : Bool :=
  let n := c.toNat
  n == 0x21 || (0x24 ≤ n && n ≤ 0x3B) || n == 0x3D || (0x40 ≤ n && n ≤ 0x5F)
    || (0x61 ≤ n && n ≤ 0x7A) || n == 0x7C || n ≥ 0x7E || n == 0x22 || n == 0x7B || n == 0x7D

def isQueryChar (c : Char) : Bool :=
  let n := c.toNat
  n == 0x21 || (0x24 ≤ n && n ≤ 0x3B) || n == 0x3D || n ≥ 0x3F

/-- What was seen of an authority so far. -/
structure AuthorityScan where
  colons : Nat := 0
  opened : Bool := false
  closed : Bool := false
  percent : Bool := false
  lastAt : Bool := false

/-- Colons and percent signs before an at sign belong to the user information, those in brackets to
an address; only what stands outside of both counts at the end. -/
def AuthorityScan.push (s : AuthorityScan) (c : Char) : Option AuthorityScan :=
  let s := { s with lastAt := false }
  if c == ':' then if s.colons ≥ 8 then none else some { s with colons := s.colons + 1 }
  else if c == '[' then if s.percent || s.opened then none else some { s with opened := true }
  else if c == ']' then
    if !s.opened || s.closed then none else some { s with closed := true, colons := 0, percent := false }
  else if c == '@' then some { s with colons := 0, percent := false, lastAt := true }
  else if c == '%' then some { s with percent := true }
  else if isAuthorityChar c then some s
  else none

/-- The brackets pair up, at most one colon is left, something follows the last at sign, and no
percent sign stands in the host. -/
def AuthorityScan.isDone (s : AuthorityScan) : Bool :=
  s.opened == s.closed && s.colons ≤ 1 && !s.lastAt && !s.percent

def isAuthority (cs : List Char) : Bool :=
  ((cs.foldlM AuthorityScan.push {}).map AuthorityScan.isDone).getD false

/-- Splits off a scheme and the colon and slashes behind it. A well-known scheme is written in lower
case; `some none` says that there is no scheme. -/
def cutScheme? (cs : List Char) : Option (Option String × List Char) :=
  let lower := cs.map Char.toLower
  if "http://".toList.isPrefixOf lower then some (some "http", cs.drop 7)
  else if "https://".toList.isPrefixOf lower then some (some "https", cs.drop 8)
  else
    let name := cs.takeWhile isSchemeChar
    match cs.dropWhile isSchemeChar with
    | ':' :: '/' :: '/' :: rest =>
      if cs.length ≤ 3 then some (none, cs)
      else if name.length > maxScheme then none
      else some (some (String.ofList name), rest)
    | _ => some (none, cs)

/-- Splits a path and query; a fragment is dropped. -/
def parsePath? (cs : List Char) : Option (String × Option String) :=
  let inPath := fun c => c != '?' && c != '#'
  let path := cs.takeWhile inPath
  if !path.all isPathChar then none
  else
    match cs.dropWhile inPath with
    | '?' :: rest =>
      let query := rest.takeWhile (· != '#')
      if query.all isQueryChar then some (String.ofList path, some (String.ofList query)) else none
    | _ => some (String.ofList path, none)

def parse? (s : String) : Option Uri :=
  let cs := s.toList
  if s.utf8ByteSize > maxLength then none
  else
    match cs with
    | [] => none
    | ['*'] => some { rawPath := "*" }
    | '/' :: _ => (parsePath? cs).map fun (p, q) => { rawPath := p, query := q }
    | [c] => if !endsAuthority c && isAuthority [c] then some { authority := String.ofList [c] } else none
    | _ => do
      let (scheme, rest) ← cutScheme? cs
      let authority := rest.takeWhile (!endsAuthority ·)
      let rest := rest.dropWhile (!endsAuthority ·)
      if !isAuthority authority then none
      else if scheme.isNone then
        if rest.isEmpty then some { authority := String.ofList authority } else none
      else if authority.isEmpty then none
      else
        let (p, q) ← parsePath? rest
        return { scheme := scheme, authority := String.ofList authority, rawPath := p, query := q }

/-- The path; a target that has a path but writes none has the root. -/
def path (u : Uri) : String :=
  if u.rawPath.isEmpty && (u.scheme.isSome || u.query.isSome) then "/" else u.rawPath

/-- The path and query as written. Only an authority form has none. -/
def pathAndQuery? (u : Uri) : Option String :=
  if u.scheme.isNone && !u.authority.isEmpty then none
  else
    let written := u.rawPath ++ (u.query.map ("?" ++ ·)).getD ""
    some (if written.isEmpty then "/" else written)

/-- The host: what follows the user information, without a port. -/
def host (u : Uri) : String :=
  let cs := u.authority.toList
  let cs := (cs.reverse.takeWhile (· != '@')).reverse
  String.ofList (match cs with
    | '[' :: _ => cs.takeWhile (· != ']') ++ (cs.dropWhile (· != ']')).take 1
    | _ => cs.takeWhile (· != ':'))

def toText (u : Uri) : String :=
  (u.scheme.map (· ++ "://")).getD "" ++ u.authority ++ u.path ++ (u.query.map ("?" ++ ·)).getD ""

end Uri

end Portcullis.Http
