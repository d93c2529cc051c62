import Portcullis.Text.Blank
import Portcullis.Url.Address
import Portcullis.Url.Domain
import Portcullis.Url.Path

/-! Absolute URLs. Those of the web are taken apart; of others the scheme is all that matters. -/
namespace Portcullis.Url

inductive Host where
  | domain (name : List Char)
  | ipv4 (a : Net.Ipv4)
  | ipv6 (a : Net.Ipv6)
  deriving DecidableEq, Repr

/-- Why a text is no absolute URL. -/
inductive Defect where
  | noScheme
  | emptyHost
  | badPort
  | badIpv4
  | badIpv6
  | badDomain
  | badOpaqueHost
  deriving DecidableEq, Repr

def Defect.message : Defect → String
  | .noScheme => "relative URL without a base"
  | .emptyHost => "empty host"
  | .badPort => "invalid port number"
  | .badIpv4 => "invalid IPv4 address"
  | .badIpv6 => "invalid IPv6 address"
  | .badDomain => "invalid international domain name"
  | .badOpaqueHost => "invalid domain character"

/-- What is before the path of a URL. -/
structure Authority where
  username : List Char := []
  password : Option (List Char) := none
  host : Host
  port : Option Nat
  deriving DecidableEq, Repr

/-- An address of the web. A port that is the usual one is not kept. -/
structure Web where
  scheme : String
  authority : Authority
  path : List Char
  query : Option (List Char)
  deriving DecidableEq, Repr

inductive Parsed where
  | web (w : Web)
  | other (scheme : String)
  deriving DecidableEq, Repr

namespace Parse

/-- The schemes whose URLs have a host and a path, with their usual ports. -/
def usualPort? (scheme : String) : Option Nat :=
  match scheme with
  | "http" => some 80
  | "https" => some 443
  | "ws" => some 80
  | "wss" => some 443
  | "ftp" => some 21
  | _ => none

def isSchemeChar (c : Char) : Bool :=
  c.isAlphanum || c == '+' || c == '-' || c == '.'

/-- The scheme in lower case, and what follows its colon. -/
def scheme? (cs : List Char) : Option (String × List Char) :=
  if !(cs.head?.any Char.isAlpha) then none
  else
    match cs.dropWhile isSchemeChar with
    | ':' :: rest => some (String.ofList ((cs.takeWhile isSchemeChar).map Char.toLower), rest)
    | _ => none

/-- Controls and blanks, which do not count at the two ends of a URL. -/
def isEdge (c : Char) : Bool :=
  c.toNat ≤ 0x20

def bracketed? (cs : List Char) : Except Defect Host :=
  if cs.getLast? != some ']' then .error .badIpv6
  else
    match ipv6? cs.tail.dropLast with
    | some a => .ok (.ipv6 a)
    | none => .error .badIpv6

def host (cs : List Char) : Except Defect Host :=
  if cs.head? == some '[' then bracketed? cs
  else
    match (Utf8.decode? (percentDecode (Utf8.encode cs))).bind Domain.ascii? with
    | none => .error .badDomain
    | some [] => .error .emptyHost
    | some name =>
      if endsInNumber name then
        match ipv4? name with
        | some a => .ok (.ipv4 a)
        | none => .error .badIpv4
      else .ok (.domain name)

/-- A host without rules of its own may not have these characters. -/
def isBadInOpaque (c : Char) : Bool :=
  "\x00\t\n\r #/:<>?@[\\]^|".toList.contains c

def opaqueHost (cs : List Char) : Except Defect Unit :=
  if cs.head? == some '[' then (bracketed? cs).map fun _ => ()
  else if cs.any isBadInOpaque then .error .badOpaqueHost
  else .ok ()

/-- Splits the host from what follows: a colon outside of brackets or the end of the authority. -/
def cutHost : Bool → List Char → List Char × List Char
  | _, [] => ([], [])
  | inside, c :: rest =>
    if c == ':' && !inside then ([], c :: rest)
    else
      let inside := if c == '[' then true else if c == ']' then false else inside
      let (host, after) := cutHost inside rest
      (c :: host, after)

def port? (cs : List Char) : Except Defect (Option Nat) :=
  match cs with
  | [] => .ok none
  | _ :: [] => .ok none
  | _ :: digits =>
    match (Ascii.decimal? digits).filter (· ≤ Net.SocketAddress.maxPort) with
    | some n => .ok (some n)
    | none => .error .badPort

/-- What ends an authority. Web addresses take a backslash for a slash. -/
def endsAuthority (isWeb : Bool) (c : Char) : Bool :=
  c == '/' || c == '?' || c == '#' || (isWeb && c == '\\')

/-- The user information and the rest of an authority, cut at the last at sign. -/
def cutUser (cs : List Char) : Option (List Char) × List Char :=
  if cs.contains '@' then
    let behind := (cs.reverse.takeWhile (· != '@')).reverse
    (some (cs.take (cs.length - behind.length - 1)), behind)
  else (none, cs)

/-- Takes the text between the slashes and the path apart. -/
def authority (scheme : String) (cs : List Char) : Except Defect Authority := do
  let (user, rest) := cutUser cs
  let (hostText, portText) := cutHost false rest
  if hostText.isEmpty then .error .emptyHost
  else
    let host ← host hostText
    let port ← port? portText
    let user := user.getD []
    let password := (user.dropWhile (· != ':')).drop 1
    return {
      username := percentEncode userinfoSet (user.takeWhile (· != ':'))
      password := if password.isEmpty then none else some (percentEncode userinfoSet password)
      host
      port := port.filter (some · != usualPort? scheme) }

/-- The path, and the query without the fragment. -/
def pathAndQuery (cs : List Char) : List Char × Option (List Char) :=
  let inPath := fun c => c != '?' && c != '#'
  let query := match cs.dropWhile inPath with
    | '?' :: rest => some (percentEncode querySet (rest.takeWhile (· != '#')))
    | _ => none
  (parsePath (cs.takeWhile inPath), query)

/-- A URL with the host and path of a web address. Any number of slashes may precede the host. -/
def web (scheme : String) (cs : List Char) : Except Defect Web := do
  let cs := cs.dropWhile isSlash
  let authority ← authority scheme (cs.takeWhile (!endsAuthority true ·))
  let (path, query) := pathAndQuery (cs.dropWhile (!endsAuthority true ·))
  return { scheme, authority, path, query }

/-- Some user information remains to be written. A lone colon is as good as none. -/
def hasUser (user : Option (List Char)) : Bool :=
  user.any fun u => !u.isEmpty && u != [':']

/-- The authority of a URL of no known scheme. Its host may be empty if nothing else is there. -/
def opaqueAuthority (cs : List Char) (isLast : Bool) : Except Defect Unit := do
  let (user, rest) := cutUser cs
  let (hostText, portText) := cutHost false rest
  if user == some [] && rest.isEmpty && !isLast then .error .emptyHost
  else
    opaqueHost hostText
    if hostText.isEmpty && (!portText.isEmpty || hasUser user) then .error .emptyHost
    else (port? (portText.takeWhile (· != '\\'))).map fun _ => ()

/-- The host of a file, which may be missing or a drive. -/
def fileHost (cs : List Char) : Except Defect Unit :=
  if cs.isEmpty || isDriveLetter cs then .ok () else (host cs).map fun _ => ()

/-- What follows two slashes. -/
def afterSlashes? (isWeb : Bool) : List Char → Option (List Char)
  | a :: b :: rest =>
    let isSlash := fun c => c == '/' || (isWeb && c == '\\')
    if isSlash a && isSlash b then some rest else none
  | _ => none

/-- A URL that is not of the web: only its authority can be at fault. -/
def other (scheme : String) (cs : List Char) : Except Defect Unit :=
  let isFile := scheme == "file"
  match afterSlashes? isFile cs with
  | none => .ok ()
  | some rest =>
    let text := rest.takeWhile (!endsAuthority isFile ·)
    if isFile then fileHost text else opaqueAuthority text (text.length == rest.length)

end Parse

/-- Reads an absolute URL. Blanks around it and line breaks anywhere in it do not count. -/
def parse? (s : String) : Except Defect Parsed :=
  let cs := Text.dropEndWhile Parse.isEdge (s.toList.dropWhile Parse.isEdge)
  match Parse.scheme? (cs.filter (!isSkipped ·)) with
  | none => .error .noScheme
  | some (scheme, rest) =>
    if scheme == "http" || scheme == "https" then (Parse.web scheme rest).map .web
    else if (Parse.usualPort? scheme).isSome then (Parse.web scheme rest).map fun _ => .other scheme
    else (Parse.other scheme rest).map fun _ => .other scheme

end Portcullis.Url
