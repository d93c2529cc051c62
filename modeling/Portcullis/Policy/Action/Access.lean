import Portcullis.Policy.Rule
import Portcullis.Regex.Pattern
import Portcullis.Text.Blank
import Portcullis.Text.Quoted
import Portcullis.Form

/-! Actions that decide about a request. None of them writes. -/
namespace Portcullis.Policy
open Http

structure RestrictMethod where
  allowed : List Method
  status : Status
  deriving DecidableEq, Repr

def RestrictMethod.decide (a : RestrictMethod) (r : Request) : Outcome :=
  if a.allowed.contains r.method then .pass
  else .abort (some (.block a.status)) (some ("method " ++ r.method.text ++ " not allowed"))

namespace EnforceHttps

/-- The scheme of a request that arrived over a secure connection, here or at a gateway. -/
def secureScheme : String := "https"

/-- The request came over a secure connection: its target or the first entry of the forwarding field
says so. -/
def isSecure (r : Request) : Bool :=
  r.uri.scheme == some secureScheme ||
    match (r.headers.get? .forwardedProto).bind HeaderValue.chars? with
    | some cs => Ascii.sameLetters (Text.trim (cs.takeWhile (· != ','))) secureScheme.toList
    | none => false

/-- Drops what follows the last colon, unless that ends in a bracket. -/
def withoutPort (host : List Char) : List Char :=
  let behind := (host.reverse.takeWhile (· != ':'))
  if !host.contains ':' || behind.head? == some ']' then host
  else (host.reverse.drop (behind.length + 1)).reverse

/-- The host that was asked: of the target if it names one, else of the host field. -/
def host? (r : Request) : Option String :=
  if !r.uri.authority.isEmpty then some r.uri.host
  else ((r.headers.get? .host).bind HeaderValue.chars?).map fun cs => String.ofList (withoutPort cs)

/-- The same place by secure connection. -/
def location? (r : Request) : Option String :=
  (host? r).map fun h => "https://" ++ h ++ r.uri.pathAndQuery?.getD "/"

def decide (r : Request) : Outcome :=
  if isSecure r then .pass
  else
    match location? r with
    | some l => .abort (some (.redirect l)) (some "plain HTTP request")
    | none => .abort none (some "plain HTTP request without a host to redirect to")

end EnforceHttps

/-- The roles of which a user needs one. Without any, every user who is logged in will do. -/
structure RequireRole where
  roles : List String
  remedy : Option Remedy
  deriving DecidableEq, Repr

def RequireRole.decide (a : RequireRole) (r : Request) : Outcome :=
  match r.user with
  | none => .abort a.remedy (some "no user on request")
  | some u =>
    if u.isAnonymous || !u.loggedIn then .abort a.remedy (some "user not logged in")
    else if !a.roles.isEmpty && !a.roles.any u.isInRole then
      .abort a.remedy (some ("user '" ++ u.accountName ++ "' lacks a required role"))
    else .pass

/-- What a virtual patch looks at. -/
inductive PatchTarget where
  | header (name : HeaderName)
  | parameter (name : String)
  deriving DecidableEq, Repr

def PatchTarget.describe : PatchTarget → String
  | .header n => "Header(" ++ Text.quoted n.text ++ ")"
  | .parameter n => "Parameter(" ++ Text.quoted n ++ ")"

/-- Stops requests whose input shows the signature of an attack. -/
structure VirtualPatch where
  target : PatchTarget
  signature : Regex
  message : Option String

namespace VirtualPatch

/-- Some value of the target shows the signature. -/
def isHit (a : VirtualPatch) (r : Request) : Bool :=
  match a.target with
  | .header n => (r.headers.getAll n).any fun v => a.signature.isMatch v.bytes
  | .parameter n =>
    match r.uri.query with
    | none => false
    | some q =>
      (Form.parse (Bytes.ofText q)).any fun p =>
        p.1 == n.toList && a.signature.isMatch (Utf8.encode p.2)

def decide (a : VirtualPatch) (r : Request) : Outcome :=
  if a.isHit r then
    .abort none (some (a.message.getD ("signature matched on " ++ a.target.describe)))
  else .pass

end VirtualPatch

end Portcullis.Policy
