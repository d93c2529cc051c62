import Portcullis.Policy.Rule
import Portcullis.Policy.Scope
import Portcullis.Text.Blank

/-! Actions on the fields of a response. -/
namespace Portcullis.Policy
open Http

structure AddHeader where
  header : HeaderName
  value : HeaderValue
  deriving DecidableEq, Repr

namespace AddHeader

/-- Replaces the field, whatever it was. -/
def run (a : AddHeader) (c : Canvas) : Canvas × Outcome :=
  match c.write (.setHeader a.header a.value) with
  | .ok c => (c, .applied)
  | .error e => (c, .anomaly ("could not set " ++ a.header.text ++ ": " ++ e.message))

end AddHeader

/-- Attributes that cookies of some names have to carry. -/
structure HardenCookies where
  cookie : WholePattern
  secure : Bool
  httpOnly : Bool

namespace HardenCookies

/-- The name of a cookie: its text up to the first equals sign. -/
def cookieName (cookie : List Char) : List Char :=
  Text.trim (cookie.takeWhile (· != '='))

/-- What follows the first semicolon, piece by piece. -/
def attributes (cookie : List Char) : List (List Char) :=
  ((cookie.splitOn ';').drop 1).map Text.trim

def hasAttribute (cookie : List Char) (name : String) : Bool :=
  (attributes cookie).any (Ascii.sameLetters · name.toList)

/-- The text that the missing attributes add. -/
def missing (a : HardenCookies) (cookie : List Char) : List Char :=
  (if a.secure && !hasAttribute cookie "secure" then "; Secure".toList else [])
    ++ (if a.httpOnly && !hasAttribute cookie "httponly" then "; HttpOnly".toList else [])

/-- The cookie with the attributes it lacks: blanks and then semicolons at its end give way. -/
def harden? (a : HardenCookies) (cookie : List Char) : Option (List Char) :=
  if !a.cookie.isMatch (String.ofList (cookieName cookie)) then none
  else
    let more := a.missing cookie
    if more.isEmpty then none else some (Text.dropEndWhile (· == ';') (Text.trimEnd cookie) ++ more)

/-- The value to write instead of one; values that are not readable text have none. -/
def hardened? (a : HardenCookies) (v : HeaderValue) : Option HeaderValue :=
  (v.chars?.bind a.harden?).bind fun cs => HeaderValue.ofBytes? (Utf8.encode cs)

/-- Hardens every cookie that needs it, and leaves the others in place. -/
def run (a : HardenCookies) (c : Canvas) : Canvas × Outcome :=
  let values := c.headers.getAll .setCookie
  let changed := (values.filterMap a.hardened?).length
  if changed = 0 then (c, .pass)
  else
    let hardened := values.map fun v => (a.hardened? v).getD v
    match c.writeAll (.removeHeader .setCookie :: hardened.map (.appendHeader .setCookie)) with
    | .ok c => (c, .applied (some ("hardened " ++ toString changed ++ " cookie(s)")))
    | .error e => (c, .anomaly ("could not rewrite cookies: " ++ e.message))

end HardenCookies

end Portcullis.Policy
