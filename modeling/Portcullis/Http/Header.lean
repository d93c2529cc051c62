import Portcullis.Text.Ascii

/-! Header fields of a message: names, values, and an ordered list of fields. -/
namespace Portcullis.Http

/-- Characters of a token, which methods and field names are made of. -/
def isTokenChar (c : Char) : Bool :=
  c.isAlphanum || "!#$%&'*+-.^_|~".toList.contains c || c == '\x60'

/-- The name of a field: a non-empty token in lower case. -/
structure HeaderName where
  text : String
  deriving DecidableEq, Repr, Inhabited

namespace HeaderName

def maxLength : Nat := 65535

/-- Names are read without regard to case. -/
def parse? (s : String) : Option HeaderName :=
  let cs := s.toList
  if cs.all isTokenChar && !cs.isEmpty && cs.length ≤ maxLength then
    some ⟨String.ofList (cs.map Char.toLower)⟩
  else none

def cacheControl : HeaderName := ⟨"cache-control"⟩
def connection : HeaderName := ⟨"connection"⟩
def contentLength : HeaderName := ⟨"content-length"⟩
def contentType : HeaderName := ⟨"content-type"⟩
def forwardedProto : HeaderName := ⟨"x-forwarded-proto"⟩
def host : HeaderName := ⟨"host"⟩
def location : HeaderName := ⟨"location"⟩
def setCookie : HeaderName := ⟨"set-cookie"⟩

end HeaderName

/-- The value of a field: bytes without control characters other than the tab. -/
structure HeaderValue where
  bytes : Bytes
  deriving DecidableEq, Repr, Inhabited

namespace HeaderValue

def isAllowed (b : UInt8) : Bool :=
  b == 9 || (b ≥ 32 && b != 127)

def ofBytes? (bs : Bytes) : Option HeaderValue :=
  if bs.all isAllowed then some ⟨bs⟩ else none

def ofText? (s : String) : Option HeaderValue :=
  ofBytes? (Bytes.ofText s)

/-- Bytes that a value may have when it is read as text. -/
def isReadable (b : UInt8) : Bool :=
  b == 9 || (b ≥ 32 && b < 127)

/-- The value as characters, if all of it is readable. -/
def chars? (v : HeaderValue) : Option (List Char) :=
  if v.bytes.all isReadable then some (v.bytes.map fun b => Char.ofNat b.toNat) else none

def text? (v : HeaderValue) : Option String :=
  v.chars?.map String.ofList

end HeaderValue

/-- The fields of a message. The order among the values of one name is theirs. There is no limit to their number. -/
structure Headers where
  entries : List (HeaderName × HeaderValue) := []
  deriving DecidableEq, Repr, Inhabited

namespace Headers

def getAll (h : Headers) (n : HeaderName) : List HeaderValue :=
  (h.entries.filter (·.1 == n)).map (·.2)

def get? (h : Headers) (n : HeaderName) : Option HeaderValue :=
  (h.getAll n).head?

def contains (h : Headers) (n : HeaderName) : Bool :=
  h.entries.any (·.1 == n)

def append (h : Headers) (n : HeaderName) (v : HeaderValue) : Headers :=
  ⟨h.entries ++ [(n, v)]⟩

def remove (h : Headers) (n : HeaderName) : Headers :=
  ⟨h.entries.filter (·.1 != n)⟩

/-- Replaces every value of the name. -/
def insert (h : Headers) (n : HeaderName) (v : HeaderValue) : Headers :=
  (h.remove n).append n v

/-- The names that occur, each once. -/
def names (h : Headers) : List HeaderName :=
  (h.entries.map (·.1)).eraseDups

/-- The fields of `base` without the names in `gone` and those of `top`, and then `top`. -/
def overlay (base : Headers) (gone : List HeaderName) (top : Headers) : Headers :=
  ⟨base.entries.filter (fun f => !gone.contains f.1 && !top.contains f.1) ++ top.entries⟩

end Headers

end Portcullis.Http
