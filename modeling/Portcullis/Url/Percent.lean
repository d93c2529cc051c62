import Portcullis.Text.Ascii

/-! Percent-encoding: a byte written as a percent sign and two hexadecimal digits. -/
namespace Portcullis.Url

/-- The escape of a byte, with upper-case digits. -/
def escape (b : UInt8) : List Char :=
  ['%', Ascii.upperHexDigit (b.toNat / 16), Ascii.upperHexDigit (b.toNat % 16)]

/-- Escapes the bytes of the characters in `set`. -/
def percentEncode (set : Char → Bool) (cs : List Char) : List Char :=
  cs.flatMap fun c => if set c then (String.utf8EncodeChar c).flatMap escape else [c]

/-- Reads every well-formed escape as its byte and leaves the rest. -/
def percentDecode : Bytes → Bytes
  | [] => []
  | 0x25 :: h :: l :: rest =>
    match Ascii.hexByte? (Char.ofNat h.toNat) (Char.ofNat l.toNat) with
    | some b => b :: percentDecode rest
    | none => 0x25 :: percentDecode (h :: l :: rest)
  | b :: rest => b :: percentDecode rest

/-- Characters that are escaped everywhere in a URL: controls, and all beyond ASCII. -/
def controlSet (c : Char) : Bool :=
  c.toNat < 0x20 || c.toNat > 0x7E

def fragmentSet (c : Char) : Bool :=
  controlSet c || c == ' ' || c == '"' || c == '<' || c == '>' || c == '`'

def pathSet (c : Char) : Bool :=
  fragmentSet c || c == '#' || c == '?' || c == '{' || c == '}'

def userinfoSet (c : Char) : Bool :=
  pathSet c || c == '/' || c == ':' || c == ';' || c == '=' || c == '@' || c == '[' || c == '\\'
    || c == ']' || c == '^' || c == '|'

def querySet (c : Char) : Bool :=
  controlSet c || c == ' ' || c == '"' || c == '#' || c == '<' || c == '>' || c == '\''

/-- Tabs and line breaks, which a URL reader skips wherever they stand. -/
def isSkipped (c : Char) : Bool :=
  c == '\t' || c == '\n' || c == '\r'

end Portcullis.Url
