import Portcullis.Text.Ascii
import Portcullis.Text.Slice

/-! Escapes of characters that need none. -/
namespace Portcullis.Http

/-- Characters that mean the same written plainly and escaped. -/
def isUnreserved (b : UInt8) : Bool :=
  let c := Char.ofNat b.toNat
  c.isAlphanum || c == '-' || c == '.' || c == '_' || c == '~'

/-- The byte of the escape whose percent sign has the byte offset `i`: `none` if the two bytes behind
it are cut off, are no whole characters or are no digits. -/
def escapedByte? (path : List Char) (i : Nat) : Option UInt8 :=
  ((Text.slice? path (i + 1) (i + 3)).filter (·.all Ascii.isHex)).bind Ascii.byteOfHex?

/-- A path under way: what is written of it, and the byte offset up to which it is copied. -/
structure Decoding where
  decoded : List Char := []
  copied : Nat := 0

namespace Decoding

/-- Takes the percent sign at the byte offset `i`. If an escaped unreserved character begins there, it
is written plainly behind a copy of what stands between the escape before and this one. -/
def step (path : List Char) (s : Decoding) (i : Nat) : Option Decoding :=
  if i < s.copied then some s
  else
    match (escapedByte? path i).filter isUnreserved with
    | none => some s
    | some b => do
      let between ← Text.slice? path s.copied i
      return { decoded := s.decoded ++ between ++ [Char.ofNat b.toNat], copied := i + 3 }

/-- Copies what stands behind the last escape. -/
def finish (path : List Char) (s : Decoding) : Option (List Char) := do
  let behind ← Text.dropBytes? s.copied path
  return s.decoded ++ behind

end Decoding

/-- Writes escaped unreserved characters plainly: `none` if a slice of the path is out of its range or
cuts a character. -/
def decodeUnreserved? (path : List Char) : Option (List Char) := do
  let s ← (Text.offsets '%' 0 path).foldlM (Decoding.step path) {}
  s.finish path

end Portcullis.Http
