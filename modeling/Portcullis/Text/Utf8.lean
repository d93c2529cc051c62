/-! UTF-8: the bytes of a text, and the text of bytes that need not be well formed. -/
namespace Portcullis

/-- The contents of a body, a header value or a file. -/
abbrev Bytes := List UInt8

namespace Utf8

def encode (cs : List Char) : Bytes :=
  cs.flatMap String.utf8EncodeChar

/-- A scalar value under way: its leading bits, the number of bytes still owed, and the bounds of
the next one. -/
structure Partial where
  code : Nat
  owed : Nat
  low : UInt8
  high : UInt8

/-- What a byte says that does not continue another one. -/
inductive Lead where
  | whole (c : Char)
  | more (p : Partial)
  | broken

/-- The bounds of the second byte exclude overlong forms, surrogates and values above U+10FFFF. -/
def lead (b : UInt8) : Lead :=
  if b < 0x80 then .whole (Char.ofNat b.toNat)
  else if b < 0xC2 then .broken
  else if b < 0xE0 then .more ⟨b.toNat % 32, 1, 0x80, 0xBF⟩
  else if b = 0xE0 then .more ⟨0, 2, 0xA0, 0xBF⟩
  else if b = 0xED then .more ⟨13, 2, 0x80, 0x9F⟩
  else if b < 0xF0 then .more ⟨b.toNat % 16, 2, 0x80, 0xBF⟩
  else if b = 0xF0 then .more ⟨0, 3, 0x90, 0xBF⟩
  else if b < 0xF4 then .more ⟨b.toNat % 8, 3, 0x80, 0xBF⟩
  else if b = 0xF4 then .more ⟨4, 3, 0x80, 0x8F⟩
  else .broken

/-- Takes one more byte into a scalar value under way: `none` if it does not continue it. -/
def Partial.push (p : Partial) (b : UInt8) : Option Partial :=
  if p.low ≤ b ∧ b ≤ p.high then some ⟨p.code * 64 + b.toNat % 64, p.owed - 1, 0x80, 0xBF⟩ else none

/-- The scalar values of the bytes, with `none` for every longest run that begins a scalar value but
does not complete it, and for every byte that begins none. -/
def items : Option Partial → Bytes → List (Option Char)
  | none, [] => []
  | some _, [] => [none]
  | none, b :: rest =>
    match lead b with
    | .whole c => some c :: items none rest
    | .more p => items (some p) rest
    | .broken => none :: items none rest
  | some p, b :: rest =>
    match p.push b with
    | some q => if q.owed = 0 then some (Char.ofNat q.code) :: items none rest else items (some q) rest
    | none =>
      match lead b with
      | .whole c => none :: some c :: items none rest
      | .more p => none :: items (some p) rest
      | .broken => none :: none :: items none rest

/-- The text of well-formed bytes. -/
def decode? (bs : Bytes) : Option (List Char) :=
  (items none bs).mapM id

/-- The text of any bytes, with U+FFFD for each broken run. -/
def lossy (bs : Bytes) : List Char :=
  (items none bs).map (·.getD '\uFFFD')

end Utf8

def Bytes.ofText (s : String) : Bytes :=
  Utf8.encode s.toList

/-- The text whose UTF-8 form the bytes are. -/
def Bytes.text? (bs : Bytes) : Option String :=
  (Utf8.decode? bs).map String.ofList

end Portcullis
