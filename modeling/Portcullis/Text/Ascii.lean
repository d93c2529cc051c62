import Portcullis.Text.Utf8

/-! Letters, digits and hexadecimal in the ASCII range. -/
namespace Portcullis.Ascii

/-- Maps `A` to `Z` onto `a` to `z`. -/
def lowerByte (b : UInt8) : UInt8 :=
  if 0x41 ≤ b ∧ b ≤ 0x5A then b + 32 else b

/-- Two texts that differ at most in the case of ASCII letters. -/
def sameLetters (a b : List Char) : Bool :=
  a.map Char.toLower == b.map Char.toLower

def hexValue? (c : Char) : Option Nat :=
  if '0' ≤ c ∧ c ≤ '9' then some (c.toNat - 48)
  else if 'a' ≤ c ∧ c ≤ 'f' then some (c.toNat - 87)
  else if 'A' ≤ c ∧ c ≤ 'F' then some (c.toNat - 55)
  else none

def isHex (c : Char) : Bool :=
  (hexValue? c).isSome

def hexByte? (high low : Char) : Option UInt8 :=
  match hexValue? high, hexValue? low with
  | some h, some l => some (UInt8.ofNat (16 * h + l))
  | _, _ => none

/-- The number that digits of a base up to 16 write, most significant first. -/
def ofDigits? (base : Nat) (cs : List Char) : Option Nat :=
  cs.foldlM (fun n c => (hexValue? c).bind fun d => if d < base then some (base * n + d) else none) 0

/-- The byte that hexadecimal digits write, with or without a plus sign before them. -/
def byteOfHex? (cs : List Char) : Option UInt8 :=
  let digits := if cs.head? == some '+' then cs.tail else cs
  if digits.isEmpty then none else ((ofDigits? 16 digits).filter (· < 256)).map UInt8.ofNat

def lowerHexDigit (n : Nat) : Char :=
  if n < 10 then Char.ofNat (48 + n) else Char.ofNat (87 + n)

def upperHexDigit (n : Nat) : Char :=
  if n < 10 then Char.ofNat (48 + n) else Char.ofNat (55 + n)

/-- Two lower-case digits for each byte. -/
def hex (bs : Bytes) : List Char :=
  bs.flatMap fun b => [lowerHexDigit (b.toNat / 16), lowerHexDigit (b.toNat % 16)]

/-- Reads what `hex` writes, in either case of the digits. -/
def ofHex? : List Char → Option Bytes
  | [] => some []
  | h :: l :: rest => do
    let b ← hexByte? h l
    let bs ← ofHex? rest
    return b :: bs
  | [_] => none

/-- The value of a bare run of decimal digits. -/
def decimal? (cs : List Char) : Option Nat :=
  if cs.isEmpty then none else ofDigits? 10 cs

end Portcullis.Ascii
