import Portcullis.Net.Address

/-! The lenient notation for addresses in the host of a URL. -/
namespace Portcullis.Url
open Net

/-- A number in decimal, or in base 16 behind `0x`, or in base 8 behind a zero. -/
def number? (cs : List Char) : Option Nat :=
  match cs with
  | [] => none
  | '0' :: 'x' :: rest => Ascii.ofDigits? 16 rest
  | '0' :: 'X' :: rest => Ascii.ofDigits? 16 rest
  | '0' :: d :: rest => Ascii.ofDigits? 8 (d :: rest)
  | cs => Ascii.ofDigits? 10 cs

/-- The parts between full stops; one full stop at the end does not count. -/
def addressParts (host : List Char) : List (List Char) :=
  let parts := host.splitOn '.'
  if parts.length > 1 && parts.getLast? == some [] then parts.dropLast else parts

/-- A host whose last part is a number has to be an address of four bytes. -/
def endsInNumber (host : List Char) : Bool :=
  match (addressParts host).getLast? with
  | some last => (!last.isEmpty && last.all Char.isDigit) || (number? last).isSome
  | none => false

/-- The value of bytes and a last number that stands for all bytes left. -/
def joinBytes? : List Nat → Nat → Option (List Nat)
  | [], _ => none
  | [n], left =>
    if n < Nat.pow 256 left then some ((List.range left).reverse.map fun i => n / Nat.pow 256 i % 256) else none
  | n :: rest, left => if n > 255 then none else (joinBytes? rest (left - 1)).map (n :: ·)

def ipv4? (host : List Char) : Option Ipv4 :=
  let parts := addressParts host
  if parts.length > 4 then none
  else (parts.mapM number?).bind fun ns => (joinBytes? ns 4).map Ipv4.mk

/-- The groups read so far, before and after the two colons that stand for a run of zeros. -/
structure Groups where
  front : List Nat := []
  back : Option (List Nat) := none
  deriving DecidableEq, Repr

namespace Groups

/-- The places that are taken; a run of zeros takes at least one. -/
def count (g : Groups) : Nat :=
  g.front.length + (g.back.map (·.length + 1)).getD 0

def push (g : Groups) (n : Nat) : Groups :=
  match g.back with
  | none => { g with front := g.front ++ [n] }
  | some back => { g with back := some (back ++ [n]) }

def open? (g : Groups) : Option Groups :=
  if g.back.isSome then none else some { g with back := some [] }

def close? (g : Groups) : Option Ipv6 :=
  match g.back with
  | none => if g.front.length = 8 then some ⟨g.front⟩ else none
  | some back => some ⟨g.front ++ List.replicate (8 - g.front.length - back.length) 0 ++ back⟩

end Groups

/-- The last two groups as four bytes with full stops between them. -/
def mixed? (cs : List Char) : Option (Nat × Nat) :=
  match Ipv4.read? cs with
  | some (⟨[a, b, c, d]⟩, []) => some (256 * a + b, 256 * c + d)
  | _ => none

/-- Reads groups, each of up to four digits. -/
def readGroups? : Nat → Groups → List Char → Option Groups
  | 0, _, _ => none
  | _ + 1, g, [] => some g
  | fuel + 1, g, ':' :: rest => if g.count ≥ 8 then none else (g.open?).bind (readGroups? fuel · rest)
  | fuel + 1, g, cs =>
    let digits := (cs.take 4).takeWhile Ascii.isHex
    let value := (Ascii.ofDigits? 16 digits).getD 0
    if g.count ≥ 8 then none
    else
      match cs.drop digits.length with
      | [] => some (g.push value)
      | '.' :: _ =>
        if g.count > 6 || digits.isEmpty then none
        else (mixed? cs).map fun (x, y) => (g.push x).push y
      | ':' :: rest => if rest.isEmpty then none else readGroups? fuel (g.push value) rest
      | _ => none

/-- An address of eight groups. A colon at its start has to be one of two. -/
def ipv6? (cs : List Char) : Option Ipv6 :=
  if cs.length < 2 then none
  else
    let read := fun (g : Groups) rest => (readGroups? (cs.length + 1) g rest).bind Groups.close?
    match cs with
    | ':' :: ':' :: rest => read { back := some [] } rest
    | ':' :: _ => none
    | cs => read {} cs

end Portcullis.Url
