/-! The shortest decimal that reads back as a given binary fraction of double precision. -/
namespace Portcullis.Decimal

/-- A positive number: a mantissa of 53 bits times a power of two. -/
structure Binary where
  mantissa : Nat
  exponent : Int
  deriving DecidableEq, Repr

/-- The quotient to the nearest whole number; a half goes to the even neighbour. -/
def divNearest (num den : Nat) : Nat :=
  let q := num / den
  let twice := 2 * (num % den)
  if twice > den || (twice == den && q % 2 == 1) then q + 1 else q

/-- `n` times a power of two, as a quotient. -/
def scale (num den : Nat) (power : Int) : Nat × Nat :=
  (num <<< power.toNat, den <<< (-power).toNat)

namespace Binary

def bits : Nat := 53

/-- No mantissa reaches it. -/
def limit : Nat := Nat.pow 2 bits

/-- The nearest value to a quotient of positive numbers. -/
def ofQuotient (num den : Nat) : Binary :=
  let guess := (num.log2 : Int) - den.log2 - bits
  let (n, d) := scale num den (-guess)
  let exponent := if n / d < limit then guess else guess + 1
  let (n, d) := scale num den (-exponent)
  let m := divNearest n d
  if m = limit then ⟨m / 2, exponent + 1⟩ else ⟨m, exponent⟩

def ofNat (n : Nat) : Binary :=
  ofQuotient n 1

def div (a b : Binary) : Binary :=
  let q := ofQuotient a.mantissa b.mantissa
  { q with exponent := q.exponent + a.exponent - b.exponent }

/-- A quarter of the distance to the next value is the unit of what reads back as `b`: all from `low` to
`high`, the ends only if the mantissa is even. -/
structure Neighbourhood where
  low : Nat
  value : Nat
  high : Nat
  closed : Bool

def neighbourhood (b : Binary) : Neighbourhood where
  low := 4 * b.mantissa - (if b.mantissa = limit / 2 then 1 else 2)
  value := 4 * b.mantissa
  high := 4 * b.mantissa + 2
  closed := b.mantissa % 2 == 0

end Binary

/-- A number of digits times a power of ten. -/
structure Digits where
  value : Nat
  exponent : Int
  deriving DecidableEq, Repr

/-- The multiple of a power of ten that reads back as `b` and lies closest to it, if there is one. -/
def onGrid? (b : Binary) (exponent : Int) : Option Digits :=
  let near := b.neighbourhood
  let (n, d) := scale 1 1 (b.exponent - 2)
  let n := n * Nat.pow 10 (-exponent).toNat
  let d := d * Nat.pow 10 exponent.toNat
  let readsBack := fun c =>
    (near.low * n < c * d && c * d < near.high * n)
      || (near.closed && (near.low * n == c * d || c * d == near.high * n))
  let below := near.value * n / d
  let isCloserBelow := 2 * (near.value * n % d) ≤ d
  match readsBack below, readsBack (below + 1) with
  | true, true => some ⟨if isCloserBelow then below else below + 1, exponent⟩
  | true, false => some ⟨below, exponent⟩
  | false, true => some ⟨below + 1, exponent⟩
  | false, false => none

/-- Looks for a multiple on ever finer grids, of which there are `steps`. -/
def search (b : Binary) : Nat → Int → Digits
  | 0, exponent => (onGrid? b exponent).getD ⟨0, exponent⟩
  | steps + 1, exponent => (onGrid? b exponent).getD (search b steps (exponent - 1))

/-- The exponent of the coarsest grid that can hold a point near `b`. -/
def coarsest (b : Binary) : Int :=
  let bits := b.exponent + Binary.bits
  if bits < 0 then bits / 4 + 1 else bits / 3 + 1

/-- The fewest digits that read back as `b`, and the nearest of those. The finest grid that may be needed
has seventeen digits. -/
def shortest (b : Binary) : Digits :=
  let bits := (b.exponent + Binary.bits).natAbs
  search b (bits / 3 + 25) (coarsest b)

/-- How numbers are written: without exponent between these places of the point. -/
structure PointStyle where
  least : Int
  most : Int

/-- A number always has a point or an exponent. -/
def Digits.text (d : Digits) (style : PointStyle) : String :=
  let cs := (toString d.value).toList
  let point := (cs.length : Int) + d.exponent
  let zeros := fun (n : Int) => List.replicate n.toNat '0'
  String.ofList <|
    if 0 ≤ d.exponent ∧ point ≤ style.most then cs ++ zeros d.exponent ++ ".0".toList
    else if 0 < point ∧ point ≤ style.most then cs.take point.toNat ++ '.' :: cs.drop point.toNat
    else if style.least < point ∧ point ≤ 0 then "0.".toList ++ zeros (-point) ++ cs
    else
      cs.take 1 ++ (if cs.length = 1 then [] else '.' :: cs.drop 1) ++ 'e' :: (toString (point - 1)).toList

end Portcullis.Decimal
