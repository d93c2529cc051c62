import Portcullis.Regex.Expr

/-! The memory that an expression takes once compiled, which is limited. It is estimated from the number of states of
the automaton that reads from the back, which is the larger one: an expression close to the limit can come out on the
other side of it. -/
namespace Portcullis.Regex

/-- The UTF-8 form of a scalar value as numbers. -/
def utf8Numbers (n : Nat) : List Nat :=
  if n < 0x80 then [n]
  else if n < 0x800 then [0xC0 + n / 64, 0x80 + n % 64]
  else if n < 0x10000 then [0xE0 + n / 4096, 0x80 + n / 64 % 64, 0x80 + n % 64]
  else [0xF0 + n / 262144, 0x80 + n / 4096 % 64, 0x80 + n / 64 % 64, 0x80 + n % 64]

/-- Where a range of scalar values has to be cut so that its UTF-8 forms are ranges byte by byte. -/
def cutPoint? (lo hi : Nat) : Option Nat :=
  let atLength := [0x7F, 0x7FF, 0xFFFF].find? fun m => lo ≤ m && m < hi
  let atByte := [0x40, 0x1000, 0x40000].findSome? fun m =>
    if hi < 0x80 || lo / m = hi / m then none
    else if lo % m ≠ 0 then some (lo / m * m + m - 1)
    else if hi % m ≠ m - 1 then some (hi / m * m - 1)
    else none
  atLength <|> atByte

/-- The ranges of bytes, byte by byte, of a range of scalar values. -/
def byteRanges : Nat → Nat → Nat → List (List (Nat × Nat))
  | 0, _, _ => []
  | fuel + 1, lo, hi =>
    match cutPoint? lo hi with
    | some m => byteRanges fuel lo m ++ byteRanges fuel (m + 1) hi
    | none => [(utf8Numbers lo).zip (utf8Numbers hi)]

/-- How many ranges two sequences begin with in common. -/
def sharedLength : List (Nat × Nat) → List (Nat × Nat) → Nat
  | a :: as, b :: bs => if a = b then sharedLength as bs + 1 else 0
  | _, _ => 0

/-- Branches of the tree that the sequences make up. -/
def treeSize : List (Nat × Nat) → List (List (Nat × Nat)) → Nat
  | _, [] => 0
  | previous, s :: rest => (s.length - sharedLength previous s) + treeSize s rest

/-- What a state takes, about. -/
def stateBytes : Nat := 32

def byteSetSize (s : CharSet) : Nat :=
  2 * stateBytes + 8 * s.ranges.length

def setSize (s : CharSet) : Nat :=
  if s.isBelow 0x80 then byteSetSize s
  else
    let sequences := s.ranges.flatMap fun r => byteRanges 64 r.1 r.2
    stateBytes * (treeSize [] sequences + 2) + 4 * sequences.length

def Expr.size : Expr → Nat
  | .empty => stateBytes
  | .literal bs => stateBytes * bs.length
  | .scalar s => setSize s
  | .byte s => byteSetSize s
  | .look _ => stateBytes
  | .capture _ _ body => 2 * stateBytes + body.size
  | .repeated min none _ body => Nat.max min 1 * body.size + 2 * stateBytes
  | .repeated min (some max) _ body => max * body.size + (max - min) * (stateBytes + 8) + stateBytes
  | .cat a b => a.size + b.size
  | .alt a b => a.size + b.size + stateBytes + 8

def maxSize : Nat := 10 * 1024 * 1024

end Portcullis.Regex
