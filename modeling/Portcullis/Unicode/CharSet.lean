import Portcullis.Text.Ascii

/-! Sets of code points or bytes as sorted ranges. -/
namespace Portcullis

/-- A set of numbers: ranges with both ends, in ascending order and apart from each other. -/
structure CharSet where
  ranges : List (Nat × Nat) := []
  deriving DecidableEq, Repr, Inhabited

namespace CharSet

/-- Membership in ascending ranges. -/
def inRanges : List (Nat × Nat) → Nat → Bool
  | [], _ => false
  | (lo, hi) :: rest, n => if n < lo then false else if n ≤ hi then true else inRanges rest n

def contains (s : CharSet) (n : Nat) : Bool :=
  inRanges s.ranges n

/-- A range joined with those after it that it overlaps or touches. -/
def joinFrom (r : Nat × Nat) : List (Nat × Nat) → List (Nat × Nat)
  | [] => [r]
  | q :: rest => if q.1 ≤ r.2 + 1 then joinFrom (r.1, max r.2 q.2) rest else r :: joinFrom q rest

/-- Joins ranges, given by ascending lower ends, that overlap or touch. -/
def join : List (Nat × Nat) → List (Nat × Nat)
  | [] => []
  | r :: rest => joinFrom r rest

/-- The set of the numbers in any of the ranges. -/
def ofRanges (ranges : List (Nat × Nat)) : CharSet :=
  ⟨join (ranges.mergeSort fun a b => a.1 ≤ b.1)⟩

def single (n : Nat) : CharSet :=
  ⟨[(n, n)]⟩

def range (lo hi : Nat) : CharSet :=
  ⟨[(lo, hi)]⟩

def isEmpty (s : CharSet) : Bool :=
  s.ranges.isEmpty

def union (s t : CharSet) : CharSet :=
  ofRanges (s.ranges ++ t.ranges)

/-- The numbers from `start` to `top` that are in none of the ascending ranges. -/
def gaps (top : Nat) : Nat → List (Nat × Nat) → List (Nat × Nat)
  | start, [] => if start ≤ top then [(start, top)] else []
  | start, (lo, hi) :: rest =>
    if start < lo then (start, lo - 1) :: gaps top (hi + 1) rest else gaps top (max start (hi + 1)) rest

/-- The only member of a set that has just one. -/
def only? (s : CharSet) : Option Nat :=
  match s.ranges with
  | [(lo, hi)] => if lo = hi then some lo else none
  | _ => none

/-- No member is beyond the bound. -/
def isBelow (s : CharSet) (bound : Nat) : Bool :=
  s.ranges.all fun r => r.2 < bound

/-- A range such as `30-39`, or a single code point, in hexadecimal. -/
def rangeOfText? (cs : List Char) : Option (Nat × Nat) :=
  match cs.splitOn '-' with
  | [lo] => (Ascii.ofDigits? 16 lo).map fun n => (n, n)
  | [lo, hi] => (Ascii.ofDigits? 16 lo).bind fun m => (Ascii.ofDigits? 16 hi).map (m, ·)
  | _ => none

/-- Reads lines of ascending ranges separated by blanks. -/
def ofTable (lines : List String) : CharSet :=
  ⟨lines.flatMap fun s => (s.toList.splitOn ' ').filterMap rangeOfText?⟩

end CharSet

/-- What a set is complemented in. -/
inductive Alphabet where
  | scalars
  | bytes
  deriving DecidableEq, Repr

namespace Alphabet

def top : Alphabet → Nat
  | .scalars => 0x10FFFF
  | .bytes => 0xFF

/-- Numbers up to the top that are no members: surrogates are no scalar values. -/
def holes : Alphabet → List (Nat × Nat)
  | .scalars => [(0xD800, 0xDFFF)]
  | .bytes => []

def compl (a : Alphabet) (s : CharSet) : CharSet :=
  ⟨CharSet.gaps a.top 0 (CharSet.ofRanges (a.holes ++ s.ranges)).ranges⟩

def full (a : Alphabet) : CharSet :=
  a.compl {}

def inter (a : Alphabet) (s t : CharSet) : CharSet :=
  a.compl ((a.compl s).union (a.compl t))

def diff (a : Alphabet) (s t : CharSet) : CharSet :=
  a.inter s (a.compl t)

def symmDiff (a : Alphabet) (s t : CharSet) : CharSet :=
  a.diff (s.union t) (a.inter s t)

end Alphabet

end Portcullis
