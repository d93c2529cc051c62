import Portcullis.Regex.Expr

/-! Programs for searching: expressions as instructions. -/
namespace Portcullis.Regex

/-- One instruction. All but jumps and splits go on to the next one. -/
inductive Inst where
  | scalar (set : CharSet)
  | byte (set : CharSet)
  | look (l : Look)
  | save (slot : Nat)
  | jump (target : Nat)
  | split (first second : Nat)
  | accept
  deriving DecidableEq, Repr, Inhabited

/-- Instructions that begin at an address. -/
abbrev Code := List Inst

namespace Code

/-- A split that prefers one of its targets. -/
def fork (preferFirst : Bool) (first second : Nat) : Inst :=
  if preferFirst then .split first second else .split second first

/-- Code one after another: `emit` gives the code for an address. -/
def times (emit : Nat → Code) : Nat → Nat → Code
  | 0, _ => []
  | n + 1, base =>
    let first := emit base
    first ++ times emit n (base + first.length)

/-- Optional code, each part inside the one before it: `size` is the length of a part. -/
def optional (emit : Nat → Code) (greedy : Bool) (size : Nat) : Nat → Nat → Code
  | 0, _ => []
  | n + 1, base =>
    fork greedy (base + 1) (base + (n + 1) * (size + 1))
      :: (emit (base + 1) ++ optional emit greedy size n (base + 1 + size))

/-- Code repeated without limit. What can match without a byte is tried once before the choice, so
that the first way to match is found. -/
def many (emit : Nat → Code) (progressive greedy : Bool) (base : Nat) : Code :=
  let body := emit (base + 1)
  let next := base + body.length + 2
  if progressive then fork greedy (base + 1) next :: (body ++ [.jump base])
  else fork greedy (base + 1) next :: (body ++ [fork greedy (base + 1) next])

/-- Code repeated at least once. -/
def onceOrMore (emit : Nat → Code) (greedy : Bool) (base : Nat) : Code :=
  let body := emit base
  body ++ [fork greedy base (base + body.length + 1)]

end Code

/-- The code of an expression at an address. -/
def Expr.code : Expr → Nat → Code
  | .empty, _ => []
  | .literal bs, _ => bs.map fun b => .byte (.single b.toNat)
  | .scalar s, _ => [.scalar s]
  | .byte s, _ => [.byte s]
  | .look l, _ => [.look l]
  | .capture i _ body, base => .save (2 * i) :: (body.code (base + 1) ++ [.save (2 * i + 1)])
  | .repeated 0 none greedy body, base => Code.many body.code body.isProgressive greedy base
  | .repeated (n + 1) none greedy body, base =>
    let first := Code.times body.code n base
    first ++ Code.onceOrMore body.code greedy (base + first.length)
  | .repeated min (some max) greedy body, base =>
    let first := Code.times body.code min base
    first ++ Code.optional body.code greedy (body.code 0).length (max - min) (base + first.length)
  | .cat a b, base =>
    let first := a.code base
    first ++ b.code (base + first.length)
  | .alt a b, base =>
    let first := a.code (base + 1)
    let other := base + first.length + 2
    let second := b.code other
    .split (base + 1) other :: (first ++ (.jump (other + second.length) :: second))

/-- The program of an expression: its code, and acceptance behind it. -/
def Expr.program (e : Expr) : Array Inst :=
  (e.code 0 ++ [Inst.accept]).toArray

end Portcullis.Regex
