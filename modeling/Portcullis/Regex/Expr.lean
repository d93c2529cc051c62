import Portcullis.Unicode.CharSet

/-! Expressions: what patterns mean, with all flags resolved. -/
namespace Portcullis.Regex

/-- Conditions on a position between bytes. -/
inductive Look where
  | start
  | finish
  | lineStart
  | lineEnd
  | crlfStart
  | crlfEnd
  | wordEdge (unicode : Bool)
  | noWordEdge (unicode : Bool)
  | wordStart (unicode : Bool)
  | wordEnd (unicode : Bool)
  | wordStartHalf (unicode : Bool)
  | wordEndHalf (unicode : Bool)
  deriving DecidableEq, Repr

/-- A regular expression over bytes. `scalar` takes the UTF-8 form of one member of its set, `byte` one
byte. Alternatives and repetitions prefer their first way to match. -/
inductive Expr where
  | empty
  | literal (bs : Bytes)
  | scalar (set : CharSet)
  | byte (set : CharSet)
  | look (l : Look)
  | capture (index : Nat) (name : Option String) (body : Expr)
  | repeated (min : Nat) (max : Option Nat) (greedy : Bool) (body : Expr)
  | cat (first second : Expr)
  | alt (first second : Expr)
  deriving DecidableEq, Repr, Inhabited

namespace Expr

/-- The expression that matches nowhere. -/
def never : Expr :=
  .scalar {}

/-- No match takes any byte. -/
def isWidthless : Expr → Bool
  | .empty => true
  | .look _ => true
  | .literal bs => bs.isEmpty
  | .scalar _ => false
  | .byte _ => false
  | .capture _ _ body => body.isWidthless
  | .repeated _ _ _ body => body.isWidthless
  | .cat a b => a.isWidthless && b.isWidthless
  | .alt a b => a.isWidthless && b.isWidthless

/-- Every match takes at least one byte. -/
def isProgressive : Expr → Bool
  | .empty => false
  | .look _ => false
  | .literal bs => !bs.isEmpty
  | .scalar _ => true
  | .byte _ => true
  | .capture _ _ body => body.isProgressive
  | .repeated min _ _ body => min > 0 && body.isProgressive
  | .cat a b => a.isProgressive || b.isProgressive
  | .alt a b => a.isProgressive && b.isProgressive

def units : Expr → List Expr
  | .empty => []
  | .cat a b => a.units ++ b.units
  | e => [e]

def branches : Expr → List Expr
  | .alt a b => a.branches ++ b.branches
  | e => [e]

def ofUnits : List Expr → Expr
  | [] => .empty
  | [e] => e
  | e :: rest => .cat e (ofUnits rest)

def ofBranches : List Expr → Expr
  | [] => never
  | [e] => e
  | e :: rest => .alt e (ofBranches rest)

/-- Joins literals that follow one another. -/
def joinLiterals : List Expr → List Expr
  | [] => []
  | .literal bs :: rest =>
    match joinLiterals rest with
    | .literal cs :: more => .literal (bs ++ cs) :: more
    | more => .literal bs :: more
  | e :: rest => e :: joinLiterals rest

def concat (es : List Expr) : Expr :=
  ofUnits (joinLiterals (es.flatMap units))

/-- A set of scalar values; one with a single member is a literal. -/
def ofScalars (s : CharSet) : Expr :=
  match s.only? with
  | some n => .literal (String.utf8EncodeChar (Char.ofNat n))
  | none => .scalar s

/-- A set of bytes; one with a single member is a literal. -/
def ofBytes (s : CharSet) : Expr :=
  match s.only? with
  | some n => .literal [UInt8.ofNat n]
  | none => .byte s

/-- The scalar values that an expression for one of them takes. -/
def asScalars? : Expr → Option CharSet
  | .literal bs =>
    match Utf8.decode? bs with
    | some [c] => some (.single c.toNat)
    | _ => none
  | .scalar s => some s
  | .byte s => if s.isBelow 0x80 then some s else none
  | _ => none

/-- The bytes that an expression for one of them takes. -/
def asBytes? : Expr → Option CharSet
  | .literal [b] => some (.single b.toNat)
  | .scalar s => if s.isBelow 0x80 then some s else none
  | .byte s => some s
  | _ => none

/-- What all lists begin with. -/
def commonPrefix : List (List Expr) → List Expr
  | [] => []
  | [l] => l
  | l :: rest => ((l.zip (commonPrefix rest)).takeWhile fun p => p.1 == p.2).map (·.1)

/-- One set for alternatives that take one character each, or one byte each. -/
def ofSets? (es : List Expr) : Option Expr :=
  let union := fun (sets : List CharSet) => CharSet.ofRanges (sets.flatMap (·.ranges))
  ((es.mapM asScalars?).map fun sets => ofScalars (union sets))
    <|> ((es.mapM asBytes?).map fun sets => ofBytes (union sets))

/-- Alternatives with their order kept; those for one character each are one set. -/
def oneOf (es : List Expr) : Expr :=
  match es with
  | [] => never
  | [e] => e
  | _ => (ofSets? es).getD (ofBranches es)

/-- Alternatives. A common beginning of sequences stands before the choice, which then is made later. -/
def choice (es : List Expr) : Expr :=
  let bs := es.flatMap branches
  let lists := bs.map units
  let shared := if bs.length > 1 ∧ lists.all (·.length > 1) then commonPrefix lists else []
  if shared.isEmpty then oneOf bs
  else concat (shared ++ [oneOf ((lists.map fun l => concat (l.drop shared.length)).flatMap branches)])

/-- A repetition. What takes no byte need not be tried twice. -/
def repeats (min : Nat) (max : Option Nat) (greedy : Bool) (e : Expr) : Expr :=
  let (min, max) := if e.isWidthless then (Nat.min min 1, some ((max.map (Nat.min · 1)).getD 1)) else (min, max)
  if max = some 0 then .empty
  else if min = 1 ∧ max = some 1 then e
  else .repeated min max greedy e

end Expr

end Portcullis.Regex
