import Portcullis.Text.Utf8

/-! Patterns as they are written. -/
namespace Portcullis.Regex

/-- Switches that a pattern can turn on and off. -/
inductive Flag where
  | caseless
  | multiline
  | dotAll
  | lazyFirst
  | unicode
  | crlf
  | verbose
  deriving DecidableEq, Repr

/-- Switches in the order they were written, each with its new state. -/
abbrev FlagChange := List (Flag × Bool)

def FlagChange.state? (c : FlagChange) (f : Flag) : Option Bool :=
  (c.find? (·.1 == f)).map (·.2)

inductive Anchor where
  | lineStart
  | lineEnd
  | textStart
  | textEnd
  | wordEdge
  | noWordEdge
  | wordStart
  | wordEnd
  | wordStartHalf
  | wordEndHalf
  deriving DecidableEq, Repr

/-- One character; `byteForm` if it was written as two hexadecimal digits. -/
structure Literal where
  char : Char
  byteForm : Bool := false
  deriving DecidableEq, Repr

inductive Shorthand where
  | digit
  | space
  | word
  deriving DecidableEq, Repr

inductive SetOp where
  | inter
  | diff
  | symmDiff
  deriving DecidableEq, Repr

/-- What can stand in a bracketed class. -/
inductive ClassItem where
  | empty
  | literal (l : Literal)
  | range (first last : Literal)
  | ascii (negated : Bool) (name : String)
  | shorthand (negated : Bool) (kind : Shorthand)
  | property (negated : Bool) (name : String) (value : Option String)
  | bracketed (negated : Bool) (body : ClassItem)
  | union (items : List ClassItem)
  | binary (op : SetOp) (left right : ClassItem)
  deriving Repr, Inhabited

/-- What a pair of parentheses is for. -/
inductive Wrap where
  | capture (index : Nat) (name : Option String)
  | plain (change : FlagChange)
  deriving DecidableEq, Repr

inductive Ast where
  | empty
  | flags (change : FlagChange)
  | literal (l : Literal)
  | dot
  | anchor (a : Anchor)
  | cls (c : ClassItem)
  | bracketed (c : ClassItem)
  | group (w : Wrap) (body : Ast)
  | repeated (min : Nat) (max : Option Nat) (greedy : Bool) (body : Ast)
  | concat (items : List Ast)
  | alt (branches : List Ast)
  deriving Repr, Inhabited

namespace ClassItem

def ofItems : List ClassItem → ClassItem
  | [] => .empty
  | [c] => c
  | items => .union items

mutual

/-- How deeply brackets, unions and operators are nested. -/
def depth : ClassItem → Nat
  | .bracketed _ body => body.depth + 1
  | .union items => depthOf items + 1
  | .binary _ left right => max left.depth right.depth + 1
  | _ => 0

def depthOf : List ClassItem → Nat
  | [] => 0
  | c :: rest => max c.depth (depthOf rest)

end

end ClassItem

namespace Ast

def ofItems : List Ast → Ast
  | [] => .empty
  | [a] => a
  | items => .concat items

mutual

/-- How deeply the parts of a pattern are nested. -/
def depth : Ast → Nat
  | .bracketed c => c.depth
  | .group _ body => body.depth + 1
  | .repeated _ _ _ body => body.depth + 1
  | .concat items => depthOf items + 1
  | .alt branches => depthOf branches + 1
  | _ => 0

def depthOf : List Ast → Nat
  | [] => 0
  | a :: rest => max a.depth (depthOf rest)

end

end Ast

end Portcullis.Regex
