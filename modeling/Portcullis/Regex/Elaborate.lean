import Portcullis.Regex.Ast
import Portcullis.Regex.Expr
import Portcullis.Unicode.Lookup

/-! From patterns as written to expressions: flags, classes and case. -/
namespace Portcullis.Regex

/-- What a pattern is matched against. A pattern for text must not match part of a character. -/
inductive Subject where
  | text
  | bytes
  deriving DecidableEq, Repr

/-- The flags in force at a point of a pattern. -/
structure Flags where
  caseless : Bool := false
  multiline : Bool := false
  dotAll : Bool := false
  lazyFirst : Bool := false
  unicode : Bool := true
  crlf : Bool := false
  deriving DecidableEq, Repr

namespace Flags

def apply (f : Flags) (c : FlagChange) : Flags :=
  { caseless := (c.state? .caseless).getD f.caseless
    multiline := (c.state? .multiline).getD f.multiline
    dotAll := (c.state? .dotAll).getD f.dotAll
    lazyFirst := (c.state? .lazyFirst).getD f.lazyFirst
    unicode := (c.state? .unicode).getD f.unicode
    crlf := (c.state? .crlf).getD f.crlf }

def alphabet (f : Flags) : Alphabet :=
  if f.unicode then .scalars else .bytes

end Flags

/-- ASCII characters by the name of their class. -/
def asciiSet (name : String) : CharSet :=
  match name with
  | "alnum" => .ofRanges [(48, 57), (65, 90), (97, 122)]
  | "alpha" => .ofRanges [(65, 90), (97, 122)]
  | "ascii" => .range 0 127
  | "blank" => .ofRanges [(9, 9), (32, 32)]
  | "cntrl" => .ofRanges [(0, 31), (127, 127)]
  | "digit" => .range 48 57
  | "graph" => .range 33 126
  | "lower" => .range 97 122
  | "print" => .range 32 126
  | "punct" => .ofRanges [(33, 47), (58, 64), (91, 96), (123, 126)]
  | "space" => .ofRanges [(9, 13), (32, 32)]
  | "upper" => .range 65 90
  | "word" => .ofRanges [(48, 57), (65, 90), (95, 95), (97, 122)]
  | "xdigit" => .ofRanges [(48, 57), (65, 70), (97, 102)]
  | _ => {}

def shorthandSet (unicode : Bool) : Shorthand → CharSet
  | .digit => if unicode then Unicode.digits else asciiSet "digit"
  | .space => if unicode then Unicode.spaces else asciiSet "space"
  | .word => if unicode then Unicode.wordChars else asciiSet "word"

/-- A set of bytes with both cases of its ASCII letters. -/
def foldAscii (s : CharSet) : CharSet :=
  let letters := (List.range 26).filter fun i => s.contains (65 + i) || s.contains (97 + i)
  .ofRanges (s.ranges ++ letters.flatMap fun i => [(65 + i, 65 + i), (97 + i, 97 + i)])

namespace Flags

/-- The set with all cases of its members, if case does not count. -/
def fold (f : Flags) (s : CharSet) : CharSet :=
  if !f.caseless then s else if f.unicode then Unicode.fold s else foldAscii s

/-- Applies case and negation, in this order. In text a set of bytes must be one of ASCII. -/
def finish? (subject : Subject) (f : Flags) (negated : Bool) (s : CharSet) : Option CharSet :=
  let s := f.fold s
  let s := if negated then f.alphabet.compl s else s
  if !f.unicode && subject == .text && !s.isBelow 0x80 then none else some s

/-- What a literal means outside of Unicode mode: a raw byte, which text does not have, or a
character. -/
def rawByte? (subject : Subject) (f : Flags) (l : Literal) : Option (Option Nat) :=
  if !f.unicode && l.byteForm && l.char.toNat ≥ 0x80 then
    if subject == .text then none else some (some l.char.toNat)
  else some none

/-- The member of a class that a literal writes. -/
def member? (subject : Subject) (f : Flags) (l : Literal) : Option Nat := do
  match ← f.rawByte? subject l with
  | some b => some b
  | none => if f.unicode || l.char.toNat < 0x80 then some l.char.toNat else none

/-- A set that was given by the name of a property. -/
def property? (f : Flags) (name : String) (value : Option String) : Option CharSet :=
  if !f.unicode then none
  else
    match value with
    | some v => Unicode.valued? name v
    | none => Unicode.named? name

mutual

/-- The set that a part of a class means. -/
def classSet? (subject : Subject) (f : Flags) : ClassItem → Option CharSet
  | .empty => some {}
  | .literal l => (f.member? subject l).map .single
  | .range a b => do
    let lo ← f.member? subject a
    let hi ← f.member? subject b
    return .range lo hi
  | .ascii negated name => f.finish? subject negated (asciiSet name)
  | .shorthand negated kind =>
    let s := shorthandSet f.unicode kind
    let s := if negated then f.alphabet.compl s else s
    if !f.unicode && subject == .text && !s.isBelow 0x80 then none else some s
  | .property negated name value => do
    f.finish? subject negated (← f.property? name value)
  | .bracketed negated body => do
    f.finish? subject negated (← classSet? subject f body)
  | .union items => (unionRanges? subject f items).map CharSet.ofRanges
  | .binary op left right => do
    let l := f.fold (← classSet? subject f left)
    let r := f.fold (← classSet? subject f right)
    return match op with
      | .inter => f.alphabet.inter l r
      | .diff => f.alphabet.diff l r
      | .symmDiff => f.alphabet.symmDiff l r

def unionRanges? (subject : Subject) (f : Flags) : List ClassItem → Option (List (Nat × Nat))
  | [] => some []
  | c :: rest => do
    let s ← classSet? subject f c
    return s.ranges ++ (← unionRanges? subject f rest)

end

/-- An expression for one member of a set. -/
def ofSet (f : Flags) (s : CharSet) : Expr :=
  if f.unicode then Expr.ofScalars s else Expr.ofBytes s

def literal? (subject : Subject) (f : Flags) (l : Literal) : Option Expr := do
  match ← f.rawByte? subject l with
  | some b => some (.literal [UInt8.ofNat b])
  | none =>
    let n := l.char.toNat
    let plain := Expr.literal (String.utf8EncodeChar l.char)
    if !f.caseless then some plain
    else if f.unicode then some (if Unicode.hasCase n then .ofScalars (Unicode.fold (.single n)) else plain)
    else some (if l.char.isAlpha then .ofBytes (foldAscii (.single n)) else plain)

/-- The full stop takes any character but a line break. -/
def dot? (subject : Subject) (f : Flags) : Option Expr :=
  if !f.unicode && subject == .text then none
  else
    let excluded : CharSet := if f.dotAll then {} else if f.crlf then .ofRanges [(10, 10), (13, 13)] else .single 10
    some (f.ofSet (f.alphabet.compl excluded))

def look (f : Flags) : Anchor → Look
  | .lineStart => if !f.multiline then .start else if f.crlf then .crlfStart else .lineStart
  | .lineEnd => if !f.multiline then .finish else if f.crlf then .crlfEnd else .lineEnd
  | .textStart => .start
  | .textEnd => .finish
  | .wordEdge => .wordEdge f.unicode
  | .noWordEdge => .noWordEdge f.unicode
  | .wordStart => .wordStart f.unicode
  | .wordEnd => .wordEnd f.unicode
  | .wordStartHalf => .wordStartHalf f.unicode
  | .wordEndHalf => .wordEndHalf f.unicode

mutual

/-- The expression that a pattern means, and the flags behind it. A change of flags holds to the end
of the group, also in later alternatives. -/
def expr? (subject : Subject) (f : Flags) : Ast → Option (Expr × Flags)
  | .empty => some (.empty, f)
  | .flags change => some (.empty, f.apply change)
  | .literal l => (f.literal? subject l).map (·, f)
  | .dot => (f.dot? subject).map (·, f)
  | .anchor a => some (.look (f.look a), f)
  | .cls c => (f.classSet? subject c).map fun s => (f.ofSet s, f)
  | .bracketed c => (f.classSet? subject c).map fun s => (f.ofSet s, f)
  | .group (.capture index name) body =>
    (expr? subject f body).map fun (e, _) => (.capture index name e, f)
  | .group (.plain change) body => (expr? subject (f.apply change) body).map fun (e, _) => (e, f)
  | .repeated min max greedy body =>
    (expr? subject f body).map fun (e, f) => (.repeats min max (greedy != f.lazyFirst) e, f)
  | .concat items => (exprs? subject f items).map fun (es, f) => (.concat es, f)
  | .alt branches => (exprs? subject f branches).map fun (es, f) => (.choice es, f)

def exprs? (subject : Subject) (f : Flags) : List Ast → Option (List Expr × Flags)
  | [] => some ([], f)
  | a :: rest => do
    let (e, f) ← expr? subject f a
    let (es, f) ← exprs? subject f rest
    return (e :: es, f)

end

end Flags

def Ast.expr? (subject : Subject) (a : Ast) : Option Expr :=
  (Flags.expr? subject {} a).map (·.1)

end Portcullis.Regex
