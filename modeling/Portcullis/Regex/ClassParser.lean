import Portcullis.Regex.Ast
import Portcullis.Text.Ascii
import Portcullis.Text.Blank

/-! Reading escapes and bracketed classes of a pattern. -/
namespace Portcullis.Regex

/-- Drops blanks and comments; the flag tells whether a comment is open. -/
def dropComments : Bool → List Char → List Char
  | _, [] => []
  | true, c :: rest => dropComments (c != '\n') rest
  | false, c :: rest =>
    if Text.isBlank c then dropComments false rest
    else if c == '#' then dropComments true rest
    else c :: rest

/-- What comes next: blanks and comments count for nothing when `verbose` is on. -/
def skip (verbose : Bool) (cs : List Char) : List Char :=
  if verbose then dropComments false cs else cs

/-- The next character without a move; behind a number sign the line is not skipped. -/
def peekBlank : List Char → Option Char
  | [] => none
  | c :: rest =>
    if Text.isBlank c then peekBlank rest
    else if c == '#' then (rest.find? (!Text.isBlank ·))
    else some c

def peek (verbose : Bool) (cs : List Char) : Option Char :=
  if verbose then peekBlank cs else cs.head?

/-- Characters that mean themselves only behind a backslash. -/
def isMeta (c : Char) : Bool :=
  "\\.+*?()|[]\x7b\x7d^$#&-~".toList.contains c

/-- Characters that may stand behind a backslash and then mean themselves. -/
def isEscapable (c : Char) : Bool :=
  isMeta c || (c.toNat < 0x80 && !c.isAlphanum && c != '<' && c != '>')

def scalar? (n : Nat) : Option Char :=
  if n ≤ 0x10FFFF ∧ ¬(0xD800 ≤ n ∧ n ≤ 0xDFFF) then some (Char.ofNat n) else none

/-- A fixed number of hexadecimal digits. -/
def hexDigits? (verbose : Bool) : Nat → Nat → List Char → Option (Nat × List Char)
  | 0, n, cs => some (n, cs)
  | _ + 1, _, [] => none
  | k + 1, n, c :: rest => do
    let d ← Ascii.hexValue? c
    hexDigits? verbose k (16 * n + d) (skip verbose rest)

/-- Hexadecimal digits up to a closing brace. -/
def hexBrace? (verbose : Bool) : Nat → Option Nat → List Char → Option (Nat × List Char)
  | 0, _, _ => none
  | fuel + 1, n, cs =>
    match skip verbose cs with
    | [] => none
    | '}' :: rest => n.map (·, skip verbose rest)
    | c :: rest => do
      let d ← Ascii.hexValue? c
      hexBrace? verbose fuel (some (16 * n.getD 0 + d)) rest

/-- A character by its number, behind the letter that announces so many digits. -/
def hexLiteral? (verbose : Bool) (digits : Nat) (cs : List Char) : Option (Literal × List Char) :=
  match skip verbose cs with
  | '{' :: rest => do
    let (n, rest) ← hexBrace? verbose (rest.length + 1) none rest
    return (⟨← scalar? n, false⟩, rest)
  | rest => do
    let (n, rest) ← hexDigits? verbose digits 0 rest
    return (⟨← scalar? n, digits == 2⟩, rest)

def braced? (verbose : Bool) : Nat → List Char → List Char → Option (List Char × List Char)
  | 0, _, _ => none
  | fuel + 1, acc, cs =>
    match skip verbose cs with
    | [] => none
    | '}' :: rest => some (acc.reverse, rest)
    | c :: rest => braced? verbose fuel (c :: acc) rest

/-- Cuts a property name from its value at the first `!=`. -/
def cutUnequal? : List Char → Option (List Char × List Char)
  | '!' :: '=' :: rest => some ([], rest)
  | c :: rest => (cutUnequal? rest).map fun (a, b) => (c :: a, b)
  | [] => none

/-- A property class from the text between its braces. -/
def propertyOfName (negated : Bool) (name : List Char) : ClassItem :=
  let valued := fun negated (p : List Char × List Char) =>
    ClassItem.property negated (String.ofList p.1) (some (String.ofList p.2))
  match cutUnequal? name with
  | some p => valued (!negated) p
  | none =>
    match Text.cut? (· == ':') name with
    | some p => valued negated p
    | none =>
      match Text.cut? (· == '=') name with
      | some p => valued negated p
      | none => .property negated (String.ofList name) none

/-- A property class behind its letter. -/
def property? (verbose negated : Bool) (cs : List Char) : Option (ClassItem × List Char) :=
  match skip verbose cs with
  | [] => none
  | '{' :: rest => do
    let (name, rest) ← braced? verbose (rest.length + 1) [] rest
    return (propertyOfName negated name, rest)
  | '\\' :: _ => none
  | c :: rest => some (.property negated (String.ofList [c]) none, skip verbose rest)

def edgeOfName? (name : List Char) : Option Anchor :=
  match String.ofList name with
  | "start" => some .wordStart
  | "end" => some .wordEnd
  | "start-half" => some .wordStartHalf
  | "end-half" => some .wordEndHalf
  | _ => none

def isEdgeChar (c : Char) : Bool :=
  c.isAlpha || c == '-'

def edgeName (verbose : Bool) : Nat → List Char → List Char → List Char × List Char
  | 0, acc, cs => (acc.reverse, cs)
  | fuel + 1, acc, cs =>
    match cs with
    | c :: rest =>
      if isEdgeChar c then edgeName verbose fuel (c :: acc) (skip verbose rest) else (acc.reverse, cs)
    | [] => (acc.reverse, [])

/-- A word edge behind its letter. A brace that no letter follows counts repetitions. -/
def wordEdge? (verbose : Bool) (cs : List Char) : Option (Anchor × List Char) :=
  match cs with
  | '{' :: rest =>
    match skip verbose rest with
    | [] => some (.wordEdge, cs)
    | c :: more =>
      if !isEdgeChar c then some (.wordEdge, cs)
      else
        let (name, rest) := edgeName verbose (more.length + 1) [] (c :: more)
        match rest with
        | '}' :: rest => (edgeOfName? name).map (·, rest)
        | _ => none
  | _ => some (.wordEdge, cs)

/-- What one escape or plain character stands for. -/
inductive Primitive where
  | literal (l : Literal)
  | item (c : ClassItem)
  | anchor (a : Anchor)

/-- Reads what follows a backslash. -/
def escape? (verbose : Bool) : List Char → Option (Primitive × List Char)
  | [] => none
  | c :: rest =>
    let hex := fun n => (hexLiteral? verbose n rest).map fun (l, rest) => (Primitive.literal l, rest)
    let short := fun negated kind => some (Primitive.item (.shorthand negated kind), rest)
    let control := fun d => some (Primitive.literal ⟨d, false⟩, rest)
    match c with
    | 'x' => hex 2
    | 'u' => hex 4
    | 'U' => hex 8
    | 'p' => (property? verbose false rest).map fun (p, rest) => (.item p, rest)
    | 'P' => (property? verbose true rest).map fun (p, rest) => (.item p, rest)
    | 'd' => short false .digit
    | 's' => short false .space
    | 'w' => short false .word
    | 'D' => short true .digit
    | 'S' => short true .space
    | 'W' => short true .word
    | 'a' => control '\x07'
    | 'f' => control '\x0c'
    | 't' => control '\t'
    | 'n' => control '\n'
    | 'r' => control '\r'
    | 'v' => control '\x0b'
    | 'A' => some (.anchor .textStart, rest)
    | 'z' => some (.anchor .textEnd, rest)
    | 'b' => (wordEdge? verbose rest).map fun (a, rest) => (.anchor a, rest)
    | 'B' => some (.anchor .noWordEdge, rest)
    | '<' => some (.anchor .wordStart, rest)
    | '>' => some (.anchor .wordEnd, rest)
    | c => if isEscapable c then some (.literal ⟨c, false⟩, rest) else none

def asciiNames : List String :=
  ["alnum", "alpha", "ascii", "blank", "cntrl", "digit", "graph", "lower", "print", "punct", "space",
    "upper", "word", "xdigit"]

/-- A named class such as `[:alpha:]`, behind its bracket. Anything else is no such class. -/
def asciiClass? : List Char → Option (ClassItem × List Char)
  | ':' :: rest =>
    let (negated, rest) := match rest with
      | '^' :: rest => (true, rest)
      | _ => (false, rest)
    let name := String.ofList (rest.takeWhile (· != ':'))
    match rest.dropWhile (· != ':') with
    | ':' :: ']' :: rest => if asciiNames.contains name then some (.ascii negated name, rest) else none
    | _ => none
  | _ => none

/-- A class under way: what was read of it, latest first, and an operator that waits for its right
side. -/
structure ClassLevel where
  negated : Bool
  pending : Option (SetOp × ClassItem) := none
  items : List ClassItem := []

/-- The set read so far. Operators bind from left to right and equally. -/
def ClassLevel.body (l : ClassLevel) : ClassItem :=
  let here := ClassItem.ofItems l.items.reverse
  match l.pending with
  | some (op, left) => .binary op left here
  | none => here

def ClassLevel.push (l : ClassLevel) (c : ClassItem) : ClassLevel :=
  { l with items := c :: l.items }

def ClassLevel.operate (l : ClassLevel) (op : SetOp) : ClassLevel :=
  { l with pending := some (op, l.body), items := [] }

/-- Hyphens at the start of a class mean themselves. -/
def leadingHyphens (verbose : Bool) : Nat → ClassLevel → List Char → Option (ClassLevel × List Char)
  | 0, _, _ => none
  | fuel + 1, l, cs =>
    match cs with
    | [] => none
    | '-' :: rest => leadingHyphens verbose fuel (l.push (.literal ⟨'-', false⟩)) (skip verbose rest)
    | _ => some (l, cs)

/-- Opens a class behind its bracket. A closing bracket that comes first means itself. -/
def openClass? (verbose : Bool) (cs : List Char) : Option (ClassLevel × List Char) :=
  let (negated, cs) := match skip verbose cs with
    | '^' :: rest => (true, skip verbose rest)
    | cs => (false, cs)
  match leadingHyphens verbose (cs.length + 1) ⟨negated, none, []⟩ cs with
  | none => none
  | some (l, cs) =>
    match l.items, cs with
    | [], ']' :: rest =>
      match skip verbose rest with
      | [] => none
      | rest => some (l.push (.literal ⟨']', false⟩), rest)
    | _, _ => some (l, cs)

def setOp? : Char → Option SetOp
  | '&' => some .inter
  | '-' => some .diff
  | '~' => some .symmDiff
  | _ => none

/-- One end of a range, or an item of its own. -/
def classPrimitive? (verbose : Bool) : List Char → Option (Primitive × List Char)
  | [] => none
  | '\\' :: rest => escape? verbose rest
  | c :: rest => some (.literal ⟨c, false⟩, rest)

/-- A single character, a class escape or a range. -/
def classItem? (verbose : Bool) (cs : List Char) : Option (ClassItem × List Char) := do
  let (first, rest) ← classPrimitive? verbose cs
  match skip verbose rest with
  | [] => none
  | c :: more =>
    let next := peek verbose more
    if c != '-' || next == some ']' || next == some '-' then
      match first with
      | .literal l => some (.literal l, c :: more)
      | .item i => some (i, c :: more)
      | .anchor _ => none
    else
      let (last, rest) ← classPrimitive? verbose (skip verbose more)
      match first, last with
      | .literal a, .literal b => if a.char ≤ b.char then some (.range a b, rest) else none
      | _, _ => none

/-- Reads a class to its end, given the classes around it, innermost first. -/
def classLoop? (verbose : Bool) : Nat → List ClassLevel → ClassLevel → List Char →
    Option (ClassItem × List Char)
  | 0, _, _, _ => none
  | fuel + 1, outer, l, cs =>
    match skip verbose cs with
    | [] => none
    | '[' :: rest =>
      match asciiClass? rest with
      | some (c, rest) => classLoop? verbose fuel outer (l.push c) rest
      | none =>
        match openClass? verbose rest with
        | some (inner, rest) => classLoop? verbose fuel (l :: outer) inner rest
        | none => none
    | ']' :: rest =>
      let closed := ClassItem.bracketed l.negated l.body
      match outer with
      | [] => some (closed, rest)
      | o :: outer => classLoop? verbose fuel outer (o.push closed) rest
    | c :: rest =>
      match setOp? c with
      | some op =>
        if rest.head? == some c then classLoop? verbose fuel outer (l.operate op) (rest.drop 1)
        else
          match classItem? verbose (c :: rest) with
          | some (item, rest) => classLoop? verbose fuel outer (l.push item) rest
          | none => none
      | none =>
        match classItem? verbose (c :: rest) with
        | some (item, rest) => classLoop? verbose fuel outer (l.push item) rest
        | none => none

/-- Reads a bracketed class behind its opening bracket. -/
def class? (verbose : Bool) (cs : List Char) : Option (ClassItem × List Char) := do
  let (l, rest) ← openClass? verbose cs
  classLoop? verbose (rest.length + 1) [] l rest

end Portcullis.Regex
