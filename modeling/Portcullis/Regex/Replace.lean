import Portcullis.Regex.Search
import Portcullis.Text.Ascii

/-! Replacing matches by a template that refers to groups. -/
namespace Portcullis.Regex

/-- A part of a template: text, or a group by number or by name. -/
inductive Piece where
  | text (s : List Char)
  | group (index : Nat)
  | named (name : String)
  deriving DecidableEq, Repr

def isReferenceChar (c : Char) : Bool :=
  c.isAlphanum || c == '_'

/-- A reference is a group number if it reads as one, else a name. -/
def reference (name : List Char) (signed : Bool) : Piece :=
  let digits := match name with
    | '+' :: rest => if signed then rest else name
    | _ => name
  match Ascii.decimal? digits with
  | some n => .group n
  | none => .named (String.ofList name)

/-- Cuts a template into pieces. Two dollar signs are one; a reference is the longest run of letters,
digits and low lines, or stands in braces; a dollar sign that refers to nothing is text. -/
def pieces : Nat → List Char → List Piece
  | 0, _ => []
  | fuel + 1, cs =>
    match cs with
    | [] => []
    | '$' :: '$' :: rest => .text ['$'] :: pieces fuel rest
    | '$' :: '\x7b' :: rest =>
      match rest.dropWhile (· != '\x7d') with
      | _ :: more => reference (rest.takeWhile (· != '\x7d')) true :: pieces fuel more
      | [] => .text ['$'] :: pieces fuel ('\x7b' :: rest)
    | '$' :: rest =>
      let name := rest.takeWhile isReferenceChar
      if name.isEmpty then .text ['$'] :: pieces fuel rest
      else reference name false :: pieces fuel (rest.dropWhile isReferenceChar)
    | c :: rest => .text [c] :: pieces fuel rest

def template (cs : List Char) : List Piece :=
  pieces (cs.length + 1) cs

/-- The named groups of an expression. -/
def Expr.names : Expr → List (String × Nat)
  | .capture i name body => (name.map (·, i)).toList ++ body.names
  | .repeated _ _ _ body => body.names
  | .cat a b => a.names ++ b.names
  | .alt a b => a.names ++ b.names
  | _ => []

/-- The bytes of a group of a match. Group 0 is the whole match; a group that took no part is empty. -/
def Match.group (m : Match) (h : Haystack) (i : Nat) : Bytes :=
  if i = 0 then h.slice m.start m.stop
  else
    match m.slots.find? (·.1 == 2 * i), m.slots.find? (·.1 == 2 * i + 1) with
    | some a, some b => h.slice a.2 b.2
    | _, _ => []

/-- What a template gives for a match. -/
def expand (names : List (String × Nat)) (h : Haystack) (m : Match) (ps : List Piece) : Bytes :=
  ps.flatMap fun p =>
    match p with
    | .text s => Utf8.encode s
    | .group i => m.group h i
    | .named n => ((names.find? (·.1 == n)).map fun e => m.group h e.2).getD []

/-- The text from a position on with each of the matches, given from left to right, replaced. -/
def substitute (names : List (String × Nat)) (ps : List Piece) (h : Haystack) : Nat → List Match → Bytes
  | i, [] => h.slice i h.size
  | i, m :: rest => h.slice i m.start ++ (expand names h m ps ++ substitute names ps h m.stop rest)

end Portcullis.Regex
