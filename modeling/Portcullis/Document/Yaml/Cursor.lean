import Portcullis.Text.Ascii

/-! A place in a YAML stream, and the characters that its grammar tells apart. -/
namespace Portcullis.Document.Yaml

/-- Characters that a stream may hold. -/
def isAllowed (c : Char) : Bool :=
  let n := c.toNat
  n == 9 || n == 10 || n == 13 || (0x20 ≤ n && n ≤ 0x7E) || n == 0x85 || (0xA0 ≤ n && n ≤ 0xD7FF)
    || (0xE000 ≤ n && n ≤ 0xFFFD) || n ≥ 0x10000

def isBreak (c : Char) : Bool :=
  c == '\n' || c == '\r' || c == '\u0085' || c == '\u2028' || c == '\u2029'

def isBlank (c : Char) : Bool :=
  c == ' ' || c == '\t'

/-- Characters of anchors, handles and directive names. -/
def isWord (c : Char) : Bool :=
  c.isAlphanum || c == '_' || c == '-'

/-- The rest of a stream and its place: characters before it, lines before it, and characters before
it on its line. -/
structure Cursor where
  rest : List Char
  index : Nat := 0
  line : Nat := 0
  column : Nat := 0

namespace Cursor

def peek? (c : Cursor) : Option Char :=
  c.rest.head?

def peekAt? (c : Cursor) (i : Nat) : Option Char :=
  c.rest[i]?

def atEnd (c : Cursor) : Bool :=
  c.rest.isEmpty

/-- The character at a distance satisfies `p`. -/
def sees (c : Cursor) (p : Char → Bool) (i : Nat := 0) : Bool :=
  (c.peekAt? i).any p

/-- The character at a distance is a blank, a break, or the end. -/
def endsAt (c : Cursor) (i : Nat := 0) : Bool :=
  (c.peekAt? i).all fun d => isBlank d || isBreak d

def atLineEnd (c : Cursor) : Bool :=
  (c.peek?).all isBreak

/-- Moves over characters that are no breaks. -/
def skip (c : Cursor) (n : Nat := 1) : Cursor :=
  { c with rest := c.rest.drop n, index := c.index + n, column := c.column + n }

/-- Moves over a line break, if there is one, and gives it: a line feed for all breaks but the two
Unicode separators. -/
def takeBreak (c : Cursor) : List Char × Cursor :=
  match c.rest with
  | '\r' :: '\n' :: rest => (['\n'], ⟨rest, c.index + 2, c.line + 1, 0⟩)
  | d :: rest =>
    if !isBreak d then ([], c)
    else
      let kept := if d == '\u2028' || d == '\u2029' then d else '\n'
      ([kept], ⟨rest, c.index + 1, c.line + 1, 0⟩)
  | [] => ([], c)

/-- Moves over the characters that satisfy `p`, none of which is a break, and gives them. -/
def takeWhile (c : Cursor) (p : Char → Bool) : List Char × Cursor :=
  let taken := c.rest.takeWhile p
  (taken, c.skip taken.length)

def skipWhile (c : Cursor) (p : Char → Bool) : Cursor :=
  (c.takeWhile p).2

/-- Moves over blanks and a comment. -/
def skipComment (c : Cursor) : Cursor :=
  let c := c.skipWhile isBlank
  if c.sees (· == '#') then c.skipWhile (!isBreak ·) else c

/-- A mark of three equal characters at the start of a line, with nothing right behind it. -/
def atMark (c : Cursor) (d : Char) : Bool :=
  c.column == 0 && c.rest.take 3 == [d, d, d] && c.endsAt 3

def atDocumentMark (c : Cursor) : Bool :=
  c.atMark '-' || c.atMark '.'

end Cursor

end Portcullis.Document.Yaml
