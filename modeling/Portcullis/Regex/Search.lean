import Portcullis.Regex.Program
import Portcullis.Unicode.Lookup
import Std.Data.HashSet

/-! Searching: running a program from one position after another. -/
namespace Portcullis.Regex

/-- What is searched. -/
structure Haystack where
  bytes : ByteArray

namespace Haystack

def ofBytes (bs : Bytes) : Haystack :=
  ⟨⟨bs.toArray⟩⟩

def size (h : Haystack) : Nat :=
  h.bytes.size

def slice (h : Haystack) (start stop : Nat) : Bytes :=
  (h.bytes.extract start stop).data.toList

def byte? (h : Haystack) (i : Nat) : Option UInt8 :=
  if hi : i < h.bytes.size then some h.bytes[i] else none

/-- Reads the bytes that a scalar value under way owes. -/
def complete? (h : Haystack) : Nat → Utf8.Partial → Nat → Option (Nat × Nat)
  | 0, p, i => some (p.code, i)
  | owed + 1, p, i => do
    let p ← p.push (← h.byte? i)
    h.complete? owed p (i + 1)

/-- The scalar value at a position, and the position behind it. -/
def scalarAt? (h : Haystack) (i : Nat) : Option (Nat × Nat) := do
  match Utf8.lead (← h.byte? i) with
  | .whole c => some (c.toNat, i + 1)
  | .more p => h.complete? p.owed p (i + 1)
  | .broken => none

/-- The scalar value that ends at a position. -/
def scalarBefore? (h : Haystack) (i : Nat) : Option Nat :=
  [1, 2, 3, 4].findSome? fun k =>
    if k ≤ i then
      match h.scalarAt? (i - k) with
      | some (c, e) => if e = i then some c else none
      | none => none
    else none

/-- A position between two scalar values, in text. -/
def isBoundary (h : Haystack) (i : Nat) : Bool :=
  match h.byte? i with
  | some b => b < 0x80 || b ≥ 0xC0
  | none => true

def isWordByte (b : UInt8) : Bool :=
  (Char.ofNat b.toNat).isAlphanum || b == 0x5F

/-- A word character ends at the position. -/
def wordBefore (h : Haystack) (unicode : Bool) (i : Nat) : Bool :=
  if unicode then (h.scalarBefore? i).any Unicode.wordChars.contains
  else i > 0 && (h.byte? (i - 1)).any isWordByte

/-- A word character begins at the position. -/
def wordAfter (h : Haystack) (unicode : Bool) (i : Nat) : Bool :=
  if unicode then (h.scalarAt? i).any fun p => Unicode.wordChars.contains p.1
  else (h.byte? i).any isWordByte

/-- The bytes before a position are not the end of a scalar value, though there are some. -/
def brokenBefore (h : Haystack) (unicode : Bool) (i : Nat) : Bool :=
  unicode && i > 0 && (h.scalarBefore? i).isNone

def brokenAfter (h : Haystack) (unicode : Bool) (i : Nat) : Bool :=
  unicode && i < h.size && (h.scalarAt? i).isNone

/-- Whether a condition holds at a position. What is said of the lack of a word character does not
hold beside broken bytes. -/
def holds (h : Haystack) (i : Nat) : Look → Bool
  | .start => i == 0
  | .finish => i == h.size
  | .lineStart => i == 0 || h.byte? (i - 1) == some 10
  | .lineEnd => i == h.size || h.byte? i == some 10
  | .crlfStart =>
    i == 0 || h.byte? (i - 1) == some 10 || (h.byte? (i - 1) == some 13 && h.byte? i != some 10)
  | .crlfEnd =>
    i == h.size || h.byte? i == some 13
      || (h.byte? i == some 10 && (i == 0 || h.byte? (i - 1) != some 13))
  | .wordEdge u => h.wordBefore u i != h.wordAfter u i
  | .noWordEdge u =>
    !h.brokenBefore u i && !h.brokenAfter u i && h.wordBefore u i == h.wordAfter u i
  | .wordStart u => !h.wordBefore u i && h.wordAfter u i
  | .wordEnd u => h.wordBefore u i && !h.wordAfter u i
  | .wordStartHalf u => !h.brokenBefore u i && !h.wordBefore u i
  | .wordEndHalf u => !h.brokenAfter u i && !h.wordAfter u i

end Haystack

/-- A place to go on from: an instruction, a position, and the slots saved on the way, latest
first. -/
structure Job where
  pc : Nat
  pos : Nat
  slots : List (Nat × Nat) := []

/-- The jobs that one instruction leaves, in order of preference. -/
def Inst.next (h : Haystack) (j : Job) : Inst → List Job
  | .scalar s =>
    match h.scalarAt? j.pos with
    | some (c, e) => if s.contains c then [{ j with pc := j.pc + 1, pos := e }] else []
    | none => []
  | .byte s =>
    match h.byte? j.pos with
    | some b => if s.contains b.toNat then [{ j with pc := j.pc + 1, pos := j.pos + 1 }] else []
    | none => []
  | .look l => if h.holds j.pos l then [{ j with pc := j.pc + 1 }] else []
  | .save k => [{ j with pc := j.pc + 1, slots := (k, j.pos) :: j.slots }]
  | .jump t => [{ j with pc := t }]
  | .split a b => [{ j with pc := a }, { j with pc := b }]
  | .accept => []

/-- Places that were tried, as one number each. -/
abbrev Tried := Std.HashSet Nat

/-- Works off jobs until one is accepted. A place is tried once: a second try fails like the first. -/
def explore (program : Array Inst) (h : Haystack) : Nat → List Job → Tried → Option Job × Tried
  | 0, _, tried => (none, tried)
  | _ + 1, [], tried => (none, tried)
  | fuel + 1, j :: rest, tried =>
    let place := j.pos * (program.size + 1) + j.pc
    if tried.contains place then explore program h fuel rest tried
    else
      match program[j.pc]? with
      | some .accept => (some j, tried)
      | some i => explore program h fuel (i.next h j ++ rest) (tried.insert place)
      | none => explore program h fuel rest tried

/-- Enough steps for every place: each leaves at most two jobs. -/
def steps (program : Array Inst) (h : Haystack) : Nat :=
  2 * (program.size + 1) * (h.size + 2) + 2

/-- A match: where it begins and ends, and its slots, latest first. -/
structure Match where
  start : Nat
  stop : Nat
  slots : List (Nat × Nat) := []
  deriving Repr

/-- Tries `count` positions one after another. In text only those between scalar values count. -/
def searchFrom (program : Array Inst) (text : Bool) (h : Haystack) : Nat → Nat → Tried → Option Match
  | 0, _, _ => none
  | count + 1, i, tried =>
    if text && !h.isBoundary i then searchFrom program text h count (i + 1) tried
    else
      match explore program h (steps program h) [⟨0, i, []⟩] tried with
      | (some j, _) => some ⟨i, j.pos, j.slots⟩
      | (none, tried) => searchFrom program text h count (i + 1) tried

/-- The first match that begins at the position or behind it. -/
def search (program : Array Inst) (text : Bool) (h : Haystack) (i : Nat) : Option Match :=
  searchFrom program text h (h.size + 1 - i) i {}

/-- Successive matches. An empty match right behind the one before it does not count; the search then
goes on one position further. -/
def matchesFrom (program : Array Inst) (text : Bool) (h : Haystack) : Nat → Nat → Option Nat → List Match
  | 0, _, _ => []
  | fuel + 1, i, last =>
    match search program text h i with
    | none => []
    | some m =>
      if m.start = m.stop ∧ last = some m.stop then
        match search program text h (i + 1) with
        | none => []
        | some m => m :: matchesFrom program text h fuel m.stop (some m.stop)
      else m :: matchesFrom program text h fuel m.stop (some m.stop)

/-- All matches from left to right that do not overlap. -/
def allMatches (program : Array Inst) (text : Bool) (h : Haystack) : List Match :=
  matchesFrom program text h (h.size + 2) 0 none

end Portcullis.Regex
