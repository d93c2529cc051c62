import Portcullis.Document.Yaml.Cursor
import Portcullis.Document.Datum

/-! Scalars of a YAML stream: plain, quoted and in blocks, with their lines folded. -/
namespace Portcullis.Document.Yaml

/-- Blanks and breaks between two parts of a scalar: blanks on the line, the first break, and those
behind it. -/
structure Gap where
  blanks : List Char := []
  first : List Char := []
  more : List Char := []
  broken : Bool := false

namespace Gap

/-- What the gap becomes. One line feed is a space, and of several the first is dropped. -/
def folded (g : Gap) : List Char :=
  if !g.broken then g.blanks
  else if g.first == ['\n'] then (if g.more.isEmpty then [' '] else g.more)
  else g.first ++ g.more

def push (g : Gap) (b : List Char) : Gap :=
  if g.broken then { g with more := g.more ++ b } else { g with blanks := [], first := b, broken := true }

end Gap

/-- Reads a gap. In a plain scalar a tab must not stand in the indentation of a line. -/
def gap? (tabLimit : Nat) : Nat → Gap → Cursor → Option (Gap × Cursor)
  | 0, _, _ => none
  | fuel + 1, g, c =>
    match c.peek? with
    | none => some (g, c)
    | some d =>
      if isBlank d then
        if g.broken && d == '\t' && c.column < tabLimit then none
        else gap? tabLimit fuel (if g.broken then g else { g with blanks := g.blanks ++ [d] }) c.skip
      else if isBreak d then
        let (b, c) := c.takeBreak
        gap? tabLimit fuel (g.push b) c
      else some (g, c)

def isFlowMark (c : Char) : Bool :=
  c == ',' || c == '[' || c == ']' || c == '{' || c == '}'

/-- The characters of a plain scalar up to a blank, a break or what ends it. In a flow, a colon must
not stand before a mark of the flow. -/
def plainRun? (flow : Bool) : Nat → List Char → Cursor → Option (List Char × Cursor)
  | 0, _, _ => none
  | fuel + 1, acc, c =>
    match c.peek? with
    | none => some (acc.reverse, c)
    | some d =>
      if c.endsAt then some (acc.reverse, c)
      else if flow && d == ':' && c.sees (fun e => isFlowMark e || e == '?') 1 then none
      else if (d == ':' && c.endsAt 1) || (flow && isFlowMark d) then some (acc.reverse, c)
      else plainRun? flow fuel (d :: acc) c.skip

/-- Reads a plain scalar on lines that are indented by at least `indent`; `acc` holds what was read,
latest first. The flag tells that it ended behind a break. -/
def plain? (flow : Bool) (indent : Nat) : Nat → List Char → Gap → Cursor →
    Option (List Char × Bool × Cursor)
  | 0, _, _, _ => none
  | fuel + 1, acc, g, c =>
    if c.atDocumentMark || c.sees (· == '#') then some (acc.reverse, g.broken, c)
    else
      match plainRun? flow (fuel + 1) [] c with
      | none => none
      | some (run, c) =>
        let (acc, g) := if run.isEmpty then (acc, g) else (run.reverseAux (g.folded.reverseAux acc), {})
        if c.atEnd || !c.endsAt then some (acc.reverse, g.broken, c)
        else
          match gap? indent (fuel + 1) g c with
          | none => none
          | some (g, c) =>
            if !flow && c.column < indent then some (acc.reverse, g.broken, c)
            else plain? flow indent fuel acc g c

def simpleEscape? : Char → Option Char
  | '0' => some '\x00'
  | 'a' => some '\x07'
  | 'b' => some '\x08'
  | 't' => some '\t'
  | '\t' => some '\t'
  | 'n' => some '\n'
  | 'v' => some '\x0b'
  | 'f' => some '\x0c'
  | 'r' => some '\r'
  | 'e' => some '\x1b'
  | ' ' => some ' '
  | '"' => some '"'
  | '/' => some '/'
  | '\\' => some '\\'
  | 'N' => some '\u0085'
  | '_' => some '\u00a0'
  | 'L' => some '\u2028'
  | 'P' => some '\u2029'
  | _ => none

def escapeDigits? : Char → Option Nat
  | 'x' => some 2
  | 'u' => some 4
  | 'U' => some 8
  | _ => none

def escape? (c : Cursor) : Option (Char × Cursor) := do
  let d ← c.peek?
  match escapeDigits? d with
  | none => return (← simpleEscape? d, c.skip)
  | some n =>
    let digits := (c.rest.drop 1).take n
    if digits.length ≠ n then none
    else
      let v ← Ascii.ofDigits? 16 digits
      if v > 0x10FFFF ∨ (0xD800 ≤ v ∧ v ≤ 0xDFFF) then none
      else return (Char.ofNat v, c.skip (n + 1))

/-- The characters of a quoted scalar up to a blank, a break or the closing mark. The flag tells that
the run ended at an escaped break. -/
def quotedRun? (mark : Char) : Nat → List Char → Cursor → Option (List Char × Bool × Cursor)
  | 0, _, _ => none
  | fuel + 1, acc, c =>
    match c.peek? with
    | none => some (acc.reverse, false, c)
    | some d =>
      if c.endsAt then some (acc.reverse, false, c)
      else if mark == '\'' && d == '\'' && c.sees (· == '\'') 1 then
        quotedRun? mark fuel (d :: acc) (c.skip 2)
      else if d == mark then some (acc.reverse, false, c)
      else if mark == '"' && d == '\\' then
        if c.sees isBreak 1 then some (acc.reverse, true, c.skip.takeBreak.2)
        else
          match escape? c.skip with
          | some (e, c) => quotedRun? mark fuel (e :: acc) c
          | none => none
      else quotedRun? mark fuel (d :: acc) c.skip

/-- Reads a quoted scalar behind its opening mark; `acc` holds what was read, latest first. -/
def quoted? (mark : Char) : Nat → List Char → Cursor → Option (List Char × Cursor)
  | 0, _, _ => none
  | fuel + 1, acc, c =>
    if c.atDocumentMark || c.atEnd then none
    else
      match quotedRun? mark (fuel + 1) [] c with
      | none => none
      | some (run, escaped, c) =>
        let acc := run.reverseAux acc
        if c.sees (· == mark) then some (acc.reverse, c.skip)
        else
          match gap? 0 (fuel + 1) { broken := escaped } c with
          | none => none
          | some (g, c) => quoted? mark fuel (g.folded.reverseAux acc) c

/-- Which breaks at its end a block keeps. -/
inductive Chomp where
  | strip
  | clip
  | keep
  deriving DecidableEq

/-- Spaces and breaks before a line of a block. Without a set indentation it is found here: `deepest` is
the deepest column of the lines that hold only spaces. -/
def blockBreaks? (indent : Nat) : Nat → Nat → List Char → Cursor → Option (Nat × List Char × Cursor)
  | 0, _, _, _ => none
  | fuel + 1, deepest, acc, c =>
    let spaces := (c.rest.takeWhile (· == ' ')).length
    let c := c.skip (if indent = 0 then spaces else Nat.min spaces (indent - c.column))
    let deepest := Nat.max deepest c.column
    if (indent = 0 || c.column < indent) && c.sees (· == '\t') then none
    else if c.sees isBreak then
      let (b, c) := c.takeBreak
      blockBreaks? indent fuel deepest (acc ++ b) c
    else some (deepest, acc, c)

/-- The state between two lines of a block: the text so far, latest character first, the break behind it
and those that follow, and whether the line began with a blank. -/
structure BlockText where
  text : List Char := []
  first : List Char := []
  more : List Char := []
  blank : Bool := false

/-- Reads the lines of a block. Folding joins lines that do not begin with a blank. -/
def blockLines? (literal : Bool) (indent : Nat) : Nat → BlockText → Cursor → Option (BlockText × Cursor)
  | 0, _, _ => none
  | fuel + 1, b, c =>
    if c.column ≠ indent ∨ c.atEnd then some (b, c)
    else
      let blank := c.sees isBlank
      let joint :=
        if !literal && b.first == ['\n'] && !b.blank && !blank then
          (if b.more.isEmpty then [' '] else [])
        else b.first
      let (line, c) := c.takeWhile (!isBreak ·)
      let (first, c) := c.takeBreak
      match blockBreaks? indent (fuel + 1) 0 [] c with
      | none => none
      | some (_, more, c) =>
        let text := line.reverseAux (b.more.reverseAux (joint.reverseAux b.text))
        blockLines? literal indent fuel ⟨text, first, more, blank⟩ c

/-- The signs behind the mark of a block: what to keep, and by how much it is indented. -/
def blockHeader? (c : Cursor) : Option (Chomp × Nat × Cursor) :=
  let chomp? := fun (c : Cursor) =>
    if c.sees (· == '+') then some Chomp.keep else if c.sees (· == '-') then some Chomp.strip else none
  let digit? := fun (c : Cursor) => (c.peek?).bind fun d => if d.isDigit then some (d.toNat - 48) else none
  match chomp? c with
  | some k =>
    match digit? c.skip with
    | some 0 => none
    | some n => some (k, n, c.skip 2)
    | none => some (k, 0, c.skip)
  | none =>
    match digit? c with
    | some 0 => none
    | some n =>
      match chomp? c.skip with
      | some k => some (k, n, c.skip 2)
      | none => some (.clip, n, c.skip)
    | none => some (.clip, 0, c)

/-- Reads a block scalar behind its mark; `parent` is the indentation of what holds it, plus one. -/
def block? (literal : Bool) (parent : Nat) (c : Cursor) : Option (List Char × Cursor) := do
  let (chomp, extra, c) ← blockHeader? c
  let c := c.skipComment
  if !c.atLineEnd then none
  else
    let c := c.takeBreak.2
    let set := if extra = 0 then 0 else parent - 1 + extra
    let (deepest, more, c) ← blockBreaks? set (c.rest.length + 1) 0 [] c
    let indent := if set = 0 then Nat.max (Nat.max deepest parent) 1 else set
    let (b, c) ← blockLines? literal indent (c.rest.length + 1) { more := more } c
    let ending := match chomp with
      | .strip => []
      | .clip => b.first
      | .keep => b.first ++ b.more
    return (b.text.reverse ++ ending, c)

end Portcullis.Document.Yaml
