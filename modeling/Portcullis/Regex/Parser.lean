import Portcullis.Regex.ClassParser
import Portcullis.Unicode.Lookup

/-! Reading a pattern. -/
namespace Portcullis.Regex

/-- A sequence of alternatives under way, each part latest first. -/
structure Level where
  branches : List Ast := []
  items : List Ast := []

namespace Level

def body (l : Level) : Ast :=
  let last := Ast.ofItems l.items.reverse
  if l.branches.isEmpty then last else .alt (l.branches.reverse ++ [last])

def push (l : Level) (a : Ast) : Level :=
  { l with items := a :: l.items }

def alternate (l : Level) : Level :=
  ⟨Ast.ofItems l.items.reverse :: l.branches, []⟩

end Level

/-- An open group: what stands before it, its kind, and how blanks were read there. -/
structure OpenGroup where
  outer : Level
  wrap : Wrap
  verbose : Bool

/-- The state between two steps of the reader. -/
structure State where
  level : Level := {}
  groups : List OpenGroup := []
  verbose : Bool := false
  captures : Nat := 0
  names : List String := []

namespace State

def push (s : State) (a : Ast) : State :=
  { s with level := s.level.push a }

end State

def flag? : Char → Option Flag
  | 'i' => some .caseless
  | 'm' => some .multiline
  | 's' => some .dotAll
  | 'U' => some .lazyFirst
  | 'u' => some .unicode
  | 'R' => some .crlf
  | 'x' => some .verbose
  | _ => none

/-- Flags up to a colon or closing parenthesis, which stays. No flag may occur twice, and a hyphen
stands before at least one. -/
def flags? : FlagChange → Bool → Bool → List Char → Option (FlagChange × List Char)
  | _, _, _, [] => none
  | acc, negated, dangling, c :: rest =>
    if c == ':' || c == ')' then if dangling then none else some (acc.reverse, c :: rest)
    else if c == '-' then if negated then none else flags? acc true true rest
    else
      match flag? c with
      | some f => if acc.any (·.1 == f) then none else flags? ((f, !negated) :: acc) negated false rest
      | none => none

def isNameStart (c : Char) : Bool :=
  c == '_' || Unicode.letters.contains c.toNat

def isNameChar (c : Char) : Bool :=
  isNameStart c || Unicode.numerals.contains c.toNat || c == '.' || c == '[' || c == ']'

/-- The name of a group, up to a closing angle bracket. -/
def groupName? (cs : List Char) : Option (String × List Char) :=
  let name := cs.takeWhile (· != '>')
  match name, cs.dropWhile (· != '>') with
  | c :: more, _ :: rest =>
    if isNameStart c && more.all isNameChar then some (String.ofList name, rest) else none
  | _, _ => none

def State.openCapture (s : State) (name : Option String) : State :=
  let index := s.captures + 1
  { s with
    level := {}
    groups := ⟨s.level, .capture index name, s.verbose⟩ :: s.groups
    captures := index
    names := name.toList ++ s.names }

/-- Opens a group, or changes flags, behind an opening parenthesis. -/
def openGroup? (s : State) (cs : List Char) : Option (State × List Char) :=
  let named := fun rest => do
    let (name, rest) ← groupName? rest
    if s.names.contains name then none else some (s.openCapture (some name), rest)
  match skip s.verbose cs with
  | '?' :: '=' :: _ => none
  | '?' :: '!' :: _ => none
  | '?' :: '<' :: '=' :: _ => none
  | '?' :: '<' :: '!' :: _ => none
  | '?' :: 'P' :: '<' :: rest => named rest
  | '?' :: '<' :: rest => named rest
  | '?' :: rest => do
    let (change, rest) ← flags? [] false false rest
    let verbose := (change.state? .verbose).getD s.verbose
    match rest with
    | ')' :: rest =>
      if change.isEmpty then none else some ({ s with verbose := verbose }.push (.flags change), rest)
    | _ :: rest =>
      some ({ s with
        level := {}
        groups := ⟨s.level, .plain change, s.verbose⟩ :: s.groups
        verbose := verbose }, rest)
    | [] => none
  | rest => some (s.openCapture none, rest)

def State.close? (s : State) : Option State :=
  match s.groups with
  | [] => none
  | g :: groups =>
    some { s with
      level := g.outer.push (.group g.wrap s.level.body)
      groups := groups
      verbose := g.verbose }

/-- Repeats what was read last. Nothing, or a change of flags, cannot be repeated. -/
def State.repeat? (s : State) (min : Nat) (max : Option Nat) (greedy : Bool) : Option State :=
  match s.level.items with
  | [] => none
  | .empty :: _ => none
  | .flags _ :: _ => none
  | a :: rest => some { s with level := { s.level with items := .repeated min max greedy a :: rest } }

def countDigits (verbose : Bool) : Nat → List Char → List Char → List Char × List Char
  | 0, acc, cs => (acc.reverse, cs)
  | fuel + 1, acc, cs =>
    match cs with
    | c :: rest =>
      if c.isDigit then countDigits verbose fuel (c :: acc) (skip verbose rest) else (acc.reverse, cs)
    | [] => (acc.reverse, [])

def countBlanks (verbose : Bool) : Nat → List Char → List Char
  | 0, cs => cs
  | fuel + 1, cs =>
    match cs with
    | c :: rest => if Text.isBlank c then countBlanks verbose fuel (skip verbose rest) else cs
    | [] => []

def maxCount : Nat := 4294967295

/-- A count with blanks around it: `some none` if it has no digits. -/
def count? (verbose : Bool) (cs : List Char) : Option (Option Nat × List Char) :=
  let (digits, rest) := countDigits verbose (cs.length + 1) [] (cs.dropWhile Text.isBlank)
  let rest := countBlanks verbose (rest.length + 1) rest
  match Ascii.decimal? digits with
  | none => some (none, rest)
  | some n => if n ≤ maxCount then some (some n, rest) else none

/-- A question mark makes the repetition before it prefer few turns. -/
def lazyMark : List Char → Bool × List Char
  | '?' :: rest => (false, rest)
  | rest => (true, rest)

/-- A counted repetition behind its opening brace. -/
def counted? (s : State) (cs : List Char) : Option (State × List Char) := do
  let (low?, rest) ← count? s.verbose (skip s.verbose cs)
  let low ← low?
  let (high, rest) ← match rest with
    | ',' :: rest =>
      match skip s.verbose rest with
      | '}' :: rest => some (none, '}' :: rest)
      | rest => do
        let (high?, rest) ← count? s.verbose rest
        let high ← high?
        some (some high, rest)
    | rest => some (some low, rest)
  match rest with
  | '}' :: rest =>
    let (greedy, rest) := lazyMark (skip s.verbose rest)
    if high.all (low ≤ ·) then
      let s ← s.repeat? low high greedy
      some (s, rest)
    else none
  | _ => none

/-- An uncounted repetition behind its sign. -/
def uncounted? (s : State) (min : Nat) (max : Option Nat) (cs : List Char) : Option (State × List Char) :=
  let (greedy, rest) := lazyMark cs
  (s.repeat? min max greedy).map (·, rest)

/-- Reads one part of a pattern that begins with the given character. -/
def step? (s : State) (c : Char) (rest : List Char) : Option (State × List Char) :=
  match c with
  | '(' => openGroup? s rest
  | ')' => s.close?.map (·, rest)
  | '|' => some ({ s with level := s.level.alternate }, rest)
  | '[' => (class? s.verbose rest).map fun (c, rest) => (s.push (.bracketed c), rest)
  | '?' => uncounted? s 0 (some 1) rest
  | '*' => uncounted? s 0 none rest
  | '+' => uncounted? s 1 none rest
  | '{' => counted? s rest
  | '.' => some (s.push .dot, rest)
  | '^' => some (s.push (.anchor .lineStart), rest)
  | '$' => some (s.push (.anchor .lineEnd), rest)
  | '\\' =>
    (escape? s.verbose rest).map fun (p, rest) =>
      match p with
      | .literal l => (s.push (.literal l), rest)
      | .item i => (s.push (.cls i), rest)
      | .anchor a => (s.push (.anchor a), rest)
  | c => some (s.push (.literal ⟨c, false⟩), rest)

def run? : Nat → State → List Char → Option State
  | 0, _, _ => none
  | fuel + 1, s, cs =>
    match skip s.verbose cs with
    | [] => some s
    | c :: rest =>
      match step? s c rest with
      | some (s, rest) => run? fuel s rest
      | none => none

def maxDepth : Nat := 250

def parse? (cs : List Char) : Option Ast := do
  let s ← run? (cs.length + 1) {} cs
  if !s.groups.isEmpty then none
  else
    let ast := s.level.body
    if ast.depth ≤ maxDepth then some ast else none

end Portcullis.Regex
