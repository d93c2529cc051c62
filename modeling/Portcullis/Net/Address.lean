import Portcullis.Text.Ascii

/-! Internet addresses: their values, the strict notation for them, and how they are written. -/
namespace Portcullis.Net

structure Ipv4 where
  bytes : List Nat
  deriving DecidableEq, Repr

structure Ipv6 where
  groups : List Nat
  deriving DecidableEq, Repr

/-- Digits of a base, at most so many, and what follows them. -/
def readNumber? (base most : Nat) (cs : List Char) : Option (Nat × List Char) :=
  let isDigit := fun c => (Ascii.ofDigits? base [c]).isSome
  let digits := cs.takeWhile isDigit
  if digits.isEmpty || digits.length > most then none
  else (Ascii.ofDigits? base digits).map (·, cs.dropWhile isDigit)

/-- A byte in decimal, without leading zeros. -/
def readByte? (cs : List Char) : Option (Nat × List Char) :=
  match readNumber? 10 3 cs with
  | some (n, rest) =>
    if n > 255 || (cs.head? == some '0' && cs.length - rest.length > 1) then none else some (n, rest)
  | none => none

/-- What follows a given character. -/
def after? (c : Char) : List Char → Option (List Char)
  | d :: rest => if d == c then some rest else none
  | [] => none

namespace Ipv4

def read? (cs : List Char) : Option (Ipv4 × List Char) := do
  let (a, cs) ← readByte? cs
  let (b, cs) ← readByte? (← after? '.' cs)
  let (c, cs) ← readByte? (← after? '.' cs)
  let (d, cs) ← readByte? (← after? '.' cs)
  return (⟨[a, b, c, d]⟩, cs)

def toText (a : Ipv4) : String :=
  ".".intercalate (a.bytes.map toString)

end Ipv4

namespace Ipv6

/-- Groups with colons between them, up to a number of them, whether the last two were written as an
address of four bytes, and the rest. -/
def readGroups (isFirst : Bool) : Nat → List Char → List Nat × Bool × List Char
  | 0, cs => ([], false, cs)
  | n + 1, cs =>
    let here := if isFirst then some cs else after? ':' cs
    match here with
    | none => ([], false, cs)
    | some here =>
      match (if n = 0 then none else Ipv4.read? here) with
      | some (⟨[a, b, c, d]⟩, rest) => ([256 * a + b, 256 * c + d], true, rest)
      | _ =>
        match readNumber? 16 4 here with
        | none => ([], false, cs)
        | some (g, rest) =>
          let (more, isMixed, rest) := readGroups false n rest
          (g :: more, isMixed, rest)

/-- Eight groups; two colons stand for a run of zero groups. -/
def read? (cs : List Char) : Option (Ipv6 × List Char) :=
  let (front, isMixed, rest) := readGroups true 8 cs
  if front.length = 8 then some (⟨front⟩, rest)
  else if isMixed then none
  else
    match rest with
    | ':' :: ':' :: rest =>
      let (back, _, rest) := readGroups true (7 - front.length) rest
      some (⟨front ++ List.replicate (8 - front.length - back.length) 0 ++ back⟩, rest)
    | _ => none

/-- The longest run of zeros, the first of several: its start and its length. -/
def longestZeros (groups : List Nat) : Nat × Nat :=
  let runs := (List.range groups.length).map fun i => (i, ((groups.drop i).takeWhile (· == 0)).length)
  runs.foldl (fun best run => if run.2 > best.2 then run else best) (0, 0)

def groupText (g : Nat) : String :=
  String.ofList (Nat.toDigits 16 g)

/-- Lower-case groups, the longest run of at least two zeros left out; a mapped address keeps its four
bytes. -/
def toText (a : Ipv6) : String :=
  let join := fun (gs : List Nat) => ":".intercalate (gs.map groupText)
  match a.groups with
  | [0, 0, 0, 0, 0, 0xffff, x, y] => "::ffff:" ++ (Ipv4.mk [x / 256, x % 256, y / 256, y % 256]).toText
  | groups =>
    let (start, length) := longestZeros groups
    if length ≤ 1 then join groups
    else join (groups.take start) ++ "::" ++ join (groups.drop (start + length))

end Ipv6

inductive SocketAddress where
  | v4 (address : Ipv4) (port : Nat)
  | v6 (address : Ipv6) (scope port : Nat)
  deriving DecidableEq, Repr

namespace SocketAddress

def maxPort : Nat := 65535

def maxScope : Nat := 0xFFFFFFFF

/-- A colon and a port, and nothing after it. -/
def port? (cs : List Char) : Option Nat := do
  let cs ← after? ':' cs
  (Ascii.decimal? cs).filter (· ≤ maxPort)

/-- The number of a zone, if one is given and fits; otherwise nothing is read. -/
def readScope (cs : List Char) : Nat × List Char :=
  match (after? '%' cs).bind fun cs => readNumber? 10 cs.length cs with
  | some (n, rest) => if n ≤ maxScope then (n, rest) else (0, cs)
  | none => (0, cs)

def parse? (s : String) : Option SocketAddress :=
  match s.toList with
  | '[' :: cs => do
    let (a, cs) ← Ipv6.read? cs
    let (scope, cs) := readScope cs
    return .v6 a scope (← port? (← after? ']' cs))
  | cs => do
    let (a, cs) ← Ipv4.read? cs
    return .v4 a (← port? cs)

def toText : SocketAddress → String
  | .v4 a port => a.toText ++ ":" ++ toString port
  | .v6 a scope port =>
    "[" ++ a.toText ++ (if scope = 0 then "" else "%" ++ toString scope) ++ "]:" ++ toString port

end SocketAddress

end Portcullis.Net
