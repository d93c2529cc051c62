import Portcullis.Text.Ascii

/-! Punycode: text beyond ASCII as a label of letters, digits and hyphens. -/
namespace Portcullis.Url.Punycode

/-- The value of a digit of base 36: letters first, then decimal digits. -/
def digitValue? (c : Char) : Option Nat :=
  if 'a' ≤ c ∧ c ≤ 'z' then some (c.toNat - 97)
  else if 'A' ≤ c ∧ c ≤ 'Z' then some (c.toNat - 65)
  else if c.isDigit then some (c.toNat - 22)
  else none

def digit (n : Nat) : Char :=
  if n < 26 then Char.ofNat (97 + n) else Char.ofNat (22 + n)

/-- The bounds of the threshold between digits that go on and a digit that ends a number. -/
def threshold (k bias : Nat) : Nat :=
  min (max (k - bias) 1) 26

/-- Brings a number into the range of the bias, with the steps this takes. -/
def settle : Nat → Nat → Nat → Nat
  | 0, k, delta => k + 36 * delta / (delta + 38)
  | fuel + 1, k, delta =>
    if delta > 455 then settle fuel (k + 36) (delta / 35) else k + 36 * delta / (delta + 38)

/-- The bias for the next number. -/
def adapt (delta count : Nat) (isFirst : Bool) : Nat :=
  let delta := if isFirst then delta / 700 else delta / 2
  settle 16 0 (delta + delta / count)

/-- Reads one number: the digits before the last have at least their threshold. -/
def readNumber? (bias : Nat) : Nat → Nat → Nat → List Nat → Option (Nat × List Nat)
  | _, _, _, [] => none
  | k, weight, sum, d :: rest =>
    let t := threshold k bias
    let sum := sum + d * weight
    if d < t then some (sum, rest) else readNumber? bias (k + 36) (weight * (36 - t)) sum rest

/-- Inserts a character for each number: a number says how far the pair of code point and place moves
on. -/
def insertAll : Nat → Nat → Nat → Nat → List Char → List Nat → Option (List Char)
  | 0, _, _, _, _, _ => none
  | _ + 1, _, _, _, out, [] => some out
  | fuel + 1, n, i, bias, out, digits =>
    match readNumber? bias 36 1 0 digits with
    | none => none
    | some (delta, rest) =>
      let count := out.length + 1
      let moved := i + delta
      let n := n + moved / count
      let place := moved % count
      if Nat.isValidChar n then
        let c := Char.ofNat n
        insertAll fuel n (place + 1) (adapt delta count (i == 0))
          (out.take place ++ c :: out.drop place) rest
      else none

/-- The text that a label stands for. What precedes the last hyphen is taken as it is. -/
def decode? (cs : List Char) : Option (List Char) :=
  let behind := (cs.reverse.takeWhile (· != '-')).reverse
  let plain := if cs.contains '-' then cs.take (cs.length - behind.length - 1) else []
  (behind.mapM digitValue?).bind fun digits => insertAll (digits.length + 1) 0x80 0 72 plain digits

def writeNumber (bias : Nat) : Nat → Nat → Nat → List Char
  | 0, _, q => [digit q]
  | fuel + 1, k, q =>
    let t := threshold k bias
    if q < t then [digit q]
    else digit (t + (q - t) % (36 - t)) :: writeNumber bias fuel (k + 36) ((q - t) / (36 - t))

/-- What was written so far, the distance since the last character written, and the bias. -/
structure Progress where
  out : List Char
  delta : Nat
  bias : Nat
  handled : Nat

/-- Passes over a text: each place of the code point `n` is written as a number. -/
def writePlaces (n basic : Nat) (p : Progress) (cs : List Char) : Progress :=
  cs.foldl (fun p c =>
    if c.toNat < n then { p with delta := p.delta + 1 }
    else if c.toNat = n then
      { out := p.out ++ writeNumber p.bias 16 36 p.delta
        delta := 0
        bias := adapt p.delta (p.handled + 1) (p.handled == basic)
        handled := p.handled + 1 }
    else p) p

/-- Writes the code points from `n` on, smallest first. -/
def writeFrom (basic : Nat) (cs : List Char) : Nat → Nat → Progress → List Char
  | 0, _, p => p.out
  | fuel + 1, n, p =>
    match ((cs.map Char.toNat).filter (n ≤ ·)).min? with
    | none => p.out
    | some m =>
      let p := writePlaces m basic { p with delta := p.delta + (m - n) * (p.handled + 1) } cs
      writeFrom basic cs fuel (m + 1) { p with delta := p.delta + 1 }

def encode (cs : List Char) : List Char :=
  let plain := cs.filter (·.toNat < 0x80)
  let start := if plain.isEmpty then [] else plain ++ ['-']
  writeFrom plain.length cs (cs.length + 1) 0x80 ⟨start, 0, 72, plain.length⟩

end Portcullis.Url.Punycode
