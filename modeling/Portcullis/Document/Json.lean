import Portcullis.Document.Datum
import Portcullis.Text.Ascii

/-! JSON: reading and writing documents. -/
namespace Portcullis.Document.Json

/-- Blanks that may stand between the tokens of a document. -/
def isSpace (c : Char) : Bool :=
  c == ' ' || c == '\t' || c == '\n' || c == '\r'

def skip (cs : List Char) : List Char :=
  cs.dropWhile isSpace

/-- The value of four hexadecimal digits. -/
def unit? : List Char → Option (Nat × List Char)
  | a :: b :: c :: d :: rest => (Ascii.ofDigits? 16 [a, b, c, d]).map (·, rest)
  | _ => none

/-- The character behind a backslash and a `u`, which may take a second escape for its other half. -/
def escaped? (cs : List Char) : Option (Char × List Char) := do
  let (high, rest) ← unit? cs
  if high < 0xD800 ∨ 0xDFFF < high then return (Char.ofNat high, rest)
  else if 0xDC00 ≤ high then none
  else
    match rest with
    | '\\' :: 'u' :: rest => do
      let (low, rest) ← unit? rest
      if 0xDC00 ≤ low ∧ low ≤ 0xDFFF then
        return (Char.ofNat (0x10000 + (high - 0xD800) * 0x400 + (low - 0xDC00)), rest)
      else none
    | _ => none

/-- The contents of a string up to its closing quotation mark. -/
def string? : Nat → List Char → List Char → Option (List Char × List Char)
  | 0, _, _ => none
  | fuel + 1, acc, cs =>
    match cs with
    | '"' :: rest => some (acc.reverse, rest)
    | '\\' :: 'u' :: rest => do
      let (c, rest) ← escaped? rest
      string? fuel (c :: acc) rest
    | '\\' :: c :: rest =>
      let plain := match c with
        | '"' => some '"'
        | '\\' => some '\\'
        | '/' => some '/'
        | 'b' => some '\x08'
        | 'f' => some '\x0c'
        | 'n' => some '\n'
        | 'r' => some '\r'
        | 't' => some '\t'
        | _ => none
      plain.bind fun c => string? fuel (c :: acc) rest
    | c :: rest => if c.toNat < 0x20 then none else string? fuel (c :: acc) rest
    | [] => none

/-- An integer that fits into 64 bits. -/
def fits (n : Int) : Bool :=
  -9223372036854775808 ≤ n && n ≤ 18446744073709551615

/-- A number: an integer of 64 bits, or else a real that is not too large for a double. -/
def number? (cs : List Char) : Option (Datum × List Char) :=
  let (neg, rest) := match cs with
    | '-' :: rest => (true, rest)
    | _ => (false, cs)
  let whole := rest.takeWhile Char.isDigit
  let rest := rest.dropWhile Char.isDigit
  let frac? := match rest with
    | '.' :: rest => some (rest.takeWhile Char.isDigit, rest.dropWhile Char.isDigit)
    | _ => none
  let rest := (frac?.map (·.2)).getD rest
  let exp? := match rest with
    | e :: rest =>
      if e == 'e' || e == 'E' then
        let (sign, rest) := match rest with
          | '-' :: rest => (true, rest)
          | '+' :: rest => (false, rest)
          | _ => (false, rest)
        some (sign, rest.takeWhile Char.isDigit, rest.dropWhile Char.isDigit)
      else none
    | [] => none
  let rest := (exp?.map (·.2.2)).getD rest
  let written := String.ofList (cs.take (cs.length - rest.length))
  let sound := !whole.isEmpty && (whole.length == 1 || whole.head? != some '0')
    && (frac?.all fun f => !f.1.isEmpty) && exp?.all fun e => !e.2.1.isEmpty
  let magnitude := (Ascii.ofDigits? 10 whole).getD 0
  let value : Int := if neg then -magnitude else magnitude
  if !sound then none
  else if frac?.isNone && exp?.isNone && fits value && !(neg && magnitude == 0) then
    some (.int value, rest)
  else
    let exponent := (exp?.bind fun e => Ascii.ofDigits? 10 e.2.1).getD 0
    let grows := !((exp?.map (·.1)).getD false)
    let digits := (whole ++ (frac?.map (·.1)).getD []).dropWhile (· == '0')
    let places := whole.length
    if !digits.isEmpty && grows && exponent + places > 309 + (whole.takeWhile (· == '0')).length then none
    else some (.real written, rest)

/-- Removes a word from the front. -/
def word? (w : String) (d : Datum) (cs : List Char) : Option (Datum × List Char) :=
  if w.toList.isPrefixOf cs then some (d, cs.drop w.length) else none

/-- Of entries with one key, given latest first, the last one counts. -/
def lastOfEach (entries : List (Key × Datum)) : List (Key × Datum) :=
  (entries.foldl (fun kept e => if kept.any (·.1 == e.1) then kept else e :: kept) [])

mutual

/-- A value and what follows it; `depth` is the number of brackets that may still be opened. -/
def value? : Nat → Nat → List Char → Option (Datum × List Char)
  | 0, _, _ => none
  | fuel + 1, depth, cs =>
    match cs with
    | 'n' :: _ => word? "null" .null cs
    | 't' :: _ => word? "true" (.bool true) cs
    | 'f' :: _ => word? "false" (.bool false) cs
    | '"' :: rest => (string? (rest.length + 1) [] rest).map fun (s, rest) => (.text (String.ofList s), rest)
    | '[' :: rest =>
      if depth = 0 then none
      else
        match skip rest with
        | ']' :: rest => some (.ofList [], rest)
        | rest => (items? fuel (depth - 1) [] rest).map fun (l, rest) => (.ofList l, rest)
    | '{' :: rest =>
      if depth = 0 then none
      else
        match skip rest with
        | '}' :: rest => some (.record none [], rest)
        | rest => (fields? fuel (depth - 1) [] rest).map fun (l, rest) => (.record none l, rest)
    | _ => number? cs

/-- The items of a list up to the closing bracket. -/
def items? : Nat → Nat → List Datum → List Char → Option (List Datum × List Char)
  | 0, _, _, _ => none
  | fuel + 1, depth, acc, cs =>
    match value? fuel depth (skip cs) with
    | none => none
    | some (d, rest) =>
      match skip rest with
      | ',' :: rest => items? fuel depth (d :: acc) rest
      | ']' :: rest => some ((d :: acc).reverse, rest)
      | _ => none

/-- The entries of a record up to the closing brace. -/
def fields? : Nat → Nat → List (Key × Datum) → List Char → Option (List (Key × Datum) × List Char)
  | 0, _, _, _ => none
  | fuel + 1, depth, acc, cs =>
    match skip cs with
    | '"' :: rest =>
      match string? (rest.length + 1) [] rest with
      | none => none
      | some (key, rest) =>
        match skip rest with
        | ':' :: rest =>
          match value? fuel depth (skip rest) with
          | none => none
          | some (d, rest) =>
            let acc := (Key.text (String.ofList key), d) :: acc
            match skip rest with
            | ',' :: rest => fields? fuel depth acc rest
            | '}' :: rest => some (lastOfEach acc, rest)
            | _ => none
        | _ => none
    | _ => none

end

/-- Brackets inside brackets that a document may have. -/
def maxDepth : Nat := 127

/-- Reads a document that is one JSON value. -/
def parse? (s : String) : Option Datum :=
  let cs := s.toList
  match value? (2 * cs.length + 2) maxDepth (skip cs) with
  | some (d, rest) => if (skip rest).isEmpty then some d else none
  | none => none

/-- A character inside a string: those that end it or control something are escaped. -/
def escape (c : Char) : List Char :=
  match c with
  | '"' => ['\\', '"']
  | '\\' => ['\\', '\\']
  | '\x08' => ['\\', 'b']
  | '\x0c' => ['\\', 'f']
  | '\n' => ['\\', 'n']
  | '\r' => ['\\', 'r']
  | '\t' => ['\\', 't']
  | c =>
    if c.toNat < 0x20 then
      ['\\', 'u', '0', '0', Ascii.lowerHexDigit (c.toNat / 16), Ascii.lowerHexDigit (c.toNat % 16)]
    else [c]

def quote (s : String) : String :=
  "\"" ++ String.ofList (s.toList.flatMap escape) ++ "\""

mutual

/-- Writes a document. What has no fixed type is written as text, and a key by its name. -/
def render : Datum → String
  | .null => "null"
  | .void => "null"
  | .endless => "null"
  | .bool b => if b then "true" else "false"
  | .int n => toString n
  | .real w => w
  | .text s => quote s
  | .scalar s => quote s.text
  | .row items => "[" ++ renderItems items ++ "]"
  | .list _ items => "[" ++ renderItems items ++ "]"
  | .record _ fields => "\x7b" ++ renderFields fields ++ "\x7d"

def renderItems : List Datum → String
  | [] => ""
  | [d] => render d
  | d :: rest => render d ++ "," ++ renderItems rest

def renderFields : List (Key × Datum) → String
  | [] => ""
  | [(k, d)] => quote (k.name?.getD "") ++ ":" ++ render d
  | (k, d) :: rest => quote (k.name?.getD "") ++ ":" ++ render d ++ "," ++ renderFields rest

end

end Portcullis.Document.Json
