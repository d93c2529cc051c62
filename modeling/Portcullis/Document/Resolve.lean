import Portcullis.Document.Datum
import Portcullis.Text.Ascii

/-! Scalars by their text: nulls, truth values, numbers, and text. -/
namespace Portcullis.Document

namespace Scalar

def isNullText (s : String) : Bool :=
  ["null", "Null", "NULL", "~"].contains s

def boolOfText? (s : String) : Option Bool :=
  if ["true", "True", "TRUE"].contains s then some true
  else if ["false", "False", "FALSE"].contains s then some false
  else none

/-- Digits behind a zero and a letter that names their base. -/
def prefixed? : List Char → Option Nat
  | '0' :: 'x' :: ds => if ds.isEmpty then none else Ascii.ofDigits? 16 ds
  | '0' :: 'o' :: ds => if ds.isEmpty then none else Ascii.ofDigits? 8 ds
  | '0' :: 'b' :: ds => if ds.isEmpty then none else Ascii.ofDigits? 2 ds
  | _ => none

/-- Decimal digits. More than one with a zero in front are text. -/
def decimal? (cs : List Char) : Option Nat :=
  if cs.length > 1 && cs.head? == some '0' then none else Ascii.decimal? cs

/-- An integer: digits in one of four bases behind an optional sign. -/
def intOfText? (s : String) : Option Int :=
  match s.toList with
  | '-' :: cs => ((prefixed? cs <|> decimal? cs).map fun n => -(n : Int))
  | '+' :: cs => (prefixed? cs <|> decimal? cs).map Int.ofNat
  | cs => (prefixed? cs <|> decimal? cs).map Int.ofNat

def maxWord : Nat := 18446744073709551615

def wordOfText? (s : String) : Option Nat :=
  match s.toList with
  | '-' :: _ => none
  | _ => (intOfText? s).bind fun n => if n ≤ maxWord then some n.toNat else none

/-- Whether a decimal number is too large for a double: its digits as a whole number, and the power of
ten they are multiplied with. -/
def overflows (digits : Nat) (exponent : Int) : Bool :=
  let bound := Nat.pow 2 1024 - Nat.pow 2 970
  if digits = 0 then false
  else if exponent > 400 then true
  else if exponent ≥ 0 then digits * Nat.pow 10 exponent.toNat ≥ bound
  else if exponent < -100000 then false
  else digits ≥ bound * Nat.pow 10 (-exponent).toNat

/-- A real number: decimal digits with a point or an exponent, or one of the names for what no digits
write. -/
def isReal (s : String) : Bool :=
  let cs := s.toList
  let unsigned := match cs with
    | '+' :: rest => rest
    | _ => cs
  let body := match cs with
    | '+' :: rest => rest
    | '-' :: rest => rest
    | _ => cs
  if [".inf", ".Inf", ".INF"].contains (String.ofList unsigned) then true
  else if ["-.inf", "-.Inf", "-.INF", ".nan", ".NaN", ".NAN"].contains s then true
  else
    let whole := body.takeWhile Char.isDigit
    let rest := body.dropWhile Char.isDigit
    let (frac, rest) := match rest with
      | '.' :: more => (more.takeWhile Char.isDigit, more.dropWhile Char.isDigit)
      | _ => ([], rest)
    let exponent? : Option Int := match rest with
      | [] => some 0
      | e :: more =>
        if e == 'e' || e == 'E' then
          match more with
          | '-' :: ds => (Ascii.decimal? ds).map fun n => -(n : Int)
          | '+' :: ds => (Ascii.decimal? ds).map Int.ofNat
          | ds => (Ascii.decimal? ds).map Int.ofNat
        else none
    match exponent? with
    | none => false
    | some e =>
      !(whole.isEmpty && frac.isEmpty)
        && !overflows ((Ascii.ofDigits? 10 (whole ++ frac)).getD 0) (e - frac.length)

/-- Digits that a zero in front makes text. -/
def isPadded (s : String) : Bool :=
  let cs := match s.toList with
    | '-' :: rest => rest
    | '+' :: rest => rest
    | cs => cs
  cs.length > 1 && cs.head? == some '0' && cs.all Char.isDigit

/-- An integer of 64 bits. One that does not fit has no value here. -/
def fit? (n : Int) : Option Datum :=
  if -9223372036854775808 ≤ n ∧ n ≤ maxWord then some (.int n) else none

/-- Numbers of up to 128 bits are integers, beyond it reals. -/
def isWide (n : Int) : Bool :=
  -(Nat.pow 2 127 : Int) ≤ n && n < (Nat.pow 2 128 : Int)

/-- The value of a plain scalar without tag. -/
def plainValue? (s : String) : Option Datum :=
  if s.isEmpty || isNullText s then some .null
  else
    match boolOfText? s with
    | some b => some (.bool b)
    | none =>
      match (intOfText? s).filter isWide with
      | some n => fit? n
      | none => some (if !isPadded s && isReal s then .real s else .text s)

def coreTag (name : String) : String :=
  "tag:yaml.org,2002:" ++ name

/-- The value of a scalar where the reader expects nothing in particular. A tag of one's own has
none. -/
def value? (s : Scalar) : Option Datum :=
  match s.tag with
  | none => if s.style == .plain then plainValue? s.text else some (.text s.text)
  | some t =>
    if t == coreTag "bool" then (boolOfText? s.text).map .bool
    else if t == coreTag "int" then ((intOfText? s.text).filter isWide).bind fit?
    else if t == coreTag "float" then if isReal s.text then some (.real s.text) else none
    else if t == coreTag "null" then if isNullText s.text then some .null else none
    else if t.startsWith "!" then none
    else some (.text s.text)

/-- The scalar may be read as a truth value or a number: it is plain, or a literal with the tag. -/
def isBare (s : Scalar) (name : String) : Bool :=
  s.style == .plain || (s.style == .literal && s.tag == some (coreTag name))

/-- Nothing was written. -/
def isAbsent (s : Scalar) : Bool :=
  s.text.isEmpty && s.style == .plain

end Scalar

namespace Datum

/-- A tag of one's own names a variant. -/
def isVariantTag (tag : Option String) : Bool :=
  tag.any (·.startsWith "!")

mutual

/-- The value of a datum where the reader expects nothing in particular; `depth` is the number of lists
and records that may be opened. -/
def settle? : Nat → Datum → Option Datum
  | _, .scalar s => s.value?
  | _, .void => some .null
  | _, .endless => none
  | 0, .row _ => none
  | 0, .list _ _ => none
  | 0, .record _ _ => none
  | depth + 1, .row items => (settleItems? depth items).map .row
  | depth + 1, .list tag items =>
    if isVariantTag tag then none else (settleItems? depth items).map (.list none)
  | depth + 1, .record tag fields =>
    if isVariantTag tag then none else (settleFields? depth fields).map (.record none)
  | _, .null => some .null
  | _, .bool b => some (.bool b)
  | _, .int n => some (.int n)
  | _, .real w => some (.real w)
  | _, .text s => some (.text s)

def settleItems? : Nat → List Datum → Option (List Datum)
  | _, [] => some []
  | depth, d :: rest => do
    let d ← settle? depth d
    return d :: (← settleItems? depth rest)

def settleFields? : Nat → List (Key × Datum) → Option (List (Key × Datum))
  | _, [] => some []
  | depth, (k, d) :: rest =>
    match k with
    | .closed _ => none
    | k => do
      let d ← settle? depth d
      return (k, d) :: (← settleFields? depth rest)

end

/-- Lists and records that may be open at once. -/
def maxDepth : Nat := 128

end Datum

/-- A key from the value that stands for it. -/
def Key.ofDatum (d : Datum) : Key :=
  let written := match d with
    | .scalar s => some s.text
    | .text s => some s
    | _ => none
  match d.settle? Datum.maxDepth with
  | none => .closed written
  | some (.text s) => .text s
  | some (.int n) => if n < 0 then .other written else .index n.toNat (written.getD "")
  | some _ => .other written

end Portcullis.Document
