import Portcullis.Document.Resolve

/-! Reading data as values of a known type. -/
namespace Portcullis.Document.Datum

/-- Any scalar is text as it was written. -/
def text? : Datum → Option String
  | .text s => some s
  | .scalar s => some s.text
  | _ => none

def bool? : Datum → Option Bool
  | .bool b => some b
  | .scalar s => if s.isBare "bool" then Scalar.boolOfText? s.text else none
  | _ => none

/-- A natural number up to a bound. -/
def nat? (bound : Nat) (d : Datum) : Option Nat :=
  let n? := match d with
    | .int n => if n < 0 then none else some n.toNat
    | .scalar s => if s.isBare "int" then Scalar.wordOfText? s.text else none
    | _ => none
  n?.filter (· ≤ bound)

def max16 : Nat := 65535

def max64 : Nat := Scalar.maxWord

/-- Nothing is given: a null, an empty plain scalar, or no document at all. -/
def isNothing? : Datum → Option Bool
  | .null => some true
  | .void => some true
  | .endless => none
  | .scalar s =>
    if s.style != .plain then some false
    else
      match s.tag with
      | none => some (s.text.isEmpty || Scalar.isNullText s.text)
      | some t =>
        if t != Scalar.coreTag "null" then some false
        else if Scalar.isNullText s.text then some true
        else none
  | _ => some false

/-- A value that may be left out. -/
def option? {α : Type} (read : Datum → Option α) (d : Datum) : Option (Option α) :=
  match d.isNothing? with
  | none => none
  | some true => some none
  | some false => (read d).map some

/-- A list; an empty plain scalar is an empty one. -/
def items? : Datum → Option (List Datum)
  | .row items => some items
  | .list _ items => some items
  | .void => some []
  | .scalar s => if s.isAbsent then some [] else none
  | _ => none

def listOf? {α : Type} (read : Datum → Option α) (d : Datum) : Option (List α) :=
  d.items?.bind (·.mapM read)

/-- The entries of a record by name; an empty plain scalar is an empty one. Every key has to be a
scalar. -/
def entries? : Datum → Option (List (String × Datum))
  | .record _ fields => fields.mapM fun (k, v) => k.name?.map (·, v)
  | .void => some []
  | .scalar s => if s.isAbsent then some [] else none
  | _ => none

/-- No name occurs twice among those of interest. -/
def isSingle (names : List String) (entries : List (String × Datum)) : Bool :=
  names.all fun n => (entries.filter (·.1 == n)).length ≤ 1

/-- The values under the given names, of which none may occur twice. A row gives them in order. -/
def fields? (names : List String) (d : Datum) : Option (List (Option Datum)) :=
  match d with
  | .row items =>
    if items.length ≤ names.length then
      some (items.map some ++ List.replicate (names.length - items.length) none)
    else none
  | d => do
    let entries ← d.entries?
    if isSingle names entries then
      return names.map fun n => (entries.find? (·.1 == n)).map (·.2)
    else none

/-- A value with a default for where it is left out. -/
def orElse? {α : Type} (read : Datum → Option α) (fallback : α) : Option Datum → Option α
  | none => some fallback
  | some d => read d

/-- One of several names: as text, as the tag of nothing, or as the only key of a record with a
null. -/
def variant? {α : Type} (ofName : String → Option α) : Datum → Option α
  | .text s => ofName s
  | .scalar s =>
    match s.tag with
    | some t =>
      if t.startsWith "!" then
        if s.style == .plain && (s.text.isEmpty || Scalar.isNullText s.text) then
          ofName (String.ofList (t.toList.drop 1))
        else none
      else ofName s.text
    | none => ofName s.text
  | .record none [(.text k, .null)] => ofName k
  | _ => none

end Portcullis.Document.Datum
