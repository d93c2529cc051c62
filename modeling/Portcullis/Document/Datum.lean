import Portcullis.Text.Utf8

/-! The value of a document, whatever notation it was written in. -/
namespace Portcullis.Document

/-- How a scalar without a fixed type was written. -/
inductive Style where
  | plain
  | literal
  | other
  deriving DecidableEq, Repr

/-- A scalar whose type is settled by its reader: its text, its style and its tag. -/
structure Scalar where
  text : String
  style : Style := .plain
  tag : Option String := none
  deriving DecidableEq, Repr

/-- The key of a record entry. `index` is a key that reads as a natural number, `other` one that reads
as neither text nor natural number, and `closed` one that cannot be held before its type is known.
`written` is the text of a scalar key. -/
inductive Key where
  | text (s : String)
  | index (n : Nat) (written : String)
  | other (written : Option String)
  | closed (written : Option String)
  deriving DecidableEq, Repr

/-- The name that a key gives where names are expected: every scalar gives its text. -/
def Key.name? : Key → Option String
  | .text s => some s
  | .index _ w => some w
  | .other w => w
  | .closed w => w

/-- The value of a document. A `row` is a list that may also stand for a record, its items for the fields in
order; a `list` may not. `void` is a document without any value, and `endless` a value inside itself. -/
inductive Datum where
  | null
  | bool (b : Bool)
  | int (n : Int)
  | real (written : String)
  | text (s : String)
  | scalar (s : Scalar)
  | row (items : List Datum)
  | list (tag : Option String) (items : List Datum)
  | record (tag : Option String) (fields : List (Key × Datum))
  | void
  | endless
  deriving Repr, Inhabited

namespace Datum

def ofList (items : List Datum) : Datum :=
  .row items

/-- The items of a list of either kind. -/
def elements? : Datum → Option (List Datum)
  | .row items => some items
  | .list _ items => some items
  | _ => none

def ofFields (fields : List (String × Datum)) : Datum :=
  .record none (fields.map fun (k, v) => (.text k, v))

/-- The entry of a record under a text key; of equal keys the last one counts. -/
def get? (d : Datum) (key : String) : Option Datum :=
  match d with
  | .record _ fields => (fields.reverse.find? (·.1 == .text key)).map (·.2)
  | _ => none

def isNull : Datum → Bool
  | .null => true
  | _ => false

end Datum

end Portcullis.Document
