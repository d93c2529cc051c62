import Portcullis.Unicode.CharSet
import Portcullis.Unicode.Category
import Portcullis.Unicode.Script
import Portcullis.Unicode.ScriptExtension
import Portcullis.Unicode.Age
import Portcullis.Unicode.Property
import Portcullis.Unicode.Folding

/-! Unicode properties by name, and simple case folding of sets. The tables are those of version 15.0. -/
namespace Portcullis.Unicode

/-- Names are compared without case, blanks, low lines, hyphens, characters beyond ASCII, and a
leading `is`; `isc` alone keeps its own meaning. -/
def looseName (s : String) : String :=
  let cs := s.toList
  let starts := (cs.take 2).map Char.toLower == ['i', 's']
  let kept := (if starts then cs.drop 2 else cs).filter fun c =>
    c.toNat < 0x80 && c != ' ' && c != '_' && c != '-'
  let kept := kept.map Char.toLower
  if starts && kept == ['c'] then "isc" else String.ofList kept

/-- The ranges that a table gives under a name. -/
def lookup? (table : List (List String × List String)) (name : String) : Option CharSet :=
  (table.find? fun row => row.1.any fun n => looseName n == looseName name).map fun row => .ofTable row.2

/-- Categories that are unions of others. -/
def groups : List (List String × List String) := [
  (["C", "Other"], ["Cc", "Cf", "Cn", "Co", "Cs"]),
  (["L", "Letter"], ["Ll", "Lm", "Lo", "Lt", "Lu"]),
  (["LC", "Cased_Letter"], ["Ll", "Lt", "Lu"]),
  (["M", "Mark", "Combining_Mark"], ["Mc", "Me", "Mn"]),
  (["N", "Number"], ["Nd", "Nl", "No"]),
  (["P", "Punctuation", "punct"], ["Pc", "Pd", "Pe", "Pf", "Pi", "Po", "Ps"]),
  (["S", "Symbol"], ["Sc", "Sk", "Sm", "So"]),
  (["Z", "Separator"], ["Zl", "Zp", "Zs"])]

def unionOf (names : List String) : CharSet :=
  .ofRanges (names.flatMap fun n => ((lookup? categories n).getD {}).ranges)

/-- A general category or a group of them; the whole range, the assigned part of it and ASCII count
as categories. -/
def category? (name : String) : Option CharSet :=
  let loose := looseName name
  if loose == "any" then some (.range 0 0x10FFFF)
  else if loose == "ascii" then some (.range 0 0x7F)
  else if loose == "assigned" then some (Alphabet.scalars.compl (unionOf ["Cn"]))
  else
    match groups.find? fun g => g.1.any (looseName · == loose) with
    | some g => some (unionOf g.2)
    | none => lookup? categories name

/-- What had been assigned by a version of the standard. -/
def age? (name : String) : Option CharSet :=
  match ages.findIdx? fun row => row.1.any fun n => looseName n == looseName name with
  | some i => some (.ofRanges ((ages.take (i + 1)).flatMap fun row => (CharSet.ofTable row.2).ranges))
  | none => none

/-- A property, category or script by its name alone. -/
def named? (name : String) : Option CharSet :=
  let loose := looseName name
  let asProperty := if loose == "cf" || loose == "sc" || loose == "lc" then none else lookup? properties name
  (asProperty <|> category? name) <|> lookup? scripts name

/-- The value of a property that has more than two. -/
def valued? (property value : String) : Option CharSet :=
  let p := looseName property
  if p == "gc" || p == "generalcategory" then category? value
  else if p == "sc" || p == "script" then lookup? scripts value
  else if p == "scx" || p == "scriptextensions" then lookup? scriptExtensions value
  else if p == "age" then age? value
  else none

def property (name : String) : CharSet :=
  (lookup? properties name).getD {}

def digits : CharSet := unionOf ["Nd"]

def spaces : CharSet := property "White_Space"

/-- Characters of words: letters, marks, decimal digits, connectors and joiners. -/
def wordChars : CharSet :=
  .ofRanges ((property "Alphabetic").ranges ++ (unionOf ["Mc", "Me", "Mn", "Nd", "Pc"]).ranges
    ++ (property "Join_Control").ranges)

def letters : CharSet := property "Alphabetic"

def numerals : CharSet := unionOf ["Nd", "Nl", "No"]

def extenders : CharSet := property "Grapheme_Extend"

/-- Characters without a shape of their own: controls, formats, surrogates, private use, unassigned
ones and separators. -/
def shapeless : CharSet := unionOf ["Cc", "Cf", "Cs", "Co", "Cn", "Zl", "Zp", "Zs"]

def foldGroups : List (List Nat) :=
  foldings.flatMap fun s =>
    (s.toList.splitOn ' ').map fun g => (g.splitOn ',').filterMap (Ascii.ofDigits? 16)

/-- A set with all that its members fold to. -/
def fold (s : CharSet) : CharSet :=
  let more := foldGroups.filter fun g => g.any s.contains
  if more.isEmpty then s else .ofRanges (s.ranges ++ more.flatten.map fun n => (n, n))

/-- Some other code point folds to this one. -/
def hasCase (n : Nat) : Bool :=
  foldGroups.any (·.contains n)

end Portcullis.Unicode
