import Portcullis.Document.Yaml.Node
import Portcullis.Document.Resolve

/-! YAML documents as data: anchors and aliases resolved. -/
namespace Portcullis.Document.Yaml

/-- Names of anchors with their numbers, and how many names there are. -/
structure Anchors where
  numbers : List (String × Nat) := []

namespace Anchors

/-- Numbers an anchor by the names that are known before it. A name that was known already counts once,
so that the number of its later node may be given again. -/
def define (a : Anchors) (name : String) : Anchors × Nat :=
  let n := a.numbers.length
  (⟨(name, n) :: a.numbers.filter (·.1 != name)⟩, n)

def find? (a : Anchors) (name : String) : Option Nat :=
  (a.numbers.find? (·.1 == name)).map (·.2)

end Anchors

namespace Node

def defineOpt (a : Anchors) : Option String → Anchors × Option String
  | none => (a, none)
  | some name =>
    let (a, n) := a.define name
    (a, some (toString n))

mutual

/-- Puts numbers for the names of anchors and aliases, in the order of the document. An alias of an
unknown anchor is refused. -/
def number? (a : Anchors) : Node → Option (Node × Anchors)
  | .alias name => (a.find? name).map fun n => (.alias (toString n), a)
  | .scalar anchor s =>
    let (a, anchor) := defineOpt a anchor
    some (.scalar anchor s, a)
  | .list anchor tag items => do
    let (a, anchor) := defineOpt a anchor
    let (items, a) ← numberItems? a items
    return (.list anchor tag items, a)
  | .record anchor tag fields => do
    let (a, anchor) := defineOpt a anchor
    let (fields, a) ← numberFields? a fields
    return (.record anchor tag fields, a)

def numberItems? (a : Anchors) : List Node → Option (List Node × Anchors)
  | [] => some ([], a)
  | n :: rest => do
    let (n, a) ← number? a n
    let (rest, a) ← numberItems? a rest
    return (n :: rest, a)

def numberFields? (a : Anchors) : List (Node × Node) → Option (List (Node × Node) × Anchors)
  | [] => some ([], a)
  | (k, v) :: rest => do
    let (k, a) ← number? a k
    let (v, a) ← number? a v
    let (rest, a) ← numberFields? a rest
    return ((k, v) :: rest, a)

end

mutual

/-- The nodes with an anchor, in the order of the document. -/
def anchored : Node → List (String × Node)
  | .alias _ => []
  | .scalar anchor s => (anchor.map (·, .scalar anchor s)).toList
  | .list anchor tag items => (anchor.map (·, .list anchor tag items)).toList ++ anchoredItems items
  | .record anchor tag fields => (anchor.map (·, .record anchor tag fields)).toList ++ anchoredFields fields

def anchoredItems : List Node → List (String × Node)
  | [] => []
  | n :: rest => anchored n ++ anchoredItems rest

def anchoredFields : List (Node × Node) → List (String × Node)
  | [] => []
  | (k, v) :: rest => anchored k ++ anchored v ++ anchoredFields rest

end

mutual

/-- How many parts of a stream a node is made of. -/
def size : Node → Nat
  | .alias _ => 1
  | .scalar _ _ => 1
  | .list _ _ items => sizeItems items + 2
  | .record _ _ fields => sizeFields fields + 2

def sizeItems : List Node → Nat
  | [] => 0
  | n :: rest => size n + sizeItems rest

def sizeFields : List (Node × Node) → Nat
  | [] => 0
  | (k, v) :: rest => size k + size v + sizeFields rest

end

/-- What an alias stands for, and how many aliases are followed to write it out. -/
structure Expansion where
  datum : Datum
  aliases : Nat := 0

/-- What the aliases stand for, by name. -/
abbrev Expansions := List (String × Expansion)

mutual

/-- The datum of a node, given those of the aliases. An alias of a node around it, or one that takes
more than `limit` aliases to write out, stands for no finite value. -/
def expand (limit : Nat) (env : Expansions) : Node → Expansion
  | .alias name =>
    match env.find? (·.1 == name) with
    | some (_, e) => if e.aliases < limit then ⟨e.datum, e.aliases + 1⟩ else ⟨.endless, limit⟩
    | none => ⟨.endless, limit⟩
  | .scalar _ s => ⟨.scalar s, 0⟩
  | .list _ tag items =>
    let (items, n) := expandItems limit env items
    ⟨.list tag items, n⟩
  | .record _ tag fields =>
    let (fields, n) := expandFields limit env fields
    ⟨.record tag fields, n⟩

def expandItems (limit : Nat) (env : Expansions) : List Node → List Datum × Nat
  | [] => ([], 0)
  | n :: rest =>
    let e := expand limit env n
    let (items, m) := expandItems limit env rest
    (e.datum :: items, e.aliases + m)

def expandFields (limit : Nat) (env : Expansions) : List (Node × Node) → List (Key × Datum) × Nat
  | [] => ([], 0)
  | (k, v) :: rest =>
    let key := expand limit env k
    let value := expand limit env v
    let (fields, m) := expandFields limit env rest
    ((Key.ofDatum key.datum, value.datum) :: fields, key.aliases + value.aliases + m)

end

/-- What all anchors stand for after so many rounds: an alias of a node around it stays open. -/
def environment (limit : Nat) (nodes : List (String × Node)) : Nat → Expansions
  | 0 => []
  | rounds + 1 =>
    let env := environment limit nodes rounds
    nodes.map fun (name, n) => (name, n.expand limit env)

/-- The datum of a document. Of the nodes with one number the last one counts. -/
def datum? (n : Node) : Option Datum := do
  let (n, _) ← n.number? {}
  let nodes := n.anchored.reverse
  let limit := 100 * n.size
  return (n.expand limit (environment limit nodes (nodes.length + 1))).datum

end Node

def parse? (s : String) : Option Datum := do
  match ← Node.parse? s with
  | none => some .void
  | some n => n.datum?

end Portcullis.Document.Yaml
