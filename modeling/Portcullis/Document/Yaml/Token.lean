import Portcullis.Document.Yaml.ScalarText

/-! Tokens of a YAML stream. Indentation and keys that only their colon shows are made explicit. -/
namespace Portcullis.Document.Yaml

inductive Token where
  | version (major minor : Nat)
  | handle (name : String) (start : String)
  | documentStart
  | documentEnd
  | blockList
  | blockRecord
  | blockEnd
  | flowList
  | flowListEnd
  | flowRecord
  | flowRecordEnd
  | item
  | comma
  | key
  | value
  | alias (name : String)
  | anchor (name : String)
  | tag (handle : String) (suffix : String)
  | scalar (text : String) (style : Style)
  deriving DecidableEq, Repr

/-- A place where a key may have begun: how many tokens stood before it, whether there has to be one,
and its place in the stream. -/
structure KeyPlace where
  tokens : Nat
  required : Bool
  index : Nat
  line : Nat
  column : Nat

/-- The state between two tokens. Indentations count from one, and zero is that of the stream; `places`
holds one possible key for each open flow collection, innermost first. Tokens are latest first. -/
structure Scanner where
  cursor : Cursor
  tokens : List Token := []
  count : Nat := 0
  indent : Nat := 0
  outer : List Nat := []
  flow : Nat := 0
  keyAllowed : Bool := true
  places : List (Option KeyPlace) := [none]

namespace Scanner

def emit (s : Scanner) (t : Token) : Scanner :=
  { s with tokens := t :: s.tokens, count := s.count + 1 }

/-- Puts a token where so many stood before it. -/
def insertAt (s : Scanner) (position : Nat) (t : Token) : Scanner :=
  let behind := s.count - position
  { s with tokens := s.tokens.take behind ++ t :: s.tokens.drop behind, count := s.count + 1 }

def move (s : Scanner) (c : Cursor) : Scanner :=
  { s with cursor := c }

/-- Gives up a place: a key that had to be there is missing. -/
def drop? : Option KeyPlace → Option (Option KeyPlace)
  | some k => if k.required then none else some none
  | none => some none

def removeKey? (s : Scanner) : Option Scanner :=
  match s.places with
  | [] => some s
  | k :: rest => (drop? k).map fun k => { s with places := k :: rest }

/-- Keys end on the line where they begin, and within 1024 characters. -/
def stale? (s : Scanner) : Option Scanner := do
  let places ← s.places.mapM fun k =>
    match k with
    | some p => if p.line < s.cursor.line || p.index + 1024 < s.cursor.index then drop? k else some k
    | none => some none
  return { s with places := places }

/-- Notes that a key may begin here. It has to if it stands at the indentation of a block. -/
def saveKey? (s : Scanner) : Option Scanner :=
  if !s.keyAllowed then some s
  else
    let c := s.cursor
    let place : KeyPlace := ⟨s.count, s.flow == 0 && s.indent == c.column + 1, c.index, c.line, c.column⟩
    s.removeKey?.map fun s => { s with places := some place :: s.places.drop 1 }

/-- Opens a block at a column that is deeper than the current one. -/
def roll (s : Scanner) (column position : Nat) (t : Token) : Scanner :=
  if s.flow == 0 && s.indent < column + 1 then
    { s.insertAt position t with indent := column + 1, outer := s.indent :: s.outer }
  else s

/-- Closes blocks that are deeper than the indentation. -/
def unrollTo (indent : Nat) : List Nat → Scanner → Scanner
  | [], s => s
  | o :: outer, s =>
    if s.indent > indent then unrollTo indent outer { s.emit .blockEnd with indent := o, outer := outer } else s

def unroll (s : Scanner) (indent : Nat) : Scanner :=
  if s.flow == 0 then unrollTo indent s.outer s else s

/-- Moves to the next token, over blanks, comments and breaks. Tabs count as blanks where no key can
begin. A byte order mark at the start of a line is skipped, but has a column. -/
def skipToToken : Nat → Scanner → Scanner
  | 0, s => s
  | fuel + 1, s =>
    let c := if s.cursor.column == 0 && s.cursor.sees (· == '\ufeff') then s.cursor.skip else s.cursor
    let c := c.skipWhile fun d => d == ' ' || ((s.flow > 0 || !s.keyAllowed) && d == '\t')
    let c := if c.sees (· == '#') then c.skipWhile (!isBreak ·) else c
    if c.sees isBreak then
      skipToToken fuel { s with cursor := c.takeBreak.2, keyAllowed := s.flow == 0 || s.keyAllowed }
    else s.move c

def isAddressChar (verbatim : Bool) (c : Char) : Bool :=
  isWord c || ";/?:@&=+$.!~*'()".toList.contains c || (verbatim && (c == ',' || c == '[' || c == ']'))

/-- The bytes that successive escapes of an address write. -/
def addressEscapes : Nat → Cursor → List UInt8 × Cursor
  | 0, c => ([], c)
  | fuel + 1, c =>
    match c.rest with
    | '%' :: h :: l :: _ =>
      match Ascii.hexByte? h l with
      | some b =>
        let (more, c) := addressEscapes fuel (c.skip 3)
        (b :: more, c)
      | none => ([], c)
    | _ => ([], c)

def address? (verbatim : Bool) : Nat → List Char → Cursor → Option (List Char × Cursor)
  | 0, _, _ => none
  | fuel + 1, acc, c =>
    if c.sees (· == '%') then
      let (bs, next) := addressEscapes c.rest.length c
      if bs.isEmpty then none
      else (Utf8.decode? bs).bind fun cs => address? verbatim fuel (acc ++ cs) next
    else
      match c.takeWhile (isAddressChar verbatim) with
      | ([], c) => some (acc, c)
      | (run, c) => address? verbatim fuel (acc ++ run) c

/-- A handle between exclamation marks; without the second one it is the start of an address. -/
def tagHandle (c : Cursor) : List Char × Bool × Cursor :=
  let (word, c) := c.skip.takeWhile isWord
  if c.sees (· == '!') then ('!' :: word ++ ['!'], true, c.skip) else ('!' :: word, false, c)

/-- Reads a tag at its exclamation mark. -/
def tag? (flow : Bool) (c : Cursor) : Option (Token × Cursor) := do
  let fuel := c.rest.length + 1
  let (t, c) ←
    if c.sees (· == '<') 1 then do
      let (a, c) ← address? true fuel [] (c.skip 2)
      if a.isEmpty || !c.sees (· == '>') then none
      else some (Token.tag "" (String.ofList a), c.skip)
    else
      let (h, full, c) := tagHandle c
      if full && h.length > 1 then do
        let (a, c) ← address? false fuel [] c
        if a.isEmpty then none else some (Token.tag (String.ofList h) (String.ofList a), c)
      else do
        let (a, c) ← address? false fuel (h.drop 1) c
        if a.isEmpty then some (Token.tag "" "!", c) else some (Token.tag "!" (String.ofList a), c)
  if c.endsAt || (flow && c.sees (· == ',')) then return (t, c) else none

def anchorName? (c : Cursor) : Option (String × Cursor) :=
  let (name, c) := c.skip.takeWhile isWord
  if name.isEmpty then none
  else if c.endsAt || c.sees "?:,]\x7d%@`".toList.contains then some (String.ofList name, c)
  else none

def versionNumber? (c : Cursor) : Option (Nat × Cursor) :=
  let (digits, c) := c.takeWhile Char.isDigit
  if digits.length > 9 then none else (Ascii.decimal? digits).map (·, c)

/-- Reads a directive at its percent sign. -/
def directive? (c : Cursor) : Option (Token × Cursor) := do
  let (name, c) := c.skip.takeWhile isWord
  if !c.endsAt then none
  else
    let (t, c) ← match String.ofList name with
      | "YAML" => do
        let (major, c) ← versionNumber? (c.skipWhile isBlank)
        if !c.sees (· == '.') then none
        else
          let (minor, c) ← versionNumber? c.skip
          some (Token.version major minor, c)
      | "TAG" => do
        let c := c.skipWhile isBlank
        if !c.sees (· == '!') then none
        else
          let (h, full, c) := tagHandle c
          if (!full && h.length > 1) || !c.sees isBlank then none
          else
            let c := c.skipWhile isBlank
            let (a, c) ← address? true (c.rest.length + 1) [] c
            if a.isEmpty || !c.endsAt then none
            else some (Token.handle (String.ofList h) (String.ofList a), c)
      | _ => none
    let c := c.skipComment
    if c.atLineEnd then return (t, c.takeBreak.2) else none

def documentMark? (s : Scanner) (t : Token) : Option Scanner := do
  let s ← (s.unroll 0).removeKey?
  return { s.emit t with cursor := s.cursor.skip 3, keyAllowed := false }

def openFlow? (s : Scanner) (t : Token) : Option Scanner := do
  let s ← s.saveKey?
  return { s.emit t with
    cursor := s.cursor.skip, flow := s.flow + 1, keyAllowed := true, places := none :: s.places }

def closeFlow? (s : Scanner) (t : Token) : Option Scanner := do
  let s ← s.removeKey?
  return { s.emit t with
    cursor := s.cursor.skip, flow := s.flow - 1, keyAllowed := false
    places := if s.flow > 0 then s.places.drop 1 else s.places }

def comma? (s : Scanner) : Option Scanner := do
  let s ← s.removeKey?
  return { s.emit .comma with cursor := s.cursor.skip, keyAllowed := true }

def item? (s : Scanner) : Option Scanner := do
  if s.flow == 0 && !s.keyAllowed then none
  else
    let s ← (s.roll s.cursor.column s.count .blockList).removeKey?
    return { s.emit .item with cursor := s.cursor.skip, keyAllowed := true }

def key? (s : Scanner) : Option Scanner := do
  if s.flow == 0 && !s.keyAllowed then none
  else
    let s ← (s.roll s.cursor.column s.count .blockRecord).removeKey?
    return { s.emit .key with cursor := s.cursor.skip, keyAllowed := s.flow == 0 }

/-- A colon before a value: what may have been a key before it is one. -/
def value? (s : Scanner) : Option Scanner :=
  match s.places with
  | some k :: rest =>
    let s := (s.insertAt k.tokens .key).roll k.column k.tokens .blockRecord
    some { s.emit .value with cursor := s.cursor.skip, keyAllowed := false, places := none :: rest }
  | _ =>
    if s.flow == 0 && !s.keyAllowed then none
    else
      let s := s.roll s.cursor.column s.count .blockRecord
      some { s.emit .value with cursor := s.cursor.skip, keyAllowed := s.flow == 0 }

/-- A token of its own that may be a key. -/
def node? (s : Scanner) (read : Cursor → Option (Token × Cursor)) : Option Scanner := do
  let s ← s.saveKey?
  let (t, c) ← read s.cursor
  return { s.emit t with cursor := c, keyAllowed := false }

def blockScalar? (s : Scanner) (literal : Bool) : Option Scanner := do
  let s ← s.removeKey?
  let (text, c) ← block? literal s.indent s.cursor.skip
  return { s.emit (.scalar (String.ofList text) (if literal then .literal else .other)) with
    cursor := c, keyAllowed := true }

def quotedScalar? (s : Scanner) (mark : Char) : Option Scanner :=
  s.node? fun c =>
    (quoted? mark (c.rest.length + 1) [] c.skip).map fun (text, c) => (.scalar (String.ofList text) .other, c)

def plainScalar? (s : Scanner) : Option Scanner := do
  let s ← s.saveKey?
  let (text, broken, c) ← plain? (s.flow > 0) s.indent (s.cursor.rest.length + 1) [] {} s.cursor
  return { s.emit (.scalar (String.ofList text) .plain) with cursor := c, keyAllowed := broken }

/-- A plain scalar may begin here. -/
def beginsPlain (s : Scanner) : Bool :=
  let c := s.cursor
  match c.peek? with
  | none => false
  | some d =>
    (!c.endsAt && !"-?:,[]\x7b\x7d#&*!|>'\"%@`".toList.contains d)
      || (d == '-' && !c.sees isBlank 1)
      || (s.flow == 0 && (d == '?' || d == ':') && !c.endsAt 1)

/-- Reads one token at its first character. -/
def next? (s : Scanner) : Option Scanner :=
  let c := s.cursor
  let inFlow := s.flow > 0
  if c.column == 0 && c.sees (· == '%') then do
    let s ← (s.unroll 0).removeKey?
    let (t, c) ← directive? s.cursor
    return { s.emit t with cursor := c, keyAllowed := false }
  else if c.atMark '-' then s.documentMark? .documentStart
  else if c.atMark '.' then s.documentMark? .documentEnd
  else
    match c.peek? with
    | some '[' => s.openFlow? .flowList
    | some '{' => s.openFlow? .flowRecord
    | some ']' => s.closeFlow? .flowListEnd
    | some '}' => s.closeFlow? .flowRecordEnd
    | some ',' => s.comma?
    | some d =>
      if d == '-' && c.endsAt 1 then s.item?
      else if d == '?' && (inFlow || c.endsAt 1) then s.key?
      else if d == ':' && (inFlow || c.endsAt 1) then s.value?
      else if d == '*' then s.node? fun c => (anchorName? c).map fun (n, c) => (.alias n, c)
      else if d == '&' then s.node? fun c => (anchorName? c).map fun (n, c) => (.anchor n, c)
      else if d == '!' then s.node? (tag? inFlow)
      else if d == '|' && !inFlow then s.blockScalar? true
      else if d == '>' && !inFlow then s.blockScalar? false
      else if d == '\'' || d == '"' then s.quotedScalar? d
      else if s.beginsPlain then s.plainScalar?
      else none
    | none => none

/-- Reads all tokens. -/
def run? : Nat → Scanner → Option (List Token)
  | 0, _ => none
  | fuel + 1, s =>
    match (skipToToken (fuel + 1) s).stale? with
    | none => none
    | some s =>
      let s := s.unroll (s.cursor.column + 1)
      if s.cursor.atEnd then
        (s.unroll 0).removeKey?.map fun s => s.tokens.reverse
      else
        match s.next? with
        | some s => run? fuel s
        | none => none

end Scanner

/-- The tokens of a stream. -/
def Token.scan? (cs : List Char) : Option (List Token) :=
  if cs.all isAllowed then Scanner.run? (cs.length + 2) { cursor := ⟨cs, 0, 0, 0⟩ } else none

end Portcullis.Document.Yaml
