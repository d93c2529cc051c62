import Portcullis.Document.Yaml.Token

/-! The nodes of a YAML document, from its tokens. -/
namespace Portcullis.Document.Yaml

/-- A node with its tag and the name that an anchor gives it. A scalar counts as plain if it has the tag
of a single exclamation mark. -/
inductive Node where
  | alias (name : String)
  | scalar (anchor : Option String) (s : Scalar)
  | list (anchor : Option String) (tag : Option String) (items : List Node)
  | record (anchor : Option String) (tag : Option String) (fields : List (Node × Node))
  deriving Repr, Inhabited

namespace Node

/-- The node that is not written. -/
def absent : Node :=
  .scalar none { text := "" }

/-- Handles of tags and what they stand for. -/
abbrev Handles := List (String × String)

def defaultHandles : Handles :=
  [("!", "!"), ("!!", "tag:yaml.org,2002:")]

/-- What stands before a node: an anchor and a tag, each at most once and in either order. -/
structure Properties where
  anchor : Option String := none
  tag : Option String := none

def fullTag? (handles : Handles) (handle suffix : String) : Option String :=
  if handle.isEmpty then some suffix else (handles.find? (·.1 == handle)).map (·.2 ++ suffix)

def properties? (handles : Handles) : List Token → Option (Properties × List Token)
  | .anchor a :: .tag h s :: rest => (fullTag? handles h s).map fun t => (⟨some a, some t⟩, rest)
  | .tag h s :: .anchor a :: rest => (fullTag? handles h s).map fun t => (⟨some a, some t⟩, rest)
  | .anchor a :: rest => some (⟨some a, none⟩, rest)
  | .tag h s :: rest => (fullTag? handles h s).map fun t => (⟨none, some t⟩, rest)
  | rest => some ({}, rest)

/-- A scalar with its properties. -/
def ofScalar (p : Properties) (text : String) (style : Style) : Node :=
  let tag := if p.tag == some "!" then none else p.tag
  .scalar p.anchor ⟨text, style, tag⟩

/-- Properties without a node behind them are those of an empty scalar. -/
def bare? (p : Properties) : Option Node :=
  if p.anchor.isSome || p.tag.isSome then some (.scalar p.anchor { text := "", tag := p.tag }) else none

/-- Tokens before which an item of a list in a block is absent. -/
def endsItem : List Token → Bool
  | .item :: _ => true
  | .blockEnd :: _ => true
  | _ => false

/-- Tokens before which a key or value in a block is absent. -/
def endsEntry : List Token → Bool
  | .key :: _ => true
  | .value :: _ => true
  | .blockEnd :: _ => true
  | _ => false

/-- Tokens before which a key in a flow is absent. -/
def endsFlowKey : List Token → Bool
  | .value :: _ => true
  | .comma :: _ => true
  | .flowListEnd :: _ => true
  | .flowRecordEnd :: _ => true
  | _ => false

/-- Tokens before which a value in a flow list is absent. -/
def endsFlowItem : List Token → Bool
  | .comma :: _ => true
  | .flowListEnd :: _ => true
  | _ => false

/-- Tokens before which a value in a flow record is absent. -/
def endsFlowValue : List Token → Bool
  | .comma :: _ => true
  | .flowRecordEnd :: _ => true
  | _ => false

mutual

/-- A node: in a block or in a flow, and where a list may stand without deeper indentation or not. -/
def node? (handles : Handles) : Nat → Bool → Bool → List Token → Option (Node × List Token)
  | 0, _, _, _ => none
  | fuel + 1, block, flush, ts =>
    match ts with
    | .alias n :: rest => some (.alias n, rest)
    | _ =>
      match properties? handles ts with
      | none => none
      | some (p, rest) =>
        match rest with
        | .scalar text style :: rest => some (ofScalar p text style, rest)
        | .flowList :: rest => (flowItems? handles fuel true [] rest).map fun (l, r) => (.list p.anchor p.tag l, r)
        | .flowRecord :: rest =>
          (flowFields? handles fuel true [] rest).map fun (l, r) => (.record p.anchor p.tag l, r)
        | .item :: more =>
          if flush then
            (flushItems? handles fuel [] (.item :: more)).map fun (l, r) => (.list p.anchor p.tag l, r)
          else (bare? p).map (·, rest)
        | .blockList :: more =>
          if block then (blockItems? handles fuel [] more).map fun (l, r) => (.list p.anchor p.tag l, r)
          else (bare? p).map (·, rest)
        | .blockRecord :: more =>
          if block then (blockFields? handles fuel [] more).map fun (l, r) => (.record p.anchor p.tag l, r)
          else (bare? p).map (·, rest)
        | rest =>
          (bare? p).map (·, rest)

/-- The items of a list in a block. -/
def blockItems? (handles : Handles) : Nat → List Node → List Token → Option (List Node × List Token)
  | 0, _, _ => none
  | fuel + 1, acc, ts =>
    match ts with
    | .item :: rest =>
      if endsItem rest then blockItems? handles fuel (absent :: acc) rest
      else
        match node? handles fuel true false rest with
        | some (n, rest) => blockItems? handles fuel (n :: acc) rest
        | none => none
    | .blockEnd :: rest => some (acc.reverse, rest)
    | _ => none

/-- The items of a list that is not indented deeper than the key before it. -/
def flushItems? (handles : Handles) : Nat → List Node → List Token → Option (List Node × List Token)
  | 0, _, _ => none
  | fuel + 1, acc, ts =>
    match ts with
    | .item :: rest =>
      if endsItem rest || endsEntry rest then flushItems? handles fuel (absent :: acc) rest
      else
        match node? handles fuel true false rest with
        | some (n, rest) => flushItems? handles fuel (n :: acc) rest
        | none => none
    | rest => some (acc.reverse, rest)

/-- A key or a value in a block. -/
def blockPart? (handles : Handles) : Nat → List Token → Option (Node × List Token)
  | 0, _ => none
  | fuel + 1, ts => if endsEntry ts then some (absent, ts) else node? handles fuel true true ts

/-- The entries of a record in a block. -/
def blockFields? (handles : Handles) : Nat → List (Node × Node) → List Token →
    Option (List (Node × Node) × List Token)
  | 0, _, _ => none
  | fuel + 1, acc, ts =>
    let entry := match ts with
      | .key :: rest => blockPart? handles fuel rest
      | .blockEnd :: _ => none
      | _ => none
    match ts, entry with
    | .blockEnd :: rest, _ => some (acc.reverse, rest)
    | _, none => none
    | _, some (k, .value :: rest) =>
      match blockPart? handles fuel rest with
      | some (v, rest) => blockFields? handles fuel ((k, v) :: acc) rest
      | none => none
    | _, some (k, rest) => blockFields? handles fuel ((k, absent) :: acc) rest

/-- A record of one entry inside a flow list, behind the mark of its key. -/
def singleField? (handles : Handles) : Nat → List Token → Option (Node × List Token)
  | 0, _ => none
  | fuel + 1, ts =>
    let key := if endsFlowKey ts && ts.head? != some .flowRecordEnd then some (absent, ts.drop 1)
      else node? handles fuel false false ts
    match key with
    | none => none
    | some (k, .value :: rest) =>
      if endsFlowItem rest then some (.record none none [(k, absent)], rest)
      else (node? handles fuel false false rest).map fun (v, rest) => (.record none none [(k, v)], rest)
    | some (k, rest) => some (.record none none [(k, absent)], rest)

/-- The items of a flow list. -/
def flowItems? (handles : Handles) : Nat → Bool → List Node → List Token → Option (List Node × List Token)
  | 0, _, _, _ => none
  | fuel + 1, first, acc, ts =>
    match ts with
    | .flowListEnd :: rest => some (acc.reverse, rest)
    | _ =>
      let behind := if first then some ts else match ts with
        | .comma :: rest => some rest
        | _ => none
      match behind with
      | none => none
      | some (.flowListEnd :: rest) => some (acc.reverse, rest)
      | some (.key :: rest) =>
        match singleField? handles fuel rest with
        | some (n, rest) => flowItems? handles fuel false (n :: acc) rest
        | none => none
      | some rest =>
        match node? handles fuel false false rest with
        | some (n, rest) => flowItems? handles fuel false (n :: acc) rest
        | none => none

/-- The entries of a flow record. -/
def flowFields? (handles : Handles) : Nat → Bool → List (Node × Node) → List Token →
    Option (List (Node × Node) × List Token)
  | 0, _, _, _ => none
  | fuel + 1, first, acc, ts =>
    match ts with
    | .flowRecordEnd :: rest => some (acc.reverse, rest)
    | _ =>
      let behind := if first then some ts else match ts with
        | .comma :: rest => some rest
        | _ => none
      match behind with
      | none => none
      | some (.flowRecordEnd :: rest) => some (acc.reverse, rest)
      | some (.key :: rest) =>
        let key := if endsFlowKey rest && rest.head? != some .flowListEnd then some (absent, rest)
          else node? handles fuel false false rest
        match key with
        | none => none
        | some (k, .value :: rest) =>
          if endsFlowValue rest then flowFields? handles fuel false ((k, absent) :: acc) rest
          else
            match node? handles fuel false false rest with
            | some (v, rest) => flowFields? handles fuel false ((k, v) :: acc) rest
            | none => none
        | some (k, rest) => flowFields? handles fuel false ((k, absent) :: acc) rest
      | some rest =>
        match node? handles fuel false false rest with
        | some (k, rest) => flowFields? handles fuel false ((k, absent) :: acc) rest
        | none => none

end

/-- The directives before a document: at most one version, which is 1.1 or 1.2, and each handle once. -/
def directives? : Bool → Handles → List Token → Option (Handles × List Token)
  | seen, hs, .version major minor :: rest =>
    if seen || major != 1 || (minor != 1 && minor != 2) then none else directives? true hs rest
  | seen, hs, .handle name start :: rest =>
    if hs.any (·.1 == name) then none else directives? seen ((name, start) :: hs) rest
  | _, hs, rest => some (hs ++ defaultHandles, rest)

/-- Tokens that end a document, or stand before one. -/
def endsDocument : List Token → Bool
  | [] => true
  | .documentStart :: _ => true
  | .documentEnd :: _ => true
  | .version _ _ :: _ => true
  | .handle _ _ :: _ => true
  | _ => false

/-- The node of a stream that holds one document: `some none` if it holds none. -/
def ofTokens? (ts : List Token) : Option (Option Node) := do
  if ts.isEmpty then return none
  let fuel := 4 * ts.length + 8
  let (hs, marked, rest) ← match ts with
    | .documentStart :: rest => some (defaultHandles, true, rest)
    | .version _ _ :: _ | .handle _ _ :: _ => do
      let (hs, rest) ← directives? false [] ts
      match rest with
      | .documentStart :: rest => some (hs, true, rest)
      | _ => none
    | _ => some (defaultHandles, false, ts)
  let (n, rest) ← if marked && endsDocument rest then some (absent, rest) else node? hs fuel true false rest
  let rest := match rest with
    | .documentEnd :: rest => rest
    | _ => rest
  if (rest.dropWhile (· == .documentEnd)).isEmpty then return some n else none

def parse? (s : String) : Option (Option Node) :=
  (Token.scan? s.toList).bind ofTokens?

end Node

end Portcullis.Document.Yaml
