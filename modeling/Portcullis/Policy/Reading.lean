import Portcullis.Policy.Definition
import Portcullis.Policy.Outcome
import Portcullis.Document.Reader

/-! Reading policies from documents. -/
namespace Portcullis.Policy
open Document Http

namespace Parameters

/-- Parameters of a rule whose kind is still open: names with settled values. -/
abbrev Bag := List (String × Datum)

def get? (b : Bag) (name : String) : Option Datum :=
  (b.find? (·.1 == name)).map (·.2)

def text? : Datum → Option String
  | .text s => some s
  | _ => none

def bool? : Datum → Option Bool
  | .bool b => some b
  | _ => none

def code? : Datum → Option Nat
  | .int n => if 0 ≤ n ∧ n ≤ Datum.max16 then some n.toNat else none
  | _ => none

def texts? (d : Datum) : Option (List String) :=
  d.elements?.bind (·.mapM text?)

def required? {α : Type} (read : Datum → Option α) (b : Bag) (name : String) : Option α :=
  (get? b name).bind read

/-- A parameter that may be absent or null. -/
def optional? {α : Type} (read : Datum → Option α) (b : Bag) (name : String) : Option (Option α) :=
  match get? b name with
  | none => some none
  | some .null => some none
  | some d => (read d).map some

def withDefault? {α : Type} (read : Datum → Option α) (fallback : α) (b : Bag) (name : String) : Option α :=
  match get? b name with
  | none => some fallback
  | some d => read d

end Parameters

namespace RuleKind

/-- The names of the kinds, in the order that also numbers them. -/
def names : List String :=
  ["add_header", "add_cookie_flags", "replace_content", "detect_outbound_content", "restrict_method",
    "enforce_https", "require_role", "virtual_patch"]

/-- The parameters that a kind of rule has. -/
def parameterNames (kind : String) : List String :=
  match kind with
  | "add_header" => ["header", "value"]
  | "add_cookie_flags" => ["cookie", "secure", "http_only"]
  | "replace_content" => ["pattern", "replacement", "content_type"]
  | "detect_outbound_content" => ["pattern", "keywords", "content_type", "status"]
  | "restrict_method" => ["methods", "status"]
  | "require_role" => ["roles", "status", "redirect"]
  | "virtual_patch" => ["header", "parameter", "pattern", "message"]
  | _ => []

/-- The kind with so many parameters, all of them known and none twice. -/
def ofParameters? (kind : String) (b : Parameters.Bag) : Option RuleKind := do
  let known := parameterNames kind
  if !b.all (known.contains ·.1) || !Datum.isSingle known b then none
  else
    let text := fun n => Parameters.required? Parameters.text? b n
    let text? := fun n => Parameters.optional? Parameters.text? b n
    let code? := fun n => Parameters.optional? Parameters.code? b n
    match kind with
    | "add_header" => return .addHeader (← text "header") (← text "value")
    | "add_cookie_flags" =>
      return .addCookieFlags
        (← Parameters.withDefault? Parameters.text? everyPath b "cookie")
        (← Parameters.withDefault? Parameters.bool? true b "secure")
        (← Parameters.withDefault? Parameters.bool? true b "http_only")
    | "replace_content" =>
      return .replaceContent (← text "pattern") (← text "replacement") (← text? "content_type")
    | "detect_outbound_content" =>
      return .detectOutboundContent (← text? "pattern")
        (← Parameters.withDefault? Parameters.texts? [] b "keywords")
        (← text? "content_type") (← code? "status")
    | "restrict_method" =>
      return .restrictMethod (← Parameters.required? Parameters.texts? b "methods")
        (← Parameters.withDefault? Parameters.code? 405 b "status")
    | "enforce_https" => return .enforceHttps
    | "require_role" =>
      return .requireRole (← Parameters.withDefault? Parameters.texts? [] b "roles")
        (← code? "status") (← text? "redirect")
    | "virtual_patch" =>
      return .virtualPatch (← text? "header") (← text? "parameter") (← text "pattern") (← text? "message")
    | _ => none

/-- The name of a kind, which may also be given by its number. -/
def name? : Datum → Option String
  | .text s => if names.contains s then some s else none
  | .int n => if n < 0 then none else names[n.toNat]?
  | _ => none

/-- The kind of a rule, from all entries that are not common to rules. -/
def ofBag? (b : Parameters.Bag) : Option RuleKind :=
  match b.filter (·.1 == "type") with
  | [(_, d)] => (name? d).bind fun kind => ofParameters? kind (b.filter (·.1 != "type"))
  | _ => none

end RuleKind

namespace ExceptionDefinition

/-- An entry of a record is the pattern if it has the name or the number of the only field. -/
def isRegexKey : Key → Bool
  | .text s => s == "regex"
  | .index n _ => n == 0
  | _ => false

/-- Keys that name a field, be it a known one. -/
def isFieldKey : Key → Bool
  | .text _ => true
  | .index _ _ => true
  | _ => false

/-- A text is a path. A record has to have one pattern; its other fields count for nothing. -/
def ofDatum? (depth : Nat) (d : Datum) : Option ExceptionDefinition := do
  match ← d.settle? depth with
  | .text s => some (.literal s)
  | .record _ fields =>
    if !fields.all (isFieldKey ·.1) then none
    else
      match fields.filter (isRegexKey ·.1) with
      | [(_, .text p)] => some (.regex p)
      | _ => none
  | _ => none

end ExceptionDefinition

namespace RuleDefinition

/-- The fields that all kinds of rules have. -/
def commonNames : List String := ["id", "path", "exceptions"]

/-- Reads a rule where so many lists and records may still be opened. All that is not common to rules
is a parameter of its kind. -/
def ofDatum? (depth : Nat) (d : Datum) : Option RuleDefinition := do
  let entries ← d.entries?
  if depth = 0 || !Datum.isSingle commonNames entries then none
  else
    let common := fun n => Parameters.get? entries n
    let id ← (← common "id").text?
    let path ← Datum.orElse? Datum.text? everyPath (common "path")
    let exceptions ← Datum.orElse?
      (Datum.listOf? (ExceptionDefinition.ofDatum? (depth - 2))) [] (common "exceptions")
    let bag ← (entries.filter (!commonNames.contains ·.1)).mapM fun (n, d) =>
      (d.settle? (depth - 1)).map (n, ·)
    return { id, path, exceptions, kind := ← RuleKind.ofBag? bag }

/-- Reads a document that is one rule. -/
def ofDocument? (d : Datum) : Option RuleDefinition :=
  ofDatum? Datum.maxDepth d

end RuleDefinition

namespace Settings

def names : List String := ["mode", "block_status", "redirect_location", "max_rules"]

def ofDatum? (d : Datum) : Option Settings := do
  match ← d.fields? names with
  | [mode, status, location, limit] =>
    return {
      mode := ← Datum.orElse? (Datum.variant? Mode.ofLabel?) .block mode
      blockStatus := ← Datum.orElse? (Datum.nat? Datum.max16) 403 status
      redirectLocation := ← Datum.orElse? Datum.text? "/error" location
      maxRules := ← Datum.orElse? (Datum.nat? Datum.max64) defaultMaxRules limit }
  | _ => none

end Settings

namespace PolicyDefinition

def names : List String := ["name", "description", "version", "settings", "rules"]

def ofDatum? (d : Datum) : Option PolicyDefinition := do
  match ← d.fields? names with
  | [name, description, version, settings, rules] =>
    return {
      name := ← name.bind Datum.text?
      description := ← Datum.orElse? (Datum.option? Datum.text?) none description
      version := ← Datum.orElse? Datum.text? "1.0" version
      settings := ← Datum.orElse? Settings.ofDatum? {} settings
      rules := ← Datum.orElse? (Datum.listOf? (RuleDefinition.ofDatum? (Datum.maxDepth - 2))) [] rules }
  | _ => none

end PolicyDefinition

namespace Remedy

/-- Reads a remedy: a record with its type, or a row that begins with it. -/
def ofDatum? (d : Datum) : Option Remedy := do
  let (type, first, named) ← match d with
    | .record _ _ => do
      let entries ← d.entries?
      some (← Parameters.get? entries "type", none, entries)
    | .row (type :: rest) => if rest.length ≤ 1 then some (type, rest.head?, []) else none
    | _ => none
  let field := fun name => first <|> Parameters.get? named name
  match ← type.text? with
  | "block" => (((field "status").bind (Datum.nat? Datum.max16)).bind Status.ofCode?).map .block
  | "redirect" => ((field "location").bind Datum.text?).map .redirect
  | _ => none

end Remedy

end Portcullis.Policy
