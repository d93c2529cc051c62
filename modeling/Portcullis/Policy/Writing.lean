import Portcullis.Policy.Definition
import Portcullis.Policy.Outcome
import Portcullis.Document.Datum

/-! Policies as data, to be written as documents. What has a default is written, what may be left out
and is not there is left out. -/
namespace Portcullis.Policy
open Document

/-- A field that is written only if it has a value. -/
def field? {α : Type} (name : String) (write : α → Datum) (v : Option α) : List (String × Datum) :=
  (v.map fun a => (name, write a)).toList

def textList (l : List String) : Datum :=
  .ofList (l.map .text)

def natDatum (n : Nat) : Datum :=
  .int n

/-- A list that is written only if it has items. -/
def listField? (name : String) (items : List Datum) : List (String × Datum) :=
  if items.isEmpty then [] else [(name, .ofList items)]

def RuleKind.fields : RuleKind → List (String × Datum)
  | .addHeader header value =>
    [("type", .text "add_header"), ("header", .text header), ("value", .text value)]
  | .addCookieFlags cookie secure httpOnly =>
    [("type", .text "add_cookie_flags"), ("cookie", .text cookie), ("secure", .bool secure),
      ("http_only", .bool httpOnly)]
  | .replaceContent pattern replacement contentType =>
    [("type", .text "replace_content"), ("pattern", .text pattern), ("replacement", .text replacement)]
      ++ field? "content_type" .text contentType
  | .detectOutboundContent pattern keywords contentType status =>
    ("type", .text "detect_outbound_content") :: (field? "pattern" .text pattern
      ++ listField? "keywords" (keywords.map .text) ++ field? "content_type" .text contentType
      ++ field? "status" natDatum status)
  | .restrictMethod methods status =>
    [("type", .text "restrict_method"), ("methods", textList methods), ("status", natDatum status)]
  | .enforceHttps => [("type", .text "enforce_https")]
  | .requireRole roles status redirect =>
    [("type", .text "require_role"), ("roles", textList roles)] ++ field? "status" natDatum status
      ++ field? "redirect" .text redirect
  | .virtualPatch header parameter pattern message =>
    ("type", .text "virtual_patch") :: (field? "header" .text header ++ field? "parameter" .text parameter
      ++ [("pattern", .text pattern)] ++ field? "message" .text message)

def ExceptionDefinition.toDatum : ExceptionDefinition → Datum
  | .literal path => .text path
  | .regex pattern => .ofFields [("regex", .text pattern)]

def RuleDefinition.toDatum (r : RuleDefinition) : Datum :=
  .ofFields ([("id", .text r.id), ("path", .text r.path)]
    ++ listField? "exceptions" (r.exceptions.map ExceptionDefinition.toDatum) ++ r.kind.fields)

def Settings.toDatum (s : Settings) : Datum :=
  .ofFields [("mode", .text s.mode.label), ("block_status", natDatum s.blockStatus),
    ("redirect_location", .text s.redirectLocation), ("max_rules", natDatum s.maxRules)]

def PolicyDefinition.toDatum (p : PolicyDefinition) : Datum :=
  .ofFields ([("name", .text p.name)] ++ field? "description" .text p.description
    ++ [("version", .text p.version), ("settings", p.settings.toDatum),
      ("rules", .ofList (p.rules.map RuleDefinition.toDatum))])

def Remedy.toDatum : Remedy → Datum
  | .block s => .ofFields [("type", .text "block"), ("status", natDatum s.code)]
  | .redirect l => .ofFields [("type", .text "redirect"), ("location", .text l)]

end Portcullis.Policy
