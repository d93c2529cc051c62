import Portcullis.Policy.BuiltIn
import Portcullis.Policy.Definition

/-! Building rules from their definitions. -/
namespace Portcullis.Policy
open Http

/-- What is there, or a reason why it is not. -/
def orDefect {α : Type} (d : RuleDefect) (v : Option α) : Except RuleDefect α :=
  match v with
  | some a => .ok a
  | none => .error d

def wholePattern (field source : String) : Except RuleDefect WholePattern :=
  orDefect (.badPattern field) (WholePattern.ofSource? source)

def textPattern (field source : String) : Except RuleDefect Regex :=
  orDefect (.badPattern field) (Regex.ofText? source)

def contentTypeFilter (source : Option String) : Except RuleDefect (Option Regex) :=
  source.mapM (textPattern "content_type")

/-- A status to block with, which has to report an error. -/
def blockStatus (code : Nat) : Except RuleDefect Status :=
  orDefect (.badStatus code) ((Status.ofCode? code).filter Status.isError)

/-- A location has something in it, and only what a field can hold. -/
def isLocation (location : String) : Bool :=
  !location.isEmpty && (HeaderValue.ofText? location).isSome

def redirectLocation (location : String) : Except RuleDefect String :=
  if isLocation location then .ok location else .error (.badLocation location)

/-- A method of an allow-list, which is written in any case. -/
def allowedMethod (m : String) : Except RuleDefect Method :=
  orDefect (.badMethod m) (Method.parse? (String.ofList (m.toList.map Char.toUpper)))

def AddHeader.build (header value : String) : Except RuleDefect AddHeader := do
  let header ← orDefect (.badHeaderName header) (HeaderName.parse? header)
  let value ← orDefect (.badHeaderValue header.text) (HeaderValue.ofText? value)
  return { header, value }

namespace RuleKind

def build : RuleKind → Except RuleDefect Action
  | .addHeader header value => Action.addHeader <$> AddHeader.build header value
  | .addCookieFlags cookie secure httpOnly =>
    if !secure && !httpOnly then .error .noCookieFlag
    else (fun cookie => Action.hardenCookies { cookie, secure, httpOnly }) <$> wholePattern "cookie" cookie
  | .replaceContent pattern replacement contentType => do
    let pattern ← textPattern "pattern" pattern
    let contentType ← contentTypeFilter contentType
    return .replaceContent { pattern, replacement := Regex.template replacement.toList, contentType }
  | .detectOutboundContent pattern keywords contentType status => do
    let signature ← match pattern, keywords with
      | some p, [] => ContentSignature.pattern <$> orDefect .badContentPattern (Regex.ofBytes? p)
      | none, w :: ws => .ok (ContentSignature.keywords (Keywords.ofTexts (w :: ws)))
      | _, _ => .error .notOneSignature
    let contentType ← contentTypeFilter contentType
    let status ← status.mapM blockStatus
    return .detectContent { signature, contentType, status }
  | .restrictMethod methods status => do
    let status ← blockStatus status
    if methods.isEmpty then .error .noMethod
    else
      let allowed ← methods.mapM allowedMethod
      return .restrictMethod { allowed, status }
  | .enforceHttps => .ok .enforceHttps
  | .requireRole roles status redirect => do
    let remedy ← match status, redirect with
      | some _, some _ => .error .twoRemedies
      | some s, none => (fun s => some (Remedy.block s)) <$> blockStatus s
      | none, some l => (fun l => some (Remedy.redirect l)) <$> redirectLocation l
      | none, none => .ok none
    return .requireRole { roles, remedy }
  | .virtualPatch header parameter pattern message => do
    let target ← match header, parameter with
      | some h, none => PatchTarget.header <$> orDefect (.badPatchHeader h) (HeaderName.parse? h)
      | none, some p => .ok (PatchTarget.parameter p)
      | _, _ => .error .notOneTarget
    let signature ← orDefect (.badPattern "pattern") (Regex.ofBytes? pattern)
    return .virtualPatch { target, signature, message }

end RuleKind

def ExceptionDefinition.build : ExceptionDefinition → Except RuleDefect Exemption
  | .literal path => .ok (.literal path)
  | .regex pattern => Exemption.pattern <$> wholePattern "exception" pattern

namespace RuleDefinition

def scope (d : RuleDefinition) : Except RuleDefect Scope := do
  let pattern ← wholePattern "path" d.path
  let exceptions ← d.exceptions.mapM ExceptionDefinition.build
  return { pattern, exceptions }

def buildParts (d : RuleDefinition) : Except RuleDefect BuiltIn := do
  if (Text.trim d.id.toList).isEmpty then .error .emptyId
  else
    let scope ← d.scope
    let action ← d.kind.build
    return { id := d.id, scope, action }

def build (d : RuleDefinition) : Except Defect BuiltIn :=
  d.buildParts.mapError (.rule d.id)

end RuleDefinition

end Portcullis.Policy
