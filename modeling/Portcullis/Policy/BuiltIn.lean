import Portcullis.Policy.Action.Headers
import Portcullis.Policy.Action.Content
import Portcullis.Policy.Action.Access

/-! The rules that policies are made of: an action, and the paths where it is taken. -/
namespace Portcullis.Policy
open Http

inductive Action where
  | addHeader (a : AddHeader)
  | hardenCookies (a : HardenCookies)
  | replaceContent (a : ReplaceContent)
  | detectContent (a : DetectContent)
  | restrictMethod (a : RestrictMethod)
  | enforceHttps
  | requireRole (a : RequireRole)
  | virtualPatch (a : VirtualPatch)

namespace Action

def kind : Action → String
  | .addHeader _ => "add_header"
  | .hardenCookies _ => "add_cookie_flags"
  | .replaceContent _ => "replace_content"
  | .detectContent _ => "detect_outbound_content"
  | .restrictMethod _ => "restrict_method"
  | .enforceHttps => "enforce_https"
  | .requireRole _ => "require_role"
  | .virtualPatch _ => "virtual_patch"

def phase : Action → Phase
  | .addHeader _ => .outbound
  | .hardenCookies _ => .outbound
  | .replaceContent _ => .outbound
  | .detectContent _ => .outbound
  | _ => .inbound

def run (a : Action) (r : Request) (c : Canvas) : Canvas × Outcome :=
  match a with
  | .addHeader a => a.run c
  | .hardenCookies a => a.run c
  | .replaceContent a => a.run c
  | .detectContent a => a.run c
  | .restrictMethod a => (c, a.decide r)
  | .enforceHttps => (c, EnforceHttps.decide r)
  | .requireRole a => (c, a.decide r)
  | .virtualPatch a => (c, a.decide r)

end Action

structure BuiltIn where
  id : String
  scope : Scope
  action : Action

namespace BuiltIn

/-- Outside of its scope a rule does nothing. -/
def check (b : BuiltIn) (r : Request) (c : Canvas) : Canvas × Outcome :=
  if b.scope.covers r.path then b.action.run r c else (c, .pass)

def toRule (b : BuiltIn) : Rule where
  id := b.id
  kind := b.action.kind
  phase := b.action.phase
  check r c :=
    let (c, o) := b.check r c
    (c, .finished o)

end BuiltIn

end Portcullis.Policy
