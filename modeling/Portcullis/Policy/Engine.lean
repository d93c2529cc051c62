import Portcullis.Policy.Enforcement

/-! A policy in force: two chains and how their aborts are answered. -/
namespace Portcullis.Policy
open Http

/-- The inbound and the outbound chain of a policy. -/
structure Engine where
  inbound : Chain := {}
  outbound : Chain := {}
  enforcer : Enforcer := {}

namespace Engine

/-- Parts the rules by phase, in their order. The limit and the ids count for both phases together. -/
def ofRules (rules : List Rule) (enforcer : Enforcer) (limit : Nat) : Except Defect Engine := do
  let _ ← Chain.ofRules rules limit
  let inbound ← Chain.ofRules (rules.filter (·.phase == .inbound)) limit
  let outbound ← Chain.ofRules (rules.filter (·.phase != .inbound)) limit
  return { inbound, outbound, enforcer }

def ruleCount (e : Engine) : Nat :=
  e.inbound.rules.length + e.outbound.rules.length

def evaluateInbound (e : Engine) (request : Request) (raw : Response) : ChainResult × Response :=
  e.inbound.evaluate request raw

def evaluateOutbound (e : Engine) (request : Request) (i : Interceptor) (raw : Response) :
    ChainResult × Response :=
  e.outbound.evaluateWith request i raw

end Engine

namespace PolicyDefinition

/-- Builds the definitions in order. One whose id occurred before is defective, even if the earlier one
did not build. Lenient loading leaves defective ones out. -/
def buildRules (mode : LoadMode) : List String → List RuleDefinition → Except Defect (List BuiltIn)
  | _, [] => .ok []
  | seen, d :: rest =>
    let built := if seen.contains d.id then .error (.repeatedRule d.id) else d.build
    match built, mode with
    | .ok b, _ => (b :: ·) <$> buildRules mode (d.id :: seen) rest
    | .error e, .strict => .error e
    | .error _, .lenient => buildRules mode (d.id :: seen) rest

/-- The policy in force. Defects of the settings and too many rules count in either mode. -/
def compile (p : PolicyDefinition) (mode : LoadMode) : Except Defect Engine := do
  let enforcer ← Enforcer.ofSettings p.settings
  if p.rules.length > p.settings.maxRules then
    .error (.tooManyRules p.settings.maxRules p.rules.length)
  else
    let rules ← buildRules mode [] p.rules
    Engine.ofRules (rules.map BuiltIn.toRule) enforcer p.settings.maxRules

end PolicyDefinition

end Portcullis.Policy
