import Portcullis.Duration
import Portcullis.Policy.Rule
import Portcullis.Policy.Defect

/-! Running rules one after another over one exchange. -/
namespace Portcullis.Policy
open Http

/-- Whether a chain lets the exchange go on, or which rule stopped it. -/
inductive Disposition where
  | allow
  | abort (ruleId : String) (outcome : Outcome)
  deriving DecidableEq, Repr

/-- What a chain did: where it ended, the outcomes in order, what was committed, and how long it
took. -/
structure ChainResult where
  disposition : Disposition := .allow
  outcomes : List (String × Outcome) := []
  flushed : Flushed := {}
  latency : Duration := {}
  deriving DecidableEq, Repr

namespace ChainResult

def isAllowed (r : ChainResult) : Bool :=
  r.disposition == .allow

def abortedBy? (r : ChainResult) : Option String :=
  match r.disposition with
  | .allow => none
  | .abort id _ => some id

/-- The rules that detected their condition. -/
def fired (r : ChainResult) : List (String × Outcome) :=
  r.outcomes.filter (·.2.hasFired)

/-- The rules that could not evaluate. -/
def anomalies (r : ChainResult) : List (String × Outcome) :=
  r.outcomes.filter (·.2.isAnomaly)

end ChainResult

structure Chain where
  rules : List Rule := []

namespace Chain

/-- A chain holds a limited number of rules with different ids. -/
def ofRules (rules : List Rule) (limit : Nat := 256) : Except Defect Chain :=
  if rules.length > limit then .error (.tooManyRules limit rules.length)
  else
    match firstRepeated? [] (rules.map (·.id)) with
    | some id => .error (.repeatedRule id)
    | none => .ok ⟨rules⟩

/-- Where a run of rules ended, and the state it left. -/
structure Progress where
  disposition : Disposition
  outcomes : List (String × Outcome)
  intercepted : Interceptor
  raw : Response
  deriving DecidableEq, Repr

/-- Runs rules in order on one buffer, each on what those before it left, up to the first that demands
action. No rule can take the buffer away. -/
def runRules (request : Request) : List Rule → Interceptor → Response → Progress
  | [], i, raw => ⟨.allow, [], i, raw⟩
  | rule :: rest, i, raw =>
    let (c, ended) := rule.check request ⟨some i, raw⟩
    let i := c.intercepted.getD i
    let o := ended.outcome
    if o.demandsAction then ⟨.abort rule.id o, [(rule.id, o)], i, c.raw⟩
    else
      let p := runRules request rest i c.raw
      { p with outcomes := (rule.id, o) :: p.outcomes }

/-- Runs the chain and commits the buffer, however the run ended. A buffer that was committed before
has nothing more to commit. -/
def evaluateWith (chain : Chain) (request : Request) (i : Interceptor) (raw : Response) :
    ChainResult × Response :=
  let p := runRules request chain.rules i raw
  match p.intercepted.flush p.raw with
  | .ok (flushed, _, raw) => ({ disposition := p.disposition, outcomes := p.outcomes, flushed }, raw)
  | .error _ => ({ disposition := p.disposition, outcomes := p.outcomes }, p.raw)

def evaluate (chain : Chain) (request : Request) (raw : Response) : ChainResult × Response :=
  chain.evaluateWith request {} raw

end Chain

end Portcullis.Policy
