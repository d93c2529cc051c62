import Portcullis.Policy.Engine

/-! What is counted while policies run. -/
namespace Portcullis.Telemetry
open Policy

inductive Event where
  | requestEntered
  | ruleEnded (rule result : String)
  | chainAborted (rule : String)
  | chainTimed (phase : Phase)
  | verdictEnforced (verdict : String)
  deriving DecidableEq, Repr

namespace Event

def series : Event → String
  | .requestEntered => "httpwall_requests_total"
  | .ruleEnded _ _ => "httpwall_rule_outcomes_total"
  | .chainAborted _ => "httpwall_chain_aborts_total"
  | .chainTimed _ => "httpwall_chain_latency_us"
  | .verdictEnforced _ => "httpwall_verdicts_total"

def labels : Event → List (String × String)
  | .requestEntered => []
  | .ruleEnded rule result => [("rule", rule), ("result", result)]
  | .chainAborted rule => [("rule", rule)]
  | .chainTimed phase => [("phase", phase.label)]
  | .verdictEnforced verdict => [("verdict", verdict)]

/-- Events are listed by series, then by labels. -/
def sortKey (e : Event) : List String :=
  e.series :: e.labels.flatMap fun (k, v) => [k, v]

/-- An outcome of a rule counts under the rule, and once more if it stops the chain. -/
def ofOutcome (rule : String) (o : Outcome) : List Event :=
  (if o.demandsAction then [.chainAborted rule] else []) ++ [.ruleEnded rule o.label]

def ofChain (r : ChainResult) : List Event :=
  r.outcomes.flatMap fun (rule, o) => ofOutcome rule o

def ofPhase (phase : Phase) (r : ChainResult) : List Event :=
  ofChain r ++ [.chainTimed phase]

/-- A verdict counts if it keeps the exchange from going on. -/
def ofVerdict (v : Verdict) : List Event :=
  if v.isAllow then [] else [.verdictEnforced v.label]

/-- Lists of texts in the order of their code points, a shorter list before its continuations. -/
def precedes : List String → List String → Bool
  | [], _ => true
  | _ :: _, [] => false
  | a :: as, b :: bs => if a == b then precedes as bs else decide (a < b)

/-- How often each event happened, in the order in which they are listed. -/
def tally (events : List Event) : List (Event × Nat) :=
  (events.eraseDups.mergeSort fun a b => precedes a.sortKey b.sortKey).map fun e => (e, events.count e)

end Event

end Portcullis.Telemetry
