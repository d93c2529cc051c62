import Portcullis.Policy.Interceptor
import Portcullis.Policy.Outcome

/-! The contract of a rule. -/
namespace Portcullis.Policy
open Http

/-- When in an exchange a rule runs. -/
inductive Phase where
  | inbound
  | outbound
  deriving DecidableEq, Repr

def Phase.label : Phase → String
  | .inbound => "inbound"
  | .outbound => "outbound"

/-- How a check ends: with an outcome, or in a crash that may say why. -/
inductive CheckEnd where
  | finished (outcome : Outcome)
  | crashed (reason : Option String)
  deriving DecidableEq, Repr

/-- A crash counts as an anomaly. -/
def CheckEnd.outcome : CheckEnd → Outcome
  | .finished o => o
  | .crashed reason => .anomaly ("rule panicked: " ++ reason.getD "unknown panic")

/-- A unit of policy. Its check sees a request and may write to the canvas. -/
structure Rule where
  id : String
  kind : String
  phase : Phase
  check : Request → Canvas → Canvas × CheckEnd

/-- The first id that an earlier element of the list has. -/
def firstRepeated? : List String → List String → Option String
  | _, [] => none
  | seen, id :: rest => if seen.contains id then some id else firstRepeated? (id :: seen) rest

end Portcullis.Policy
