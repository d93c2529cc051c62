import Portcullis.Http.Method

/-! What a rule answers: nothing to do, handled in place, stop, or trouble. -/
namespace Portcullis.Policy
open Http

/-- What the boundary should do with an aborted exchange. -/
inductive Remedy where
  | block (status : Status)
  | redirect (location : String)
  deriving DecidableEq, Repr

/-- The answer of one rule to one check. Messages are for logs and audit, never for clients. -/
inductive Outcome where
  | pass (message : Option String := none)
  | applied (message : Option String := none)
  | abort (remedy : Option Remedy) (message : Option String := none)
  | anomaly (message : String)
  deriving DecidableEq, Repr

namespace Outcome

/-- The condition was detected. -/
def hasFired : Outcome → Bool
  | .applied _ => true
  | .abort _ _ => true
  | _ => false

/-- The chain has to stop. -/
def demandsAction : Outcome → Bool
  | .abort _ _ => true
  | _ => false

def isAnomaly : Outcome → Bool
  | .anomaly _ => true
  | _ => false

def isApplied : Outcome → Bool
  | .applied _ => true
  | _ => false

/-- Nothing was detected, nothing went wrong. -/
def isPass : Outcome → Bool
  | .pass _ => true
  | _ => false

def remedy? : Outcome → Option Remedy
  | .abort r _ => r
  | _ => none

def message? : Outcome → Option String
  | .pass m => m
  | .applied m => m
  | .abort _ m => m
  | .anomaly m => some m

def withMessage (o : Outcome) (m : String) : Outcome :=
  match o with
  | .pass _ => .pass (some m)
  | .applied _ => .applied (some m)
  | .abort r _ => .abort r (some m)
  | .anomaly _ => .anomaly m

/-- The word for an outcome in logs and counters. -/
def label : Outcome → String
  | .pass _ => "pass"
  | .applied _ => "applied"
  | .abort _ _ => "abort"
  | .anomaly _ => "anomaly"

end Outcome

end Portcullis.Policy
