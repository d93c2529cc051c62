import Portcullis.Policy.Defect

/-! Policies as they are written in documents. -/
namespace Portcullis.Policy

/-- How an aborted chain is answered: not at all, with an error status, or with a redirect. -/
inductive Mode where
  | log
  | block
  | redirect
  deriving DecidableEq, Repr

namespace Mode

def label : Mode → String
  | .log => "log"
  | .block => "block"
  | .redirect => "redirect"

def ofLabel? : String → Option Mode
  | "log" => some .log
  | "block" => some .block
  | "redirect" => some .redirect
  | _ => none

end Mode

/-- Whether a defective rule fails the load of a policy or is left out. -/
inductive LoadMode where
  | strict
  | lenient
  deriving DecidableEq, Repr

namespace LoadMode

def label : LoadMode → String
  | .strict => "strict"
  | .lenient => "lenient"

def ofLabel? : String → Option LoadMode
  | "strict" => some .strict
  | "lenient" => some .lenient
  | _ => none

end LoadMode

def defaultMaxRules : Nat := 256

/-- How a policy is enforced. -/
structure Settings where
  mode : Mode := .block
  blockStatus : Nat := 403
  redirectLocation : String := "/error"
  maxRules : Nat := defaultMaxRules
  deriving DecidableEq, Repr

/-- An exception as written: a path, or a pattern for paths. -/
inductive ExceptionDefinition where
  | literal (path : String)
  | regex (pattern : String)
  deriving DecidableEq, Repr

/-- The parameters of a rule, by its kind. -/
inductive RuleKind where
  | addHeader (header value : String)
  | addCookieFlags (cookie : String) (secure httpOnly : Bool)
  | replaceContent (pattern replacement : String) (contentType : Option String)
  | detectOutboundContent (pattern : Option String) (keywords : List String)
      (contentType : Option String) (status : Option Nat)
  | restrictMethod (methods : List String) (status : Nat)
  | enforceHttps
  | requireRole (roles : List String) (status : Option Nat) (redirect : Option String)
  | virtualPatch (header parameter : Option String) (pattern : String) (message : Option String)
  deriving DecidableEq, Repr

def everyPath : String := ".*"

/-- A rule as written. -/
structure RuleDefinition where
  id : String
  path : String := everyPath
  exceptions : List ExceptionDefinition := []
  kind : RuleKind
  deriving DecidableEq, Repr

/-- A policy as written. -/
structure PolicyDefinition where
  name : String
  description : Option String := none
  version : String := "1.0"
  settings : Settings := {}
  rules : List RuleDefinition := []
  deriving DecidableEq, Repr

end Portcullis.Policy
