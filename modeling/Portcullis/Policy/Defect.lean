/-! What can be wrong with a policy or a configuration. -/
namespace Portcullis.Policy

inductive RuleDefect where
  | emptyId
  | badPattern (field : String)
  | badContentPattern
  | badHeaderName (name : String)
  | badHeaderValue (header : String)
  | noCookieFlag
  | notOneSignature
  | noMethod
  | badMethod (method : String)
  | badStatus (code : Nat)
  | badLocation (location : String)
  | twoRemedies
  | badPatchHeader (name : String)
  | notOneTarget
  | other (reason : String)
  deriving DecidableEq, Repr

def RuleDefect.message : RuleDefect → String
  | .emptyId => "rule id is empty"
  | .badPattern field => "invalid " ++ field ++ " regex:"
  | .badContentPattern => "bad content pattern:"
  | .badHeaderName n => "bad header name '" ++ n ++ "': invalid HTTP header name"
  | .badHeaderValue h => "bad value for " ++ h ++ ": failed to parse header value"
  | .noCookieFlag => "neither secure nor http_only is set"
  | .notOneSignature => "exactly one of pattern or keywords is required"
  | .noMethod => "allow-list is empty"
  | .badMethod m => "bad method '" ++ m ++ "': invalid HTTP method"
  | .badStatus n => "status " ++ toString n ++ " is not a 4xx or 5xx code"
  | .badLocation l => "invalid redirect location '" ++ l ++ "'"
  | .twoRemedies => "status and redirect are mutually exclusive"
  | .badPatchHeader n => "invalid header name '" ++ n ++ "'"
  | .notOneTarget => "exactly one of header or parameter is required"
  | .other reason => reason

inductive SettingDefect where
  | noStatus (code : Nat)
  | notAnError (code : Nat)
  | badLocation (location : String)
  | other (reason : String)
  deriving DecidableEq, Repr

def SettingDefect.message : SettingDefect → String
  | .noStatus n => "invalid block status " ++ toString n
  | .notAnError n => "block status must be a 4xx or 5xx code, got " ++ toString n
  | .badLocation l => "invalid redirect location '" ++ l ++ "'"
  | .other reason => reason

/-- Why a policy cannot be put to use. -/
inductive Defect where
  | setting (d : SettingDefect)
  | rule (id : String) (d : RuleDefect)
  | repeatedRule (id : String)
  | tooManyRules (limit actual : Nat)
  | file (reason : String)
  | json (reason : String)
  | yaml (reason : String)
  | fault (reason : String)
  deriving DecidableEq, Repr

namespace Defect

def message : Defect → String
  | .setting d => "configuration error: " ++ d.message
  | .rule id d => "invalid rule '" ++ id ++ "': " ++ d.message
  | .repeatedRule id => "duplicate rule id '" ++ id ++ "'"
  | .tooManyRules limit actual =>
    "rule chain holds " ++ toString actual ++ " rules, limit is " ++ toString limit
  | .file reason => "io error: " ++ reason
  | .json reason => "serialization error: " ++ reason
  | .yaml reason => "yaml error: " ++ reason
  | .fault reason => "internal error: " ++ reason

/-- The rule that is to blame, if it is one. -/
def ruleId? : Defect → Option String
  | .rule id _ => some id
  | .repeatedRule id => some id
  | _ => none

end Defect

end Portcullis.Policy
