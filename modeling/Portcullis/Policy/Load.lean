import Portcullis.Document.Yaml.Read
import Portcullis.Policy.Engine
import Portcullis.Policy.Reading

/-! Policies from the text of a document and from a file. -/
namespace Portcullis.Policy
open Document

namespace PolicyDefinition

def ofText (s : String) : Except Defect PolicyDefinition :=
  match (Yaml.parse? s).bind ofDatum? with
  | some p => .ok p
  | none => .error (.yaml "not a policy")

/-- Reads a policy from the contents of a file, if it exists. -/
def ofFile (content : Option Bytes) : Except Defect PolicyDefinition :=
  match content with
  | none => .error (.file "No such file or directory (os error 2)")
  | some bs =>
    match bs.text? with
    | some s => ofText s
    | none => .error (.file "stream did not contain valid UTF-8")

end PolicyDefinition

def RuleDefinition.ofText (s : String) : Except Defect RuleDefinition :=
  match (Yaml.parse? s).bind ofDocument? with
  | some r => .ok r
  | none => .error (.yaml "not a rule")

/-- The engine of a policy file. Without a file there are no rules. -/
def Engine.ofFile (content : Option Bytes) (mode : LoadMode) : Except Defect Engine :=
  match content with
  | none => .ok {}
  | some bs => do (← PolicyDefinition.ofFile (some bs)).compile mode

end Portcullis.Policy
