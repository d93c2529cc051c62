import Portcullis.Policy.Chain
import Portcullis.Policy.Build

/-! What the client gets to see of an aborted chain. -/
namespace Portcullis.Policy
open Http

/-- What becomes of an exchange. -/
inductive Verdict where
  | allow
  | block (status : Status)
  | redirect (location : String)
  deriving DecidableEq, Repr

namespace Verdict

def isAllow : Verdict → Bool
  | .allow => true
  | _ => false

def label : Verdict → String
  | .allow => "allow"
  | .block _ => "block"
  | .redirect _ => "redirect"

def noStore : HeaderValue :=
  ⟨Bytes.ofText "no-store"⟩

def plainText : HeaderValue :=
  ⟨Bytes.ofText "text/plain; charset=utf-8"⟩

def blockPage (status : Status) : Response :=
  { status
    headers := ⟨[(.contentType, plainText), (.cacheControl, noStore)]⟩
    body := Bytes.ofText (status.reason?.getD "Request rejected" ++ "\n") }

/-- A redirect to a location that no field can hold is a plain refusal. -/
def redirectPage (location : String) : Response :=
  match HeaderValue.ofText? location with
  | some v => { status := .found, headers := ⟨[(.location, v), (.cacheControl, noStore)]⟩ }
  | none =>
    { status := .forbidden
      headers := ⟨[(.cacheControl, noStore)]⟩
      body := Bytes.ofText "Forbidden\n" }

/-- The response in place of the application's. -/
def page? : Verdict → Option Response
  | .allow => none
  | .block s => some (blockPage s)
  | .redirect l => some (redirectPage l)

end Verdict

structure Enforcer where
  mode : Mode := .block
  blockStatus : Status := .forbidden
  redirectLocation : String := "/error"
  deriving DecidableEq, Repr

namespace Enforcer

/-- The enforcer of some settings: its status has to report an error, and its location has to fit into
a field. -/
def ofSettings (s : Settings) : Except Defect Enforcer :=
  match Status.ofCode? s.blockStatus with
  | none => .error (.setting (.noStatus s.blockStatus))
  | some status =>
    if !status.isError then .error (.setting (.notAnError s.blockStatus))
    else if !isLocation s.redirectLocation then .error (.setting (.badLocation s.redirectLocation))
    else .ok ⟨s.mode, status, s.redirectLocation⟩

/-- What becomes of an exchange after a chain. The remedy of the outcome goes before the settings; where
aborts are only recorded, nothing is done. -/
def resolve (e : Enforcer) (r : ChainResult) : Verdict :=
  match r.disposition with
  | .allow => .allow
  | .abort _ o =>
    match e.mode, o.remedy? with
    | .log, _ => .allow
    | _, some (.block s) => .block s
    | _, some (.redirect l) => .redirect l
    | .block, none => .block e.blockStatus
    | .redirect, none => .redirect e.redirectLocation

end Enforcer

end Portcullis.Policy
