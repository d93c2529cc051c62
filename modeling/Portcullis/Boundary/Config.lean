import Portcullis.Boundary.Identity
import Portcullis.Policy.Definition
import Portcullis.Url.Parse

/-! How the boundary is set up. -/
namespace Portcullis.Boundary
open Policy

/-- Where to listen, what to protect, and how much of it is held in memory. -/
structure Config where
  listen : String := "0.0.0.0"
  port : Nat := 8080
  backendUrl : String := "http://127.0.0.1:3000"
  policyPath : String := "./policies/default.yaml"
  loadMode : LoadMode := .strict
  maxBodyBytes : Nat := 2097152
  maxResponseBytes : Nat := 16777216
  backendTimeout : Nat := 30
  auditCapacity : Nat := 10000
  identity : IdentityHeaders := {}
  deriving DecidableEq, Repr

/-- Settings that go before those of a file. -/
structure Overrides where
  listen : Option String := none
  port : Option Nat := none
  backendUrl : Option String := none
  policyPath : Option String := none
  maxBodyBytes : Option Nat := none
  loadMode : Option LoadMode := none
  deriving DecidableEq, Repr

inductive ConfigDefect where
  | unreadable (reason : String)
  | noConfig
  | badBackend (url : String) (d : Url.Defect)
  | notWeb (scheme : String)
  | zeroLimit
  | badAddress
  deriving DecidableEq, Repr

def ConfigDefect.message : ConfigDefect → String
  | .unreadable reason => reason
  | .noConfig => "not a configuration"
  | .badBackend url d => "invalid backend_url '" ++ url ++ "': " ++ d.message
  | .notWeb scheme => "backend_url scheme '" ++ scheme ++ "' is not http or https"
  | .zeroLimit => "body limits must be greater than zero"
  | .badAddress => "invalid socket address syntax"

namespace Config

def override (c : Config) (o : Overrides) : Config :=
  { c with
    listen := o.listen.getD c.listen
    port := o.port.getD c.port
    backendUrl := o.backendUrl.getD c.backendUrl
    policyPath := o.policyPath.getD c.policyPath
    maxBodyBytes := o.maxBodyBytes.getD c.maxBodyBytes
    loadMode := o.loadMode.getD c.loadMode }

def address? (c : Config) : Option Net.SocketAddress :=
  Net.SocketAddress.parse? (c.listen ++ ":" ++ toString c.port)

/-- The backend has to be a web address, the limits must not be zero, and the place to listen has to be
an address. -/
def check (c : Config) : Except ConfigDefect Net.SocketAddress :=
  match Url.parse? c.backendUrl with
  | .error d => .error (.badBackend c.backendUrl d)
  | .ok (.other scheme) => .error (.notWeb scheme)
  | .ok (.web _) =>
    if c.maxBodyBytes = 0 || c.maxResponseBytes = 0 then .error .zeroLimit
    else
      match c.address? with
      | some a => .ok a
      | none => .error .badAddress

end Config

end Portcullis.Boundary
