import Portcullis.Boundary.Config
import Portcullis.Document.Yaml.Read
import Portcullis.Policy.Reading

/-! Configurations in documents. -/
namespace Portcullis.Boundary
open Document Policy

namespace IdentityHeaders

def names : List String := ["enabled", "user_header", "roles_header"]

def ofDatum? (d : Datum) : Option IdentityHeaders := do
  let dflt : IdentityHeaders := {}
  match ← d.fields? names with
  | [enabled, user, roles] =>
    return {
      enabled := ← Datum.orElse? Datum.bool? dflt.enabled enabled
      user := ← Datum.orElse? Datum.text? dflt.user user
      roles := ← Datum.orElse? Datum.text? dflt.roles roles }
  | _ => none

def toDatum (i : IdentityHeaders) : Datum :=
  .ofFields [("enabled", .bool i.enabled), ("user_header", .text i.user), ("roles_header", .text i.roles)]

end IdentityHeaders

namespace Config

def names : List String :=
  ["listen", "port", "backend_url", "policy_path", "load_mode", "max_body_bytes", "max_response_bytes",
    "backend_timeout_secs", "audit_capacity", "identity"]

/-- What is left out has a default. -/
def ofDatum? (d : Datum) : Option Config := do
  let dflt : Config := {}
  match ← d.fields? names with
  | [listen, port, backend, policy, mode, body, response, timeout, audit, identity] =>
    return {
      listen := ← Datum.orElse? Datum.text? dflt.listen listen
      port := ← Datum.orElse? (Datum.nat? Datum.max16) dflt.port port
      backendUrl := ← Datum.orElse? Datum.text? dflt.backendUrl backend
      policyPath := ← Datum.orElse? Datum.text? dflt.policyPath policy
      loadMode := ← Datum.orElse? (Datum.variant? LoadMode.ofLabel?) dflt.loadMode mode
      maxBodyBytes := ← Datum.orElse? (Datum.nat? Datum.max64) dflt.maxBodyBytes body
      maxResponseBytes := ← Datum.orElse? (Datum.nat? Datum.max64) dflt.maxResponseBytes response
      backendTimeout := ← Datum.orElse? (Datum.nat? Datum.max64) dflt.backendTimeout timeout
      auditCapacity := ← Datum.orElse? (Datum.nat? Datum.max64) dflt.auditCapacity audit
      identity := ← Datum.orElse? IdentityHeaders.ofDatum? dflt.identity identity }
  | _ => none

def toDatum (c : Config) : Datum :=
  .ofFields [("listen", .text c.listen), ("port", .int c.port), ("backend_url", .text c.backendUrl),
    ("policy_path", .text c.policyPath), ("load_mode", .text c.loadMode.label),
    ("max_body_bytes", .int c.maxBodyBytes), ("max_response_bytes", .int c.maxResponseBytes),
    ("backend_timeout_secs", .int c.backendTimeout), ("audit_capacity", .int c.auditCapacity),
    ("identity", c.identity.toDatum)]

def ofText (s : String) (o : Overrides) : Except ConfigDefect Config :=
  match (Yaml.parse? s).bind ofDatum? with
  | none => .error .noConfig
  | some c => .ok (c.override o)

/-- The configuration in a file, or the default if there is no file. -/
def ofFile (content : Option Bytes) (o : Overrides) : Except ConfigDefect Config :=
  match content with
  | none => .ok (override {} o)
  | some bs =>
    match bs.text? with
    | none => .error (.unreadable "stream did not contain valid UTF-8")
    | some s => ofText s o

/-- A configuration that was checked, and the address that it listens on. -/
def load (content : Option Bytes) (o : Overrides) : Except ConfigDefect (Config × Net.SocketAddress) := do
  let c ← ofFile content o
  return (c, ← c.check)

end Config

end Portcullis.Boundary
