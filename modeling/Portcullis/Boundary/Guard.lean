import Portcullis.Boundary.Config
import Portcullis.Boundary.Ledger

/-! Inspection of exchanges between clients and an application: the inbound chain decides before the
application is reached, the outbound chain over its buffered response. -/
namespace Portcullis.Boundary
open Http Policy

/-- An application answers requests. -/
abbrev Application := Request → Response

/-- What tells an exchange apart: an id for it, and stamps for the events that it may leave. -/
structure Marks where
  requestId : String
  inbound : Audit.Trail.Stamp
  outbound : Audit.Trail.Stamp
  deriving DecidableEq, Repr, Inhabited

def Marks.stamp (m : Marks) : Phase → Audit.Trail.Stamp
  | .inbound => m.inbound
  | .outbound => m.outbound

/-- How an exchange ended: the response, what the application got if it was reached, and the ledger. -/
structure Exchange where
  response : Response
  reached : Option Request
  ledger : Ledger
  deriving DecidableEq, Repr

/-- A policy in force in front of an application. -/
structure Guard where
  config : Config := {}
  engine : Engine := {}
  hash : Bytes → String := Audit.sha256

namespace Guard

/-- The request with the user that its fields describe, where they are trusted. -/
def identified (g : Guard) (r : Request) : Request :=
  if g.config.identity.enabled then { r with user := some (g.config.identity.identify r.headers) } else r

/-- The fields without a length, for a body that may have been rewritten. -/
def withoutLength (r : Response) : Response :=
  { r with headers := r.headers.remove .contentLength }

/-- A page run through the outbound chain on top of fields that are committed already, like any other
response. An abort changes nothing about it. -/
def decorate (g : Guard) (request : Request) (committed : Headers) (page : Response) : ChainResult × Response :=
  let (result, raw) := g.engine.evaluateOutbound request (.capture page) { headers := committed }
  (result, withoutLength raw)

def subject (marks : Marks) (request : Request) (v : Verdict) : Audit.Trail.Subject where
  requestId := marks.requestId
  method := request.method.text
  path := request.uri.path
  verdict := v.label

/-- Takes the result of a chain into the ledger. If its verdict is not to let the exchange go on, there is
a page in place of the application's response. -/
def enforce (g : Guard) (l : Ledger) (marks : Marks) (phase : Phase) (request : Request)
    (result : ChainResult) (committed : Headers) : Option Response × Ledger :=
  let l := l.countChain phase result
  if result.isAllowed then (none, l)
  else
    let v := g.engine.enforcer.resolve result
    let l := l.recordAbort g.hash (marks.stamp phase) (subject marks request v) result v
    match v.page? with
    | none => (none, l)
    | some page =>
      let (decoration, response) := g.decorate request committed page
      (some response, l.countBlocked.note (Telemetry.Event.ofPhase .outbound decoration))

/-- Inspects one exchange. A request that is too long is refused before anything else, and a response
that is too long never gets to the outbound chain, which sees the request as the application got it. -/
def inspect (g : Guard) (l : Ledger) (marks : Marks) (request : Request) (app : Application) : Exchange :=
  let l := l.countRequest
  if request.body.length > g.config.maxBodyBytes then ⟨.bare .payloadTooLarge, none, l.countBlocked⟩
  else
    let request := g.identified request
    let (inbound, raw) := g.engine.evaluateInbound request {}
    match g.enforce l marks .inbound request inbound raw.headers with
    | (some page, l) => ⟨page, none, l⟩
    | (none, l) =>
      let answer := app request
      if answer.body.length > g.config.maxResponseBytes then ⟨.bare .badGateway, some request, l⟩
      else
        let (outbound, committed) := g.engine.evaluateOutbound request (.capture answer) raw
        match g.enforce l marks .outbound request outbound raw.headers with
        | (some page, l) => ⟨page, some request, l⟩
        | (none, l) => ⟨withoutLength committed, some request, l⟩

end Guard

end Portcullis.Boundary
