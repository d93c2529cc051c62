import Portcullis.Boundary.Forward
import Portcullis.Boundary.Guard

/-! The service as a whole: its own endpoints, and the guarded backend behind all other paths. -/
namespace Portcullis.Boundary
open Http

namespace Service

/-- The length that a request announces, if it does so in decimal. -/
def announcedLength? (r : Request) : Option Nat :=
  ((r.headers.get? .contentLength).bind HeaderValue.chars?).bind fun cs =>
    (Ascii.decimal? (if cs.head? == some '+' then cs.tail else cs)).filter (· ≤ 18446744073709551615)

def textPage (status : Status) (text : String) : Response :=
  { status, headers := ⟨[(.contentType, Forward.plainText)]⟩, body := Bytes.ofText text }

def getAndHead : HeaderValue :=
  ⟨Bytes.ofText "GET,HEAD"⟩

/-- An endpoint that can only be read. -/
def readOnly (r : Request) (text : String) : Response :=
  if r.method == .get then textPage .ok text
  else if r.method == .head then textPage .ok ""
  else { status := .methodNotAllowed, headers := ⟨[(⟨"allow"⟩, getAndHead)]⟩ }

/-- The text of an endpoint of the service. The page of counters is filled by the exporter. -/
def endpoint? (path : String) : Option String :=
  match path with
  | "/health" => some "OK"
  | "/metrics" => some ""
  | _ => none

/-- Handles one request. One that announces more than may be sent is refused at once; one that announces
less is held to that. -/
def handle (g : Guard) (send : Forward.Outgoing → Forward.Reply) (l : Ledger) (marks : Marks) (r : Request) :
    Exchange :=
  let limit := g.config.maxBodyBytes
  let announced := (announcedLength? r).getD limit
  if announced > limit then ⟨textPage .payloadTooLarge "length limit exceeded", none, l⟩
  else
    match endpoint? r.uri.path with
    | some text => ⟨readOnly r text, none, l⟩
    | none =>
      let g := { g with config := { g.config with maxBodyBytes := announced } }
      g.inspect l marks r (Forward.application g.config.backendUrl send)

end Service

end Portcullis.Boundary
