import Portcullis.Boundary.Config

/-! Forwarding requests to a backend. -/
namespace Portcullis.Boundary
open Http

namespace Forward

/-- Fields that describe a single connection. -/
def connectionFields : List HeaderName :=
  [.connection, ⟨"proxy-authenticate"⟩, ⟨"proxy-authorization"⟩, ⟨"te"⟩, ⟨"trailer"⟩, ⟨"transfer-encoding"⟩,
    ⟨"upgrade"⟩, ⟨"keep-alive"⟩]

def withoutConnectionFields (h : Headers) : Headers :=
  connectionFields.foldl Headers.remove h

/-- The text of the URL for a request: the address of the backend, and the path and query as the client
wrote them. -/
def urlText (backendUrl : String) (uri : Uri) : String :=
  String.ofList (Text.dropEndWhile (· == '/') backendUrl.toList) ++ uri.pathAndQuery?.getD "/"

structure Outgoing where
  method : Method
  url : Url.Web
  headers : Headers
  body : Bytes
  deriving DecidableEq, Repr

inductive Reply where
  | answered (r : Response)
  | timedOut
  | failed
  deriving DecidableEq, Repr

/-- The request to send on, if its URL is one of the web. -/
def outgoing? (backendUrl : String) (r : Request) : Option Outgoing :=
  match Url.parse? (urlText backendUrl r.uri) with
  | .ok (.web url) =>
    some {
      method := r.method
      url
      headers := (withoutConnectionFields r.headers).remove .host
      body := r.body }
  | _ => none

def plainText : HeaderValue :=
  ⟨Bytes.ofText "text/plain; charset=utf-8"⟩

/-- A status with its wording as the body. -/
def wordedPage (status : Status) : Response :=
  { status
    headers := ⟨[(.contentType, plainText)]⟩
    body := Bytes.ofText (status.reason?.getD "Error" ++ "\n") }

/-- The response to a client. Nothing is said about what went wrong behind. -/
def respond : Reply → Response
  | .answered r => { r with headers := withoutConnectionFields r.headers }
  | .timedOut => wordedPage .gatewayTimeout
  | .failed => wordedPage .badGateway

/-- The backend as an application. What comes here was held to the limit on bodies before, so that no request is refused
for its length. -/
def application (backendUrl : String) (send : Outgoing → Reply) (r : Request) : Response :=
  match outgoing? backendUrl r with
  | some o => respond (send o)
  | none => respond .failed

end Forward

end Portcullis.Boundary
