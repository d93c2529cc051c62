import Portcullis.Http.Message

/-! Buffering a response and committing it once. -/
namespace Portcullis.Policy
open Http

inductive Write where
  | setStatus (status : Status)
  | setHeader (name : HeaderName) (value : HeaderValue)
  | appendHeader (name : HeaderName) (value : HeaderValue)
  | removeHeader (name : HeaderName)
  | setBody (body : Bytes)
  | appendBody (chunk : Bytes)
  deriving DecidableEq, Repr

def Write.applyTo (w : Write) (r : Response) : Response :=
  match w with
  | .setStatus s => { r with status := s }
  | .setHeader n v => { r with headers := r.headers.insert n v }
  | .appendHeader n v => { r with headers := r.headers.append n v }
  | .removeHeader n => { r with headers := r.headers.remove n }
  | .setBody b => { r with body := b }
  | .appendBody b => { r with body := r.body ++ b }

inductive WriteError where
  | flushed
  | alreadyFlushed
  deriving DecidableEq, Repr

def WriteError.message : WriteError → String
  | .flushed => "response already flushed, write rejected"
  | .alreadyFlushed => "response flushed twice"

structure Flushed where
  status : Option Status := none
  headers : Headers := {}
  removed : List HeaderName := []
  body : Option Bytes := none
  deriving DecidableEq, Repr

/-- A buffered response. It takes writes until it is flushed. -/
structure Interceptor where
  isFlushed : Bool := false
  status? : Option Status := none
  headers : Headers := {}
  removed : List HeaderName := []
  body? : Option Bytes := none
  deriving DecidableEq, Repr

namespace Interceptor

/-- A buffer that holds a whole response, as if it had been written through it. -/
def capture (r : Response) : Interceptor :=
  { status? := some r.status, headers := r.headers, body? := some r.body }

def status (i : Interceptor) : Status :=
  i.status?.getD .ok

def body (i : Interceptor) : Bytes :=
  i.body?.getD []

/-- A change to an open buffer. A removed name stays noted, so that the flush removes it below. -/
def buffer (i : Interceptor) : Write → Interceptor
  | .setStatus s => { i with status? := some s }
  | .setHeader n v => { i with headers := i.headers.insert n v }
  | .appendHeader n v => { i with headers := i.headers.append n v }
  | .removeHeader n =>
    { i with headers := i.headers.remove n, removed := if i.removed.contains n then i.removed else n :: i.removed }
  | .setBody b => { i with body? := some b }
  | .appendBody b => { i with body? := some (i.body ++ b) }

def write (i : Interceptor) (w : Write) : Except WriteError Interceptor :=
  if i.isFlushed then .error .flushed else .ok (i.buffer w)

/-- The response below after a commit: removed names are gone, buffered ones replace theirs. -/
def commitOnto (i : Interceptor) (raw : Response) : Response :=
  { status := i.status?.getD raw.status
    headers := raw.headers.overlay i.removed i.headers
    body := i.body?.getD raw.body }

def committed (i : Interceptor) : Flushed :=
  ⟨i.status?, i.headers, i.removed, i.body?⟩

/-- Commits the buffer onto a response, once. -/
def flush (i : Interceptor) (raw : Response) : Except WriteError (Flushed × Interceptor × Response) :=
  if i.isFlushed then .error .alreadyFlushed
  else .ok (i.committed, { i with isFlushed := true }, i.commitOnto raw)

end Interceptor

/-- What a rule may write to: the buffer if there is one, else the response below it. -/
structure Canvas where
  intercepted : Option Interceptor
  raw : Response
  deriving DecidableEq, Repr

namespace Canvas

def status (c : Canvas) : Status :=
  match c.intercepted with
  | some i => i.status
  | none => c.raw.status

def headers (c : Canvas) : Headers :=
  match c.intercepted with
  | some i => i.headers
  | none => c.raw.headers

def body (c : Canvas) : Bytes :=
  match c.intercepted with
  | some i => i.body
  | none => c.raw.body

def write (c : Canvas) (w : Write) : Except WriteError Canvas :=
  match c.intercepted with
  | some i => (i.write w).map fun i => { c with intercepted := some i }
  | none => .ok { c with raw := w.applyTo c.raw }

/-- Writes in order, up to the first that is refused. The error leaves out what the writes before that made of the
canvas. None are before it: a canvas refuses the first write or takes all. -/
def writeAll (c : Canvas) (ws : List Write) : Except WriteError Canvas :=
  ws.foldlM write c

end Canvas

end Portcullis.Policy
