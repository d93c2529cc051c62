import Portcullis.Digest.Sha256
import Portcullis.Duration
import Portcullis.Text.Ascii

/-! Audited events, and what of them is hashed. -/
namespace Portcullis.Audit

/-- A rule stopped a chain. The two links are set by the trail that takes the event in: the hash of the
event, and that of the event before it. -/
structure Event where
  id : String
  requestId : String
  ruleId : String
  method : String
  path : String
  verdict : String
  message : Option String := none
  time : Duration := {}
  hash : Option String := none
  previous : Option String := none
  deriving DecidableEq, Repr

namespace Event

/-- The text of a time since the epoch. -/
def timeText (d : Duration) : String :=
  "SystemTime \x7b tv_sec: " ++ toString d.seconds ++ ", tv_nsec: " ++ toString d.nanoseconds ++ " \x7d"

/-- The fields that are hashed with an end mark. -/
def markedFields (e : Event) : List String :=
  [e.id, e.requestId, e.ruleId, e.method, e.path, e.verdict]

/-- What is hashed of an event: all of it but its own hash. A zero byte ends each of the first fields. -/
def hashed (e : Event) : Bytes :=
  e.markedFields.flatMap (fun f => Bytes.ofText f ++ [0])
    ++ ((e.message.map Bytes.ofText).getD [] ++ Bytes.ofText (timeText e.time)
      ++ (e.previous.map Bytes.ofText).getD [])

/-- The hash that an event should have. -/
def digest (hash : Bytes → String) (e : Event) : String :=
  hash e.hashed

end Event

def sha256 (bs : Bytes) : String :=
  String.ofList (Ascii.hex (Digest.Sha256.hash bs))

end Portcullis.Audit
