import Portcullis.Audit.Event
import Portcullis.Document.Datum

/-! Audited events in documents. -/
namespace Portcullis.Audit
open Document

def textOrNull (s : Option String) : Datum :=
  (s.map .text).getD .null

def timeDatum (d : Duration) : Datum :=
  .ofFields [("secs_since_epoch", .int d.seconds), ("nanos_since_epoch", .int d.nanoseconds)]

def Event.toDatum (e : Event) : Datum :=
  .ofFields [("id", .text e.id), ("request_id", .text e.requestId), ("rule_id", .text e.ruleId),
    ("method", .text e.method), ("path", .text e.path), ("disposition", .text e.verdict),
    ("message", textOrNull e.message), ("timestamp", timeDatum e.time), ("hash", textOrNull e.hash),
    ("previous_hash", textOrNull e.previous)]

end Portcullis.Audit
