import Portcullis.Audit.Trail
import Portcullis.Telemetry.Counters
import Portcullis.Telemetry.Event

/-! What the boundary keeps of its exchanges. -/
namespace Portcullis.Boundary
open Policy

/-- Counters, the audit trail, and the events in order. -/
structure Ledger where
  counters : Telemetry.Counters := {}
  trail : Audit.Trail
  events : List Telemetry.Event := []
  deriving DecidableEq, Repr

namespace Ledger

def ofCapacity (capacity : Nat) : Ledger :=
  { trail := .bounded capacity }

def note (l : Ledger) (events : List Telemetry.Event) : Ledger :=
  { l with events := l.events ++ events }

def countRequest (l : Ledger) : Ledger :=
  { l.note [.requestEntered] with counters := l.counters.countRequest }

def countBlocked (l : Ledger) : Ledger :=
  { l with counters := l.counters.countBlocked }

/-- A chain ran over an exchange. -/
def countChain (l : Ledger) (phase : Phase) (r : ChainResult) : Ledger :=
  { l.note (Telemetry.Event.ofPhase phase r) with counters := l.counters.countChain r }

/-- An aborted chain led to a verdict. -/
def recordAbort (hash : Bytes → String) (l : Ledger) (stamp : Audit.Trail.Stamp) (subject : Audit.Trail.Subject)
    (r : ChainResult) (v : Verdict) : Ledger :=
  { l.note (Telemetry.Event.ofVerdict v) with trail := l.trail.record hash stamp subject r }

end Ledger

end Portcullis.Boundary
