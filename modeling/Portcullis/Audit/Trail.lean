import Portcullis.Audit.Event
import Portcullis.Policy.Chain

/-! A trail of events in which each one holds the hash of the one before it. -/
namespace Portcullis.Audit
open Policy

/-- The events that are retained, oldest first, the hash of the newest event, and the hash of the last
event that had to go. -/
structure Trail where
  capacity : Option Nat := none
  events : List Event := []
  head : Option String := none
  anchor : Option String := none
  deriving DecidableEq, Repr

namespace Trail

/-- A trail of limited capacity retains at least one event. -/
def bounded (capacity : Nat) : Trail :=
  { capacity := some (max capacity 1) }

/-- Lets the oldest events go that are too many. -/
def evict (t : Trail) : Trail :=
  match t.capacity with
  | none => t
  | some n =>
    let excess := t.events.length - n
    match (t.events.take excess).getLast? with
    | none => t
    | some last => { t with events := t.events.drop excess, anchor := last.hash }

/-- The event with its links, as it stands behind an event with the given hash. -/
def link (hash : Bytes → String) (previous : Option String) (e : Event) : Event :=
  let e := { e with previous := previous }
  { e with hash := some (e.digest hash) }

def add (hash : Bytes → String) (t : Trail) (e : Event) : Trail :=
  let e := link hash t.head e
  evict { t with events := t.events ++ [e], head := e.hash }

/-- Each event holds its own hash and the hash of the one before it. -/
def isLinked (hash : Bytes → String) : Option String → List Event → Bool
  | _, [] => true
  | previous, e :: rest =>
    e.previous == previous && e.hash == some (e.digest hash) && isLinked hash e.hash rest

/-- Nothing that is retained was changed since it was taken in. -/
def verify (hash : Bytes → String) (t : Trail) : Bool :=
  isLinked hash t.anchor t.events

/-- What sets two events apart that are alike: an id, and the time. -/
structure Stamp where
  id : String
  time : Duration := {}
  deriving DecidableEq, Repr, Inhabited

/-- The request that an event belongs to, and what became of it. -/
structure Subject where
  requestId : String
  method : String
  path : String
  verdict : String
  deriving DecidableEq, Repr

/-- The event of a chain that was stopped; another one has none. -/
def eventOf? (stamp : Stamp) (subject : Subject) (r : ChainResult) : Option Event :=
  match r.disposition with
  | .allow => none
  | .abort ruleId o =>
    some {
      id := stamp.id
      requestId := subject.requestId
      ruleId
      method := subject.method
      path := subject.path
      verdict := subject.verdict
      message := o.message?
      time := stamp.time }

/-- An event names the rule that stopped the chain and has the message of its outcome. The id and the time are the
stamp's, the rest is the subject's, and there are no links yet. -/
theorem eventOf?_eq_some {stamp : Stamp} {subject : Subject} {r : ChainResult} {e : Event} :
    eventOf? stamp subject r = some e ↔ ∃ ruleId o, r.disposition = .abort ruleId o ∧
      e = { id := stamp.id, requestId := subject.requestId, ruleId, method := subject.method, path := subject.path,
            verdict := subject.verdict, message := o.message?, time := stamp.time, hash := none, previous := none } := by
  unfold eventOf?
  cases r.disposition with
  | allow => simp
  | abort ruleId o =>
    constructor
    · intro h
      cases h
      exact ⟨ruleId, o, rfl, rfl⟩
    · rintro ⟨_, _, h, rfl⟩
      cases h
      rfl

theorem isSome_eventOf? (stamp : Stamp) (subject : Subject) (r : ChainResult) :
    (eventOf? stamp subject r).isSome = !r.isAllowed := by
  unfold eventOf? ChainResult.isAllowed
  cases r.disposition <;> rfl

def record (hash : Bytes → String) (t : Trail) (stamp : Stamp) (subject : Subject) (r : ChainResult) : Trail :=
  match eventOf? stamp subject r with
  | none => t
  | some e => t.add hash e

end Trail

end Portcullis.Audit
