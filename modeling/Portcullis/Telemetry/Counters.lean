import Portcullis.Decimal.Shortest
import Portcullis.Policy.Chain

/-! Counters over requests and chain runs. -/
namespace Portcullis.Telemetry
open Policy

/-- A share of two counts. -/
structure Rate where
  part : Nat
  whole : Nat
  deriving DecidableEq, Repr

namespace Rate

/-- The point of a share stands between these places; beyond them there is an exponent. -/
def style : Decimal.PointStyle := ⟨-5, 16⟩

/-- The share as a binary fraction in its shortest decimal form. Nothing has no share. -/
def text (r : Rate) : String :=
  if r.part = 0 ∨ r.whole = 0 then "0.0"
  else (Decimal.shortest ((Decimal.Binary.ofNat r.part).div (Decimal.Binary.ofNat r.whole))).text style

end Rate

/-- What was counted so far. Every counter wraps at 2^64. -/
structure Counters where
  requests : UInt64 := 0
  chainRuns : UInt64 := 0
  rulesFired : UInt64 := 0
  aborts : UInt64 := 0
  anomalies : UInt64 := 0
  blocked : UInt64 := 0
  microseconds : UInt64 := 0
  deriving DecidableEq, Repr, Inhabited

namespace Counters

def countRequest (c : Counters) : Counters :=
  { c with requests := c.requests + 1 }

def countBlocked (c : Counters) : Counters :=
  { c with blocked := c.blocked + 1 }

def countChain (c : Counters) (r : ChainResult) : Counters :=
  { c with
    chainRuns := c.chainRuns + 1
    rulesFired := c.rulesFired + UInt64.ofNat r.fired.length
    anomalies := c.anomalies + UInt64.ofNat r.anomalies.length
    aborts := if r.isAllowed then c.aborts else c.aborts + 1
    microseconds := c.microseconds + UInt64.ofNat r.latency.microseconds }

def averageMicroseconds (c : Counters) : UInt64 :=
  if c.chainRuns = 0 then 0 else c.microseconds / c.chainRuns

/-- The share of chain runs that were aborted. -/
def abortRate (c : Counters) : Rate :=
  ⟨c.aborts.toNat, c.chainRuns.toNat⟩

def blockRate (c : Counters) : Rate :=
  ⟨c.blocked.toNat, c.requests.toNat⟩

end Counters

end Portcullis.Telemetry
