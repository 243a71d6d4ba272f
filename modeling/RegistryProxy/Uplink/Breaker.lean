import RegistryProxy.Duration
import RegistryProxy.Log

/-!
# Uplink/Breaker — leaving an uplink alone that keeps failing

A `Breaker` counts failures in a row.  From `maxFails` of them on it is open, and refuses requests,
until `failTimeout` has passed since the last outcome; then a request may probe the uplink.  Any
success resets the count.
-/

namespace RegistryProxy

/-- Whether requests are let through. -/
inductive BreakerState where
  /-- Too few failures to matter. -/
  | closed
  /-- Too many failures, the last of them too recent. -/
  | opened
  /-- Too many failures, but a probe may go out. -/
  | halfOpen
  deriving DecidableEq, Repr

/-- The failures of one uplink. -/
structure Breaker where
  /-- The uplink, for the log. -/
  host : String
  /-- How many failures in a row open it. -/
  maxFails : Nat
  /-- How long it stays open. -/
  failTimeout : Duration
  /-- The failures since the last success, at most `2 ^ 32 - 1`. -/
  failed : Nat := 0
  /-- When the last outcome was recorded, in nanoseconds of a clock. -/
  last : Option Nat := none

namespace Breaker

/-- The count of failures stops here. -/
def maxCount : Nat := 0xffffffff

/-- What is logged when an uplink goes offline. -/
def wentOffline (host : String) : LogEntry := .warning ("host " ++ host ++ " is now offline")

/-- What is logged when an uplink comes back. -/
def cameBack (host : String) : LogEntry := .warning ("host " ++ host ++ " is back online")

/-- **Counts an outcome.** -/
def record (b : Breaker) (success : Bool) (now : Nat) : Breaker × Log :=
  if success then
    ({ b with failed := 0, last := some now },
      if b.maxFails ≤ b.failed then [cameBack b.host] else [])
  else
    let failed := min (b.failed + 1) maxCount
    ({ b with failed, last := some now }, if failed = b.maxFails then [wentOffline b.host] else [])

/-- The state at a time; a clock that went backwards counts as no time passed. -/
def stateAt (b : Breaker) (now : Nat) : BreakerState :=
  if b.failed < b.maxFails then .closed
  else
    match b.last with
    | some last => if now - last < b.failTimeout.nanoseconds then .opened else .halfOpen
    | none => .halfOpen

/-- Whether a request may go out. -/
def isAvailableAt (b : Breaker) (now : Nat) : Bool := b.stateAt now != .opened

end Breaker

end RegistryProxy
