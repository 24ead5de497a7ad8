import AttributeRelease.Resolver.Settings

/-!
# Failures of connectors

The last failure of each connector is kept in whole milliseconds. For some time after it, the
connector's no-retry window, the connector is not tried again. Instants are nanoseconds since the
epoch; they end with the year 262142, and a window that reaches beyond that end lasts forever, as
does one longer than `longestDelay`.
-/

namespace AttributeRelease.Resolver

/-- A point in time, in nanoseconds since the epoch. -/
abbrev Instant := Int

/-- The whole milliseconds since the epoch, rounded down. -/
def Instant.millis (instant : Instant) : Int := instant.fdiv nanosPerMilli

/-- The last point in time. -/
def lastInstant : Instant := 8210266876799999999999

/-- The longest delay that is told from others, `2 ^ 63 - 1` milliseconds. -/
def longestDelay : Duration := (Nat.pow 2 63 - 1) * nanosPerMilli

/-- The last failures of connectors, in milliseconds. Only connectors with a slot are followed. -/
structure FailureLog where
  slots : KeyMap (Option Int)

namespace FailureLog

/-- A log without failures. -/
def new (connectorIds : List String) : FailureLog := ⟨KeyMap.ofList (connectorIds.map (·, none))⟩

/-- The last failure of a connector. -/
def last? (log : FailureLog) (connectorId : String) : Option Int :=
  (log.slots.get? connectorId).join

/-- The later of two failures. -/
def later (last : Option Int) (millis : Int) : Option Int :=
  some ((last.map (max · millis)).getD millis)

/-- Notes a failure; an earlier one does not replace a later one. -/
def record (log : FailureLog) (connectorId : String) (instant : Instant) : FailureLog :=
  match log.slots.get? connectorId with
  | some last => ⟨log.slots.insert connectorId (later last instant.millis)⟩
  | none => log

/-- Forgets the failures of a connector. -/
def reset (log : FailureLog) (connectorId : String) : FailureLog :=
  match log.slots.get? connectorId with
  | some _ => ⟨log.slots.insert connectorId none⟩
  | none => log

/-- Whether a connector failed so recently that it is not tried again. -/
def inNoRetryWindow (log : FailureLog) (connectorId : String) (delay : Duration) (now : Instant) :
    Bool :=
  if delay = 0 then false
  else
    match log.last? connectorId with
    | none => false
    | some last =>
      let finish : Instant := last * nanosPerMilli + delay
      longestDelay < delay || lastInstant < finish || now < finish

end FailureLog

end AttributeRelease.Resolver
