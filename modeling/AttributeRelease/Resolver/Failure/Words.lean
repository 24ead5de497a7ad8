import AttributeRelease.Resolver.Failure

/-!
# Failures of connectors in words

The last failures of connectors in one word of 64 bits each, whose least value stands for none, so
that a failure can be noted by a single maximum. Points in time lie between two ends; what is
computed from them may lie beyond these.
-/

namespace AttributeRelease.Resolver

/-- The first point in time. -/
def firstInstant : Instant := -8334601228800000000000

namespace Instant

/-- Between the ends of time. -/
def IsRepresentable (instant : Instant) : Prop := firstInstant ≤ instant ∧ instant ≤ lastInstant

instance (instant : Instant) : Decidable (IsRepresentable instant) :=
  inferInstanceAs (Decidable (_ ∧ _))

/-- The instant some milliseconds from the epoch. -/
def ofMillis (millis : Int) : Instant := millis * nanosPerMilli

/-- The instant some milliseconds from the epoch, if it is between the ends. -/
def ofMillis? (millis : Int) : Option Instant :=
  if IsRepresentable (ofMillis millis) then some (ofMillis millis) else none

/-- The instant some time later. There is none beyond the ends, nor after more than the longest
delay. -/
def after? (instant : Instant) (delay : Duration) : Option Instant :=
  if longestDelay < delay then none
  else
    let later : Instant := instant + delay
    if IsRepresentable later then some later else none

end Instant

/-- The word of a connector without a failure. -/
def noFailure : Int64 := Int64.minValue

/-- The words of connectors. Only connectors with a slot are followed. -/
structure FailureWords where
  words : KeyMap Int64

namespace FailureWords

/-- A log without failures. -/
def new (connectorIds : List String) : FailureWords :=
  ⟨KeyMap.ofList (connectorIds.map (·, noFailure))⟩

/-- Notes a failure. -/
def record (log : FailureWords) (connectorId : String) (instant : Instant) : FailureWords :=
  ⟨log.words.modify connectorId (max · (.ofInt instant.millis))⟩

/-- The instant of the last failure of a connector. -/
def last? (log : FailureWords) (connectorId : String) : Option Instant := do
  let word ← log.words.get? connectorId
  if word = noFailure then none else Instant.ofMillis? word.toInt

/-- Forgets the failures of a connector. -/
def reset (log : FailureWords) (connectorId : String) : FailureWords :=
  ⟨log.words.modify connectorId fun _ => noFailure⟩

/-- Whether a connector failed so recently that it is not tried again. A window whose end cannot be
computed has none. -/
def inNoRetryWindow (log : FailureWords) (connectorId : String) (delay : Duration)
    (now : Instant) : Bool :=
  if delay = 0 then false
  else
    match log.last? connectorId with
    | none => false
    | some last =>
      match Instant.after? last delay with
      | none => true
      | some finish => now < finish

end FailureWords

end AttributeRelease.Resolver
