import AttributeRelease.Proofs.Release.Precedence
import AttributeRelease.Proofs.Walk.Faithfulness
import AttributeRelease.Proofs.Walk.Residue

/-!
# Resolving a request again

Once all that a request asks for has records, resolving it comes down to releasing what they hold
(`resolve_settled`): no plugin is entered, so neither the world nor the failures noted by then
matter. A request that succeeded is in such a state, and stays there whatever is done with it, as
long as it asks for the same (`resolve_again`).
-/

namespace AttributeRelease.Resolver

variable {σ : Type} {resolver : Resolver σ} {clock : σ → Instant × σ}

/-! ## States with nothing left to do -/

/-- All that a request asks for has records. -/
def Resolution.Settled (resolver : Resolver σ) (resolution : Resolution) : Prop :=
  ∀ ref, IsRoot resolver resolution.requestedIds ref → resolution.isRecorded ref = true

/-- Only what is asked for and the records decide whether a request is settled. -/
theorem Resolution.Settled.congr {first second : Resolution} (settled : first.Settled resolver)
    (asked : second.requestedIds = first.requestedIds) (same : second.SameRecords first) :
    second.Settled resolver := by
  intro ref root
  rw [asked] at root
  rw [same.isRecorded]
  exact settled ref root

/-- Nothing is done for plugins that have records. -/
theorem visitAll_settled {refs : List PluginRef} {progress : Progress σ}
    (settled : ∀ ref ∈ refs, hasPlugin resolver ref = true →
      progress.resolution.isRecorded ref = true) :
    visitAll resolver clock refs progress = (.ok (), progress) := by
  unfold visitAll
  induction refs with
  | nil => rfl
  | cons ref rest ih =>
      have first : progress.resolution.isRecorded ref = true ∨ hasPlugin resolver ref = false := by
        cases known : hasPlugin resolver ref with
        | false => exact .inr rfl
        | true => exact .inl (settled ref List.mem_cons_self known)
      have others := ih fun other member => settled other (List.mem_cons_of_mem _ member)
      rw [Step.forEach, Step.andThen_eq, visit_settled first]
      exact others

/-- What is kept for other plugins once the definitions that come before all else have records. -/
def keptAttributes (resolver : Resolver σ) (resolution : Resolution) : AttributeMap :=
  match preRequestedIds resolver with
  | [] => resolution.preResolved
  | _ :: _ => definedAttributes resolver true resolution

/-- With records of all that comes first, the first part of a request only keeps attributes anew. -/
theorem preResolve_settled {progress : Progress σ}
    (settled : ∀ ref, IsPreRequested resolver ref → progress.resolution.isRecorded ref = true) :
    preResolve resolver clock progress = (.ok (), { progress with
      resolution := { progress.resolution with
        preResolved := keptAttributes resolver progress.resolution } }) := by
  have visited : visitAll resolver clock ((preRequestedIds resolver).map .definition) progress =
      (.ok (), progress) := by
    apply visitAll_settled
    intro ref listed _
    exact settled ref (mem_preRequested_iff.mp listed)
  unfold preResolve keptAttributes
  cases ids : preRequestedIds resolver with
  | nil => rfl
  | cons id rest =>
      rw [ids] at visited
      simp only
      rw [Step.andThen_eq, visited]

/-- When all that a request asks for has records, no plugin is entered: what they hold is released,
and nothing else changes. -/
theorem resolve_settled {progress : Progress σ} (settled : progress.resolution.Settled resolver) :
    resolve resolver clock progress = (.ok (), { progress with
      resolution := { progress.resolution with
        preResolved := keptAttributes resolver progress.resolution
        released := releasedAttributes resolver progress.resolution } }) := by
  let kept : Progress σ := { progress with
    resolution := { progress.resolution with
      preResolved := keptAttributes resolver progress.resolution } }
  have same : kept.resolution.SameRecords progress.resolution := ⟨rfl, rfl⟩
  have exported : visitAll resolver clock ((exportingIds resolver).map .connector) kept =
      (.ok (), kept) := by
    apply visitAll_settled
    intro ref listed _
    rw [same.isRecorded]
    exact settled ref (.exporting (mem_exporting_iff.mp listed))
  have asked : visitAll resolver clock ((requestedIds resolver kept.resolution).map .definition)
      kept = (.ok (), kept) := by
    apply visitAll_settled
    intro ref listed known
    rw [same.isRecorded]
    exact settled ref (.requested (mem_requested_iff.mp ⟨listed, known⟩))
  unfold resolve
  rw [Step.andThen_eq, preResolve_settled fun ref first => settled ref (.preRequested first)]
  simp only
  rw [Step.andThen_eq, exported]
  simp only
  rw [Step.andThen_eq, asked]
  simp only [setReleased, releasedAttributes_congr same]
  rfl

/-- No request changes what it asks for. -/
theorem resolve_requestedIds (resolver : Resolver σ) (clock : σ → Instant × σ)
    (start : Progress σ) :
    (resolve resolver clock start).2.resolution.requestedIds = start.resolution.requestedIds := by
  have kept : (resolve resolver clock).Obeys fun before _ after =>
      after.resolution.requestedIds = before.resolution.requestedIds := by
    refine resolve_obeys (fun first second => second.trans first) (fun refs progress => ?_)
      fun _ _ _ => rfl
    exact (runs_visitAll refs progress).same_but_records.requestedIds
  exact kept start

/-- A request that succeeded has records of all that it asks for. -/
theorem settled_of_resolve {start : Progress σ}
    (succeeded : (resolve resolver clock start).1 = .ok ()) :
    (resolve resolver clock start).2.resolution.Settled resolver := by
  intro ref root
  rw [resolve_requestedIds] at root
  exact resolve_settles succeeded root

/-! ## Further calls -/

/-- What is done with a request leaves it with some ids that it asks for. -/
def Use.AsksFor (requestedIds : List String) : Use σ → Prop
  | .ask ids _ => ids = requestedIds
  | .resolve _ _ => True
  | .takeReleased => True

/-- With a request that has records of all that it asks for, nothing is done that would run a plugin
or change a result. -/
theorem Use.perform_settled (clock : σ → Instant × σ) {use : Use σ} {resolution : Resolution}
    (asks : use.AsksFor resolution.requestedIds) (settled : resolution.Settled resolver) :
    (use.perform resolver clock resolution).1 = [] ∧
      (use.perform resolver clock resolution).2.requestedIds = resolution.requestedIds ∧
      (use.perform resolver clock resolution).2.SameRecords resolution := by
  cases use with
  | ask ids inbound => exact ⟨rfl, asks, rfl, rfl⟩
  | takeReleased => exact ⟨rfl, rfl, rfl, rfl⟩
  | resolve world failures =>
      rw [perform, resolve_settled settled]
      exact ⟨rfl, rfl, rfl, rfl⟩

/-- Nothing is run for a settled request, however often it is used, as long as the same is asked
for. -/
theorem performAll_settled (clock : σ → Instant × σ) (uses : List (Use σ))
    {resolution : Resolution}
    (asks : ∀ use ∈ uses, use.AsksFor resolution.requestedIds)
    (settled : resolution.Settled resolver) :
    (performAll resolver clock resolution uses).flatten = [] ∧
      (stateAfter resolver clock resolution uses).requestedIds = resolution.requestedIds ∧
      (stateAfter resolver clock resolution uses).SameRecords resolution := by
  induction uses generalizing resolution with
  | nil => exact ⟨rfl, rfl, rfl, rfl⟩
  | cons use rest ih =>
      obtain ⟨nothing, asked, same⟩ :=
        Use.perform_settled clock (asks use List.mem_cons_self) settled
      have asksLater : ∀ later ∈ rest, later.AsksFor
          (use.perform resolver clock resolution).2.requestedIds := fun later member => by
        rw [asked]
        exact asks later (List.mem_cons_of_mem _ member)
      obtain ⟨nothingLater, askedLater, sameLater⟩ := ih asksLater (settled.congr asked same)
      refine ⟨?_, askedLater.trans asked, sameLater.trans same⟩
      rw [performAll, List.flatten_cons, nothing, nothingLater]
      rfl

/-- Let a request have succeeded, in whatever state it was before, and let it be used further in any
way that asks for the same: be resolved in other worlds and after other failures, be given other
attributes, and have taken out what it released. None of this runs a plugin or changes a result, and
when the request is resolved once more, it succeeds, in whatever world and after whatever failures;
it leaves these and the journal as they are, so it runs no plugin and notes no failure; it keeps the
results, and releases the same as it did at first. -/
theorem resolve_again {start after : Progress σ}
    (succeeded : resolve resolver clock start = (.ok (), after)) (uses : List (Use σ))
    (asks : ∀ use ∈ uses, use.AsksFor start.resolution.requestedIds) (world : σ)
    (failures : FailureLog) (journal : List Event) :
    let state := stateAfter resolver clock after.resolution uses
    (performAll resolver clock after.resolution uses).flatten = [] ∧
      state.SameRecords after.resolution ∧
      resolve resolver clock { world, failures, resolution := state, journal } =
        (.ok (), {
          world, failures, journal
          resolution := { state with
            preResolved := keptAttributes resolver state
            released := after.resolution.released } }) := by
  have ended : (resolve resolver clock start).1 = .ok () := by rw [succeeded]
  have settled := settled_of_resolve ended
  have asked := resolve_requestedIds resolver clock start
  have released := resolve_released ended
  rw [succeeded] at settled asked released
  rw [← asked] at asks
  obtain ⟨nothing, askedLater, same⟩ := performAll_settled clock uses asks settled
  refine ⟨nothing, same, ?_⟩
  have ready := settled.congr askedLater same
  rw [resolve_settled ready, released, ← releasedAttributes_congr same]

/-- The state of a request after an outage, when it was resolved twice and what it released was taken
out. -/
def outageRest : Resolution :=
  stateAfter outage outageClock (resolve outage outageClock outageStart).2.resolution
    [.resolve () outageFailures, .takeReleased]

/-- After the outage the directory could be run again, but the request has its results, and releases
the mail address from the backup once more. -/
theorem resolve_again_outage :
    (resolve outage outageClock outageStart).1 = .ok () ∧
      ((resolve outage outageClock outageStart).2.resolution.released.get? "mail").isSome = true ∧
      outageRest.released = ∅ ∧
      resolve outage outageClock
          { world := (), failures := newFailureLog outage, resolution := outageRest } =
        (.ok (), {
          world := (), failures := newFailureLog outage
          resolution := { outageRest with
            preResolved := keptAttributes outage outageRest
            released := (resolve outage outageClock outageStart).2.resolution.released } }) := by
  have ended : (resolve outage outageClock outageStart).1 = .ok () := by decide +kernel
  have mail : ((resolve outage outageClock outageStart).2.resolution.released.get?
      "mail").isSome = true := by
    decide +kernel
  have succeeded : resolve outage outageClock outageStart =
      (.ok (), (resolve outage outageClock outageStart).2) := Step.eq_of_ok ended
  have asks : ∀ use ∈ [.resolve () outageFailures, .takeReleased],
      Use.AsksFor outageStart.resolution.requestedIds use := by
    simp [Use.AsksFor]
  have taken : outageRest.released = ∅ := by
    simp [outageRest, stateAfter, Use.perform, Resolution.takeReleased]
  exact ⟨ended, mail, taken, (resolve_again succeeded _ asks () (newFailureLog outage) []).2.2⟩

end AttributeRelease.Resolver
