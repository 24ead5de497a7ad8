import AttributeRelease.Proofs.Walk.Provenance

/-!
# Invariants of a walk

What each single step of a walk keeps holds all along it (`Invariant.runs`), at the end of a request
if keeping and releasing attributes keep it too (`Invariant.resolves`), and if it is about records
only, however a request is used (`Invariant.stateAfter`). So all that is recorded was answered by a
plugin (`stateAfter_answered`): by the definition under whose id it stands, or by the connector that
it was taken from.
-/

namespace AttributeRelease.Resolver

variable {σ : Type} {resolver : Resolver σ} {clock : σ → Instant × σ}

/-- A property that each single step of a walk keeps. -/
structure Invariant (resolver : Resolver σ) (clock : σ → Instant × σ)
    (holds : Progress σ → Prop) : Prop where
  reads : ∀ {progress}, holds progress → holds (progress.readClock clock).2
  passes : ∀ {progress} id, holds progress → holds (progress.note (.passedOver id))
  defines : ∀ {id definition}, resolver.definitions.get? id = some definition →
    ∀ {progress}, holds progress → holds (runDefinition id definition progress).2
  answers : ∀ {id connector}, resolver.connectors.get? id = some connector →
    ∀ {progress ran attributes},
      fetchConnector clock id connector progress = (.ok attributes, ran) →
        holds progress → holds (ran.recordConnector ⟨id, id, attributes⟩)
  fails : ∀ {id connector}, resolver.connectors.get? id = some connector →
    ∀ {progress ran error}, fetchConnector clock id connector progress = (.error error, ran) →
      holds progress → holds ran
  substitutes : ∀ {progress} id next, holds progress →
    holds (progress.recordConnector (substituteRecord progress.resolution id next))
  absorbs : ∀ {progress} id, holds progress → holds (progress.recordConnector (.empty id))

variable {holds : Progress σ → Prop}

/-- What each step of a walk keeps is kept by the walk, whichever way it takes and however it
ends. -/
theorem Invariant.runs (keeps : Invariant resolver clock holds) {inside : List PluginRef}
    {errand : Errand} {before after : Progress σ} {outcome : Except Halt Unit}
    (runs : Runs resolver clock inside errand before outcome after) (held : holds before) :
    holds after := by
  have read {start read : Progress σ} {now : Instant}
      (clockRead : start.readClock clock = (now, read)) (held : holds start) : holds read := by
    have reads := keeps.reads held
    rw [clockRead] at reads
    exact reads
  induction runs with
  | idle | stuck | propagated | done => exact held
  | definition found _ _ _ ih => exact keeps.defines found (ih held)
  | definitionHalted _ _ _ _ ih => exact ih held
  | passedOver _ _ _ clockRead _ _ ih => exact ih (keeps.passes _ (read clockRead held))
  | connectorHalted _ _ _ clockRead _ _ ih => exact ih (read clockRead held)
  | fetched found _ _ clockRead _ _ answered ih =>
      exact keeps.answers found answered (ih (read clockRead held))
  | fetchFailed found _ _ clockRead _ _ failed _ ihDependencies ihReplaced =>
      exact ihReplaced (keeps.fails found failed (ihDependencies (read clockRead held)))
  | failedOver _ _ ih => exact keeps.substitutes _ _ (ih held)
  | failoverHalted _ _ ih => exact ih held
  | absorbed => exact keeps.absorbs _ held
  | next _ _ ihFirst ihOthers => exact ihOthers (ihFirst held)
  | halted _ ih => exact ih held

/-- A whole call keeps an invariant, however it ends, if keeping attributes for other plugins and
releasing them do. -/
theorem Invariant.resolves (keeps : Invariant resolver clock holds)
    (preResolved : ∀ {progress : Progress σ}, holds progress → holds { progress with
      resolution := { progress.resolution with
        preResolved := definedAttributes resolver true progress.resolution } })
    (released : ∀ {progress : Progress σ}, holds progress → holds (setReleased resolver progress).2)
    {start : Progress σ} (held : holds start) : holds (resolve resolver clock start).2 := by
  have call : (resolve resolver clock).Obeys fun before _ after => holds before → holds after :=
    resolve_obeys_releasing (fun first second held => second (first held))
      (fun refs progress => keeps.runs (runs_visitAll refs progress))
      (fun _ => preResolved) fun _ => released
  exact call start held

/-! ## Invariants of records -/

variable {recordsHold : Resolution → Prop}

/-- What holds of the records of a request holds of those that a call leaves behind. -/
theorem Invariant.resolves_records
    (keeps : Invariant resolver clock fun progress => recordsHold progress.resolution)
    (congr : ∀ {first second : Resolution}, recordsHold first → first.SameRecords second →
      recordsHold second)
    {start : Progress σ} (held : recordsHold start.resolution) :
    recordsHold (resolve resolver clock start).2.resolution :=
  keeps.resolves (fun held => congr held ⟨rfl, rfl⟩) (fun held => congr held ⟨rfl, rfl⟩) held

/-- It holds in whatever way the request is used. -/
theorem Invariant.stateAfter
    (keeps : Invariant resolver clock fun progress => recordsHold progress.resolution)
    (congr : ∀ {first second : Resolution}, recordsHold first → first.SameRecords second →
      recordsHold second)
    (uses : List (Use σ)) {resolution : Resolution} (held : recordsHold resolution) :
    recordsHold (stateAfter resolver clock resolution uses) := by
  refine stateAfter_holds (fun _ _ held => congr held ⟨rfl, rfl⟩)
    (fun held => congr held ⟨rfl, rfl⟩) (fun {resolution} world failures held => ?_) uses held
  let start : Progress σ := { world, failures, resolution }
  have before : recordsHold start.resolution := held
  exact keeps.resolves_records congr before

/-! ## Records hold what plugins answered -/

/-- A definition answers with an attribute, when it is shown some state in some world. -/
def Definition.Answers (definition : Definition σ) (attr : Attribute) : Prop :=
  ∃ seen world, (definition.compute seen world).1 = .ok (some attr)

/-- A connector answers with attributes, when it is shown some state in some world. -/
def Connector.Answers (connector : Connector σ) (attributes : AttributeMap) : Prop :=
  ∃ seen world, (connector.fetch seen world).1 = .ok (some attributes)

/-- The record of a definition holds what the definition answered, and is marked as its settings
say. -/
structure DefinitionRecord.Answered (resolver : Resolver σ) (id : String)
    (record : DefinitionRecord) (definition : Definition σ) : Prop where
  found : resolver.definitions.get? id = some definition
  marked : record.dependencyOnly = definition.settings.dependencyOnly
  answered : ∀ attr, record.attr = some attr → definition.Answers attr

/-- All that is recorded was answered by a plugin. -/
structure Resolution.Answered (resolver : Resolver σ) (resolution : Resolution) : Prop where
  definitions : ∀ id record, resolution.definitions.get? id = some record →
    ∃ definition, record.Answered resolver id definition
  connectors : ∀ id record, resolution.connectors.get? id = some record →
    ∀ attributes, record.attributes = some attributes →
      ∃ connector, resolver.connectors.get? record.resolvedBy = some connector ∧
        connector.Answers attributes

theorem Resolution.Answered.congr {first second : Resolution} (answered : first.Answered resolver)
    (same : first.SameRecords second) : second.Answered resolver :=
  ⟨same.definitions ▸ answered.definitions, same.connectors ▸ answered.connectors⟩

/-- An answer of the connector that a record names may be recorded, also under another connector. -/
theorem Resolution.Answered.recordConnector {resolution : Resolution}
    (answered : resolution.Answered resolver) {record : ConnectorRecord}
    (own : ∀ attributes, record.attributes = some attributes →
      ∃ connector, resolver.connectors.get? record.resolvedBy = some connector ∧
        connector.Answers attributes) :
    (resolution.recordConnector record).Answered resolver :=
  ⟨answered.definitions, KeyMap.holds_of_get?_insert own answered.connectors⟩

/-- A connector that is run has a result only if it answered with it. -/
theorem answers_of_fetchConnector {id : String} {connector : Connector σ}
    {progress ran : Progress σ} {attributes : AttributeMap}
    (fetched : fetchConnector clock id connector progress = (.ok (some attributes), ran)) :
    (connector.fetch progress.resolution progress.world).1 = .ok (some attributes) := by
  have outcome := (fetched_of_fetchConnector fetched).answered.symm
  cases answer : (connector.fetch progress.resolution progress.world).1 with
  | error error =>
      rw [answer] at outcome
      cases outcome
  | ok found =>
      rw [answer] at outcome
      simp only [connectorOutcome, bind, Except.bind] at outcome
      split at outcome
      · cases outcome
      · rw [(Option.filter_eq_some_iff.mp (Except.ok.inj outcome)).1]

/-- Each step records what a plugin has answered, or what stands recorded for its failover. -/
theorem answered_invariant (resolver : Resolver σ) (clock : σ → Instant × σ) :
    Invariant resolver clock fun progress => progress.resolution.Answered resolver where
  reads := fun answered => answered
  passes := fun _ answered => answered
  defines := fun {id definition} found {progress} answered => by
    rw [runDefinition_resolution]
    refine ⟨KeyMap.holds_of_get?_insert ?_ answered.definitions, answered.connectors⟩
    refine ⟨definition, found, rfl, fun attr has => ⟨progress.resolution, progress.world, ?_⟩⟩
    cases outcome : (definition.compute progress.resolution progress.world).1 with
    | error error => simp [outcome, Except.toOption] at has
    | ok own => simpa [outcome, Except.toOption] using has
  answers := fun {id connector} found {progress ran attributes} fetched answered => by
    have same := (fetched_of_fetchConnector fetched).resolution
    refine Resolution.Answered.recordConnector (same ▸ answered) ?_
    rintro _ rfl
    exact ⟨connector, found, _, _, answers_of_fetchConnector fetched⟩
  fails := fun _ _ _ _ failed answered =>
    (fetched_of_fetchConnector failed).resolution ▸ answered
  substitutes := fun {progress} id next answered => by
    refine answered.recordConnector ?_
    unfold substituteRecord
    split
    · rename_i resolved found
      exact answered.connectors next resolved found
    · intro attributes nothing
      cases nothing
  absorbs := fun _ answered => answered.recordConnector fun _ nothing => by cases nothing

/-- However a new request was used, all that it has recorded was answered by a plugin. -/
theorem stateAfter_answered (resolver : Resolver σ) (clock : σ → Instant × σ) (request : Request)
    (uses : List (Use σ)) : (stateAfter resolver clock { request } uses).Answered resolver := by
  refine (answered_invariant resolver clock).stateAfter Resolution.Answered.congr uses ?_
  exact ⟨fun _ _ found => (nomatch found), fun _ _ found => (nomatch found)⟩

/-- A call adds only answers to the records, whether it succeeds or fails. -/
theorem resolve_answered {start : Progress σ} (answered : start.resolution.Answered resolver) :
    (resolve resolver clock start).2.resolution.Answered resolver :=
  (answered_invariant resolver clock).resolves_records Resolution.Answered.congr answered

end AttributeRelease.Resolver
