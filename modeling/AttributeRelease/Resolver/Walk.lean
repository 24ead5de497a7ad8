import AttributeRelease.Resolver.Basic

/-!
# Walking the graph

To resolve a plugin is to resolve its dependencies, run it, and record its result, unless it has a
record already. A connector that fails, or failed recently, is replaced by its failover; without
one, its settings say whether the failure ends the walk or counts as an empty result. A failure of a
definition never ends the walk.

A walk keeps track of the plugins it is inside of. To enter one of them again, or to go deeper than
there are plugins, would be to go round in a circle; it ends the walk as `Halt.reentered`, which
does not happen in an accepted graph. A walk also keeps a journal: which plugins it ran and what
they were shown, which of them failed, and which connectors it passed over.
-/

namespace AttributeRelease.Resolver

variable {σ : Type}

/-- Why a walk ends early. -/
inductive Halt where
  | failed (error : ResolutionError)
  | reentered (plugin : PluginRef)
  deriving DecidableEq, Repr

/-- What happens on a walk: a plugin is run, and is shown the state of the request; it fails; or a
connector is passed over inside its no-retry window. -/
inductive Event where
  | ran (plugin : PluginRef) (seen : Resolution)
  | failed (plugin : PluginRef) (error : ResolutionError)
  | passedOver (connectorId : String)

/-- How far a walk has come: the world, the failures noted so far, the state of the request, and a
journal of what happened. -/
structure Progress (σ : Type) where
  world : σ
  failures : FailureLog
  resolution : Resolution
  journal : List Event := []

/-- A part of a walk. What was done before it ends early stays done. -/
abbrev Step (σ : Type) := Progress σ → Except Halt Unit × Progress σ

namespace Progress

/-- Records the result of a definition. -/
def recordDefinition (progress : Progress σ) (record : DefinitionRecord) : Progress σ :=
  { progress with resolution := progress.resolution.recordDefinition record }

/-- Records the result of a connector. -/
def recordConnector (progress : Progress σ) (record : ConnectorRecord) : Progress σ :=
  { progress with resolution := progress.resolution.recordConnector record }

/-- Writes down what happened. -/
def note (progress : Progress σ) (event : Event) : Progress σ :=
  { progress with journal := progress.journal ++ [event] }

/-- Writes down how a plugin failed, if it did. -/
def noteOutcome {α : Type} (progress : Progress σ) (plugin : PluginRef) :
    Except ResolutionError α → Progress σ
  | .ok _ => progress
  | .error error => progress.note (.failed plugin error)

/-- Runs a plugin. -/
def run {α : Type} (progress : Progress σ) (plugin : PluginRef) (action : Action σ α) :
    Except ResolutionError α × Progress σ :=
  let (outcome, world) := action progress.resolution progress.world
  (outcome, { progress.note (.ran plugin progress.resolution) with world })

/-- Reads the clock. -/
def readClock (progress : Progress σ) (clock : σ → Instant × σ) : Instant × Progress σ :=
  let (now, world) := clock progress.world
  (now, { progress with world })

end Progress

namespace Step

/-- A step followed by another, unless it ends early. -/
def andThen (first second : Step σ) : Step σ := fun progress =>
  match first progress with
  | (.ok (), progress) => second progress
  | halted => halted

/-- A step for each of several items in order, until one ends early. -/
def forEach {α : Type} (step : α → Step σ) : List α → Step σ
  | [] => fun progress => (.ok (), progress)
  | item :: rest => andThen (step item) (forEach step rest)

end Step

/-- Runs a definition whose dependencies are resolved. An error counts as no attribute. -/
def runDefinition (id : String) (definition : Definition σ) : Step σ := fun progress =>
  let (outcome, progress) := progress.run (.definition id) definition.compute
  (.ok (), (progress.noteOutcome (.definition id) outcome).recordDefinition
    ⟨id, outcome.toOption.join, definition.settings.dependencyOnly⟩)

/-- Resolves a definition that has no record. -/
def resolveDefinition (visit : PluginRef → Step σ) (id : String) (definition : Definition σ) :
    Step σ :=
  Step.andThen (Step.forEach visit definition.settings.dependencies.refs)
    (runDefinition id definition)

/-- What the answer of a connector amounts to: an empty map is no result, and having none may be an
error. -/
def connectorOutcome (settings : ConnectorSettings) (id : String)
    (answer : Except ResolutionError (Option AttributeMap)) :
    Except ResolutionError (Option AttributeMap) := do
  let attributes := (← answer).filter fun attributes => !attributes.isEmpty
  if attributes.isNone && settings.noResultIsError then throw (.noResult id)
  return attributes

/-- The record of a connector that is replaced by its failover. -/
def substituteRecord (resolution : Resolution) (id failoverId : String) : ConnectorRecord :=
  match resolution.connectors.get? failoverId with
  | some resolved => ⟨id, resolved.resolvedBy, resolved.attributes⟩
  | none => .empty id

/-- Resolves the failover of a connector and records its result for the connector too. -/
def resolveFailover (visit : PluginRef → Step σ) (id failoverId : String) : Step σ :=
  Step.andThen (visit (.connector failoverId)) fun progress =>
    (.ok (), progress.recordConnector (substituteRecord progress.resolution id failoverId))

/-- Replaces a connector that has no usable result, for a reason that the walk may end with. -/
def replaceConnector (visit : PluginRef → Step σ) (id : String) (settings : ConnectorSettings)
    (reason : ResolutionError) : Step σ := fun progress =>
  match settings.failover with
  | some failoverId => resolveFailover visit id failoverId progress
  | none =>
    if settings.propagateErrors then (.error (.failed reason), progress)
    else (.ok (), progress.recordConnector (.empty id))

/-- Notes that a connector failed. Only the failure of its source counts for its no-retry window. -/
def noteFailure (clock : σ → Instant × σ) (id : String) (error : ResolutionError)
    (progress : Progress σ) : Progress σ :=
  let progress := progress.note (.failed (.connector id) error)
  if error.isSourceFailure then
    let (now, progress) := progress.readClock clock
    { progress with failures := progress.failures.record id now }
  else progress

/-- Runs a connector and notes its failure. -/
def fetchConnector (clock : σ → Instant × σ) (id : String) (connector : Connector σ)
    (progress : Progress σ) : Except ResolutionError (Option AttributeMap) × Progress σ :=
  let (answer, progress) := progress.run (.connector id) connector.fetch
  match connectorOutcome connector.settings id answer with
  | .ok attributes => (.ok attributes, progress)
  | .error error => (.error error, noteFailure clock id error progress)

/-- Runs a connector whose dependencies are resolved, and records its result or replaces it. -/
def runConnector (clock : σ → Instant × σ) (visit : PluginRef → Step σ) (id : String)
    (connector : Connector σ) : Step σ := fun progress =>
  match fetchConnector clock id connector progress with
  | (.ok attributes, progress) => (.ok (), progress.recordConnector ⟨id, id, attributes⟩)
  | (.error error, progress) => replaceConnector visit id connector.settings error progress

/-- Resolves a connector that has no record. Inside its no-retry window it is not run, nor are its
dependencies resolved. -/
def resolveConnector (clock : σ → Instant × σ) (visit : PluginRef → Step σ) (id : String)
    (connector : Connector σ) : Step σ := fun progress =>
  let (now, progress) := progress.readClock clock
  if progress.failures.inNoRetryWindow id connector.settings.noRetryDelay now then
    replaceConnector visit id connector.settings (.noRetryWindow id)
      (progress.note (.passedOver id))
  else
    Step.andThen (Step.forEach visit connector.settings.dependencies.refs)
      (runConnector clock visit id connector) progress

/-- Resolves a plugin, given how to visit those it leads to. -/
def enter (resolver : Resolver σ) (clock : σ → Instant × σ) (visit : PluginRef → Step σ) :
    PluginRef → Step σ
  | .definition id =>
    match resolver.definitions.get? id with
    | some definition => resolveDefinition visit id definition
    | none => fun progress => (.ok (), progress)
  | .connector id =>
    match resolver.connectors.get? id with
    | some connector => resolveConnector clock visit id connector
    | none => fun progress => (.ok (), progress)

/-- Whether the resolver has a plugin. -/
def hasPlugin (resolver : Resolver σ) : PluginRef → Bool
  | .definition id => resolver.definitions.contains id
  | .connector id => resolver.connectors.contains id

/-- Visits a plugin: nothing is done if it has a record or is unknown. `inside` holds the plugins
that are being resolved, and `depth` says how many more may be entered. -/
def visit (resolver : Resolver σ) (clock : σ → Instant × σ) :
    (depth : Nat) → (inside : List PluginRef) → PluginRef → Step σ
  | depth, inside, ref, progress =>
    if progress.resolution.isRecorded ref || !hasPlugin resolver ref then (.ok (), progress)
    else if ref ∈ inside then (.error (.reentered ref), progress)
    else
      match depth with
      | 0 => (.error (.reentered ref), progress)
      | depth + 1 => enter resolver clock (visit resolver clock depth (ref :: inside)) ref progress

end AttributeRelease.Resolver
