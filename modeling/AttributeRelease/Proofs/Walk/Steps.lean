import AttributeRelease.Resolver.Walk

/-!
# Single steps of a walk

What the steps of a walk do to the state of the request, to the failures and to the journal, said
once for each of them.
-/

namespace AttributeRelease.Resolver

variable {σ : Type} {clock : σ → Instant × σ}

/-! ## The state of the request -/

namespace Resolution

/-- A definition's result makes that definition recorded, and no other plugin. -/
@[simp] theorem isRecorded_recordDefinition (resolution : Resolution) (record : DefinitionRecord)
    (ref : PluginRef) :
    (resolution.recordDefinition record).isRecorded ref =
      (decide (ref = .definition record.definitionId) || resolution.isRecorded ref) := by
  cases ref with
  | definition id =>
      simp only [isRecorded, recordDefinition, KeyMap.contains, KeyMap.get?_insert]
      by_cases same : id = record.definitionId
      · simp [same]
      · simp [same, Ne.symm same]
  | connector id => simp [isRecorded, recordDefinition]

/-- A connector's result makes that connector recorded, and no other plugin. -/
@[simp] theorem isRecorded_recordConnector (resolution : Resolution) (record : ConnectorRecord)
    (ref : PluginRef) :
    (resolution.recordConnector record).isRecorded ref =
      (decide (ref = .connector record.connectorId) || resolution.isRecorded ref) := by
  cases ref with
  | definition id => simp [isRecorded, recordConnector]
  | connector id =>
      simp only [isRecorded, recordConnector, KeyMap.contains, KeyMap.get?_insert]
      by_cases same : id = record.connectorId
      · simp [same]
      · simp [same, Ne.symm same]

end Resolution

@[simp] theorem substituteRecord_connectorId (resolution : Resolution) (id next : String) :
    (substituteRecord resolution id next).connectorId = id := by
  rw [substituteRecord]
  split <;> rfl

/-! ## Failures -/

/-- A failure is noted for one connector only. -/
theorem FailureLog.last?_record (log : FailureLog) {id other : String} (differs : other ≠ id)
    (instant : Instant) : (log.record id instant).last? other = log.last? other := by
  rw [record]
  split
  · rw [last?, last?, KeyMap.get?_insert, if_neg (Ne.symm differs)]
  · rfl

/-- Whether a connector is in its no-retry window depends on nothing but its own last failure. -/
theorem FailureLog.inNoRetryWindow_congr {first second : FailureLog} {id : String}
    (same : first.last? id = second.last? id) (delay : Duration) (now : Instant) :
    first.inNoRetryWindow id delay now = second.inNoRetryWindow id delay now := by
  rw [inNoRetryWindow, inNoRetryWindow, same]

/-! ## The journal and the clock -/

/-- The plugins that were run, and the state of the request that each was shown. -/
def invocations (journal : List Event) : List (PluginRef × Resolution) :=
  journal.filterMap fun
    | .ran plugin seen => some (plugin, seen)
    | .failed _ _ => none
    | .passedOver _ => none

theorem invocations_append (earlier later : List Event) :
    invocations (earlier ++ later) = invocations earlier ++ invocations later :=
  List.filterMap_append

theorem invocations_passedOver (progress : Progress σ) (id : String) :
    invocations (progress.note (.passedOver id)).journal = invocations progress.journal := by
  simp [Progress.note, invocations]

theorem readClock_eq {before read : Progress σ} {now : Instant}
    (clockRead : before.readClock clock = (now, read)) :
    now = (clock before.world).1 ∧ read = { before with world := (clock before.world).2 } := by
  cases clockRead
  exact ⟨rfl, rfl⟩

/-! ## Running a definition -/

/-- A definition that was run leaves a record of its attribute, an error being none. -/
theorem runDefinition_resolution (id : String) (definition : Definition σ)
    (progress : Progress σ) :
    (runDefinition id definition progress).2.resolution =
      progress.resolution.recordDefinition
        ⟨id, (definition.compute progress.resolution progress.world).1.toOption.join,
          definition.settings.dependencyOnly⟩ := by
  simp only [runDefinition, Progress.run, Progress.recordDefinition]
  cases (definition.compute progress.resolution progress.world).1 <;> rfl

theorem runDefinition_failures (id : String) (definition : Definition σ)
    (progress : Progress σ) :
    (runDefinition id definition progress).2.failures = progress.failures := by
  simp only [runDefinition, Progress.run, Progress.recordDefinition]
  cases (definition.compute progress.resolution progress.world).1 <;> rfl

/-- It was run once, and shown the state before its own result. -/
theorem runDefinition_invocations (id : String) (definition : Definition σ)
    (progress : Progress σ) :
    invocations (runDefinition id definition progress).2.journal =
      invocations progress.journal ++ [(.definition id, progress.resolution)] := by
  simp only [runDefinition, Progress.run, Progress.recordDefinition]
  cases (definition.compute progress.resolution progress.world).1 <;>
    simp [Progress.noteOutcome, Progress.note, invocations]

theorem runDefinition_world (id : String) (definition : Definition σ) (progress : Progress σ) :
    (runDefinition id definition progress).2.world =
      (definition.compute progress.resolution progress.world).2 := by
  simp only [runDefinition, Progress.run, Progress.recordDefinition]
  cases (definition.compute progress.resolution progress.world).1 <;> rfl

/-- What is written down when a plugin was run: that it was shown a state, and perhaps that it
failed. -/
def Event.Tells (plugin : PluginRef) (seen : Resolution) (events : List Event) : Prop :=
  events = [.ran plugin seen] ∨ ∃ error, events = [.ran plugin seen, .failed plugin error]

/-- What is written down when a definition is run is that it was, and perhaps that it failed. -/
theorem runDefinition_journal (id : String) (definition : Definition σ) (progress : Progress σ) :
    ∃ events, Event.Tells (.definition id) progress.resolution events ∧
      (runDefinition id definition progress).2.journal = progress.journal ++ events := by
  simp only [runDefinition, Progress.run, Progress.recordDefinition]
  cases (definition.compute progress.resolution progress.world).1 with
  | ok attr => exact ⟨_, .inl rfl, rfl⟩
  | error error => exact ⟨_, .inr ⟨error, rfl⟩, List.append_assoc _ _ _⟩

/-! ## Running a connector -/

/-- What running a connector comes to. Its answer is not recorded yet, and no failure of another
connector is noted. -/
structure Fetched (id : String) (connector : Connector σ) (before : Progress σ)
    (answer : Except ResolutionError (Option AttributeMap)) (after : Progress σ) : Prop where
  answered : answer = connectorOutcome connector.settings id
    (connector.fetch before.resolution before.world).1
  resolution : after.resolution = before.resolution
  failures : ∀ other, other ≠ id → after.failures.last? other = before.failures.last? other
  invocations : invocations after.journal =
    invocations before.journal ++ [(.connector id, before.resolution)]

/-- Running a connector comes to nothing else. -/
theorem fetched_of_fetchConnector {id : String} {connector : Connector σ}
    {before after : Progress σ} {answer : Except ResolutionError (Option AttributeMap)}
    (fetched : fetchConnector clock id connector before = (answer, after)) :
    Fetched id connector before answer after := by
  simp only [fetchConnector, Progress.run] at fetched
  split at fetched
  · rename_i outcome
    cases fetched
    exact ⟨outcome.symm, rfl, fun _ _ => rfl, by simp [Progress.note, invocations]⟩
  · rename_i error outcome
    cases fetched
    -- only the failure of the source is noted for the no-retry window
    cases source : error.isSourceFailure with
    | false =>
        simp only [noteFailure, source, Bool.false_eq_true, if_false]
        exact ⟨outcome.symm, rfl, fun _ _ => rfl, by simp [Progress.note, invocations]⟩
    | true =>
        simp only [noteFailure, source, if_true]
        exact ⟨outcome.symm, rfl, fun _ differs => FailureLog.last?_record _ differs _,
          by simp [Progress.note, Progress.readClock, invocations]⟩

/-- The answer of a connector is not in the state of the request yet. -/
theorem fetchConnector_resolution (clock : σ → Instant × σ) (id : String)
    (connector : Connector σ) (progress : Progress σ) :
    (fetchConnector clock id connector progress).2.resolution = progress.resolution :=
  (fetched_of_fetchConnector rfl).resolution

/-- When a connector was run, the world is as it left it, or the clock was read since. -/
theorem fetchConnector_world (clock : σ → Instant × σ) (id : String) (connector : Connector σ)
    (progress : Progress σ) :
    (fetchConnector clock id connector progress).2.world =
        (connector.fetch progress.resolution progress.world).2 ∨
      (fetchConnector clock id connector progress).2.world =
        (clock (connector.fetch progress.resolution progress.world).2).2 := by
  simp only [fetchConnector, Progress.run]
  split
  · exact .inl rfl
  · rename_i error outcome
    simp only [noteFailure]
    cases error.isSourceFailure with
    | false => exact .inl rfl
    | true => exact .inr rfl

/-- That a connector failed is written down, whether or not it counts for its no-retry window. -/
theorem noteFailure_journal (clock : σ → Instant × σ) (id : String) (error : ResolutionError)
    (progress : Progress σ) :
    (noteFailure clock id error progress).journal =
      progress.journal ++ [.failed (.connector id) error] := by
  simp only [noteFailure]
  cases error.isSourceFailure <;> rfl

/-- What is written down when a connector is run is that it was, and perhaps that it failed. -/
theorem fetchConnector_journal (clock : σ → Instant × σ) (id : String) (connector : Connector σ)
    (progress : Progress σ) :
    ∃ events, Event.Tells (.connector id) progress.resolution events ∧
      (fetchConnector clock id connector progress).2.journal = progress.journal ++ events := by
  simp only [fetchConnector, Progress.run]
  split
  · exact ⟨_, .inl rfl, rfl⟩
  · rename_i error outcome
    refine ⟨_, .inr ⟨error, rfl⟩, ?_⟩
    rw [noteFailure_journal]
    exact List.append_assoc _ _ _

end AttributeRelease.Resolver
