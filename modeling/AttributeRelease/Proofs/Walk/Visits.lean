import AttributeRelease.Proofs.Walk.Determinacy

/-!
# The visits of a request

A request visits plugins in three stages, and inside of a plugin those that it needs (`Visits`). A
visit that halts ends the whole request, and what it comes to reaches the caller unchanged
(`Visits.halts`). A relation that the parts of a request keep to holds between its start and each of
its visits (`WalkLaw.visited`) and between each visit and its end (`RestLaw.follows`); so what a
visit recorded stays recorded until the request is over (`Visits.retained`).
-/

namespace AttributeRelease.Resolver

variable {σ : Type} {resolver : Resolver σ} {clock : σ → Instant × σ}

/-! ## Connectors without a usable result -/

/-- Why a connector that is run has no usable result: it fails, or has none although one is
needed. -/
inductive Connector.FailsWith (connector : Connector σ) (id : String) (progress : Progress σ) :
    ResolutionError → Prop
  | failed {error : ResolutionError}
      (answer : (connector.fetch progress.resolution progress.world).1 = .error error) :
      FailsWith connector id progress error
  | noResult {attributes : Option AttributeMap}
      (answer : (connector.fetch progress.resolution progress.world).1 = .ok attributes)
      (nothing : ∀ found ∈ attributes, found.isEmpty = true)
      (needed : connector.settings.noResultIsError = true) :
      FailsWith connector id progress (.noResult id)

/-- The outcome that the code makes of an answer is an error exactly when the connector fails with
it. -/
theorem failsWith_iff {connector : Connector σ} {id : String} {progress : Progress σ}
    {error : ResolutionError} :
    connector.FailsWith id progress error ↔ connectorOutcome connector.settings id
      (connector.fetch progress.resolution progress.world).1 = .error error := by
  constructor
  · intro fails
    cases fails with
    | failed answer =>
        rw [answer]
        rfl
    | @noResult attributes answer nothing needed =>
        have none : attributes.filter (fun found => !found.isEmpty) = none := by
          cases attributes with
          | none => rfl
          | some found => simp [nothing found rfl]
        rw [answer]
        simp only [connectorOutcome, bind, Except.bind, none, needed]
        rfl
  · intro outcome
    cases answer : (connector.fetch progress.resolution progress.world).1 with
    | error reason =>
        rw [answer] at outcome
        cases outcome
        exact .failed answer
    | ok attributes =>
        rw [answer] at outcome
        simp only [connectorOutcome, bind, Except.bind] at outcome
        split at outcome
        · rename_i needed
          cases outcome
          obtain ⟨isNone, needed⟩ := Bool.and_eq_true_iff.mp needed
          refine .noResult answer (fun found member => ?_) needed
          cases member
          simpa using isNone
        · cases outcome

/-- A connector that is visited has no usable result, for a reason and with some progress made: in
its no-retry window it is not run, else it is run after its dependencies and fails. -/
inductive Unusable (resolver : Resolver σ) (clock : σ → Instant × σ) (inside : List PluginRef)
    (id : String) (connector : Connector σ) : Progress σ → ResolutionError → Progress σ → Prop
  | passedOver {before read : Progress σ} {now : Instant}
      (clockRead : before.readClock clock = (now, read))
      (window : read.failures.inNoRetryWindow id connector.settings.noRetryDelay now = true) :
      Unusable resolver clock inside id connector before (.noRetryWindow id)
        (read.note (.passedOver id))
  | failed {before read middle : Progress σ} {now : Instant} {error : ResolutionError}
      (clockRead : before.readClock clock = (now, read))
      (noWindow : read.failures.inNoRetryWindow id connector.settings.noRetryDelay now = false)
      (dependencies : Runs resolver clock (.connector id :: inside)
        (.visitAll connector.settings.dependencies.refs) read (.ok ()) middle)
      (fails : connector.FailsWith id middle error) :
      Unusable resolver clock inside id connector before error
        (fetchConnector clock id connector middle).2

/-- A connector that fails returns its error, with the failure noted. -/
theorem Connector.FailsWith.fetchConnector_eq {connector : Connector σ} {id : String}
    {progress : Progress σ} {error : ResolutionError}
    (fails : connector.FailsWith id progress error) :
    fetchConnector clock id connector progress =
      (.error error, (fetchConnector clock id connector progress).2) := by
  have outcome := failsWith_iff.mp fails
  simp only [fetchConnector, Progress.run, outcome]

/-- An unusable connector comes to what replaces it. -/
theorem Unusable.runs {inside : List PluginRef} {id : String} {connector : Connector σ}
    {before middle after : Progress σ} {reason : ResolutionError} {outcome : Except Halt Unit}
    (unusable : Unusable resolver clock inside id connector before reason middle)
    (found : resolver.connectors.get? id = some connector)
    (fresh : before.resolution.isRecorded (.connector id) = false)
    (outside : .connector id ∉ inside)
    (replaced : Runs resolver clock (.connector id :: inside)
      (.replace id connector.settings reason) middle outcome after) :
    Runs resolver clock inside (.visit (.connector id)) before outcome after := by
  cases unusable with
  | passedOver clockRead window => exact .passedOver found fresh outside clockRead window replaced
  | failed clockRead noWindow dependencies fails =>
      exact .fetchFailed found fresh outside clockRead noWindow dependencies
        fails.fetchConnector_eq replaced

/-! ## The visits of a request -/

/-- The parts of a request: what is visited before all else, then what exports, then what is asked
for. Each begins where the one before it ended well. -/
inductive Stage (resolver : Resolver σ) (clock : σ → Instant × σ) (start : Progress σ) :
    List PluginRef → Progress σ → Prop
  | preRequested : Stage resolver clock start ((preRequestedIds resolver).map .definition) start
  | exporting {middle : Progress σ}
      (kept : preResolve resolver clock start = (.ok (), middle)) :
      Stage resolver clock start ((exportingIds resolver).map .connector) middle
  | requested {middle before : Progress σ}
      (kept : preResolve resolver clock start = (.ok (), middle))
      (exported : visitAll resolver clock ((exportingIds resolver).map .connector) middle =
        (.ok (), before)) :
      Stage resolver clock start ((requestedIds resolver before.resolution).map .definition) before

/-- On its way a request visits a plugin, inside of others that need it and with some progress
made. -/
inductive Visits (resolver : Resolver σ) (clock : σ → Instant × σ) (start : Progress σ) :
    List PluginRef → PluginRef → Progress σ → Prop
  | ofStage {refs earlier later : List PluginRef} {ref : PluginRef} {first before : Progress σ}
      (stage : Stage resolver clock start refs first)
      (listed : refs = earlier ++ ref :: later)
      (done : Runs resolver clock [] (.visitAll earlier) first (.ok ()) before) :
      Visits resolver clock start [] ref before
  | ofDefinition {inside earlier later : List PluginRef} {id : String}
      {definition : Definition σ} {ref : PluginRef} {first before : Progress σ}
      (visits : Visits resolver clock start inside (.definition id) first)
      (found : resolver.definitions.get? id = some definition)
      (fresh : first.resolution.isRecorded (.definition id) = false)
      (listed : definition.settings.dependencies.refs = earlier ++ ref :: later)
      (done : Runs resolver clock (.definition id :: inside) (.visitAll earlier) first (.ok ())
        before) :
      Visits resolver clock start (.definition id :: inside) ref before
  | ofConnector {inside earlier later : List PluginRef} {id : String}
      {connector : Connector σ} {ref : PluginRef} {first read before : Progress σ} {now : Instant}
      (visits : Visits resolver clock start inside (.connector id) first)
      (found : resolver.connectors.get? id = some connector)
      (fresh : first.resolution.isRecorded (.connector id) = false)
      (clockRead : first.readClock clock = (now, read))
      (noWindow : read.failures.inNoRetryWindow id connector.settings.noRetryDelay now = false)
      (listed : connector.settings.dependencies.refs = earlier ++ ref :: later)
      (done : Runs resolver clock (.connector id :: inside) (.visitAll earlier) read (.ok ())
        before) :
      Visits resolver clock start (.connector id :: inside) ref before
  | failover {inside : List PluginRef} {id next : String} {connector : Connector σ}
      {first before : Progress σ} {reason : ResolutionError}
      (visits : Visits resolver clock start inside (.connector id) first)
      (found : resolver.connectors.get? id = some connector)
      (fresh : first.resolution.isRecorded (.connector id) = false)
      (unusable : Unusable resolver clock inside id connector first reason before)
      (named : connector.settings.failover = some next) :
      Visits resolver clock start (.connector id :: inside) (.connector next) before

variable {start : Progress σ}

/-- A plugin is never come to inside of itself, as the graph has no circles. -/
theorem Reaches.outside {inside : List PluginRef} {ref : PluginRef}
    (reaches : Reaches resolver inside [ref]) (known : hasPlugin resolver ref = true) :
    ref ∉ inside :=
  (reaches ref (List.mem_singleton_self ref) known).outside resolver.wellFormed.acyclic

theorem Reaches.enterFailover {inside : List PluginRef} {id next : String}
    {connector : Connector σ} (reaches : Reaches resolver inside [.connector id])
    (found : resolver.connectors.get? id = some connector)
    (named : connector.settings.failover = some next) :
    Reaches resolver (.connector id :: inside) [.connector next] := by
  have outside := reaches.outside (hasPlugin_connector found)
  exact (reaches.enterConnector found outside).mono (by simp [named])

/-- A way leads to what is visited. -/
theorem Visits.reaches {inside : List PluginRef} {ref : PluginRef} {before : Progress σ}
    (visits : Visits resolver clock start inside ref before) :
    Reaches resolver inside [ref] := by
  induction visits with
  | ofStage => exact reaches_root _
  | ofDefinition _ found _ listed _ ih =>
      have outside := ih.outside (hasPlugin_definition found)
      exact (ih.enterDefinition found outside).mono (by simp [listed])
  | ofConnector _ found _ _ _ listed _ ih =>
      have outside := ih.outside (hasPlugin_connector found)
      exact (ih.enterConnector found outside).mono (by simp [listed])
  | failover _ found _ _ named ih => exact ih.enterFailover found named

/-! ## How a request halts -/

/-- Two steps halt when the first does, or when the second does after it. -/
theorem Step.andThen_halted_iff {first second : Step σ} {start after : Progress σ} {halt : Halt} :
    Step.andThen first second start = (.error halt, after) ↔
      first start = (.error halt, after) ∨
        ∃ middle, first start = (.ok (), middle) ∧ second middle = (.error halt, after) := by
  rw [Step.andThen_eq]
  rcases first start with ⟨reason | done, middle⟩
  · simp
  · simp

/-- The first part of a request halts only where a plugin that is visited halts. -/
theorem preResolve_halted_iff {after : Progress σ} {halt : Halt} :
    preResolve resolver clock start = (.error halt, after) ↔
      visitAll resolver clock ((preRequestedIds resolver).map .definition) start =
        (.error halt, after) := by
  unfold preResolve
  split
  · rename_i nobody
    simp [nobody, visitAll, Step.forEach]
  · rw [Step.andThen_halted_iff]
    simp

/-- A request halts where one of its parts does. -/
theorem resolve_halted_iff {after : Progress σ} {halt : Halt} :
    resolve resolver clock start = (.error halt, after) ↔
      ∃ refs first, Stage resolver clock start refs first ∧
        visitAll resolver clock refs first = (.error halt, after) := by
  unfold resolve
  rw [Step.andThen_halted_iff, preResolve_halted_iff]
  constructor
  · rintro (halted | ⟨middle, kept, halted⟩)
    · exact ⟨_, _, .preRequested, halted⟩
    · rcases Step.andThen_halted_iff.mp halted with halted | ⟨before, exported, halted⟩
      · exact ⟨_, _, .exporting kept, halted⟩
      · rcases Step.andThen_halted_iff.mp halted with halted | ⟨asked, -, released⟩
        · exact ⟨_, _, .requested kept exported, halted⟩
        · cases released
  · rintro ⟨refs, first, stage, halted⟩
    cases stage with
    | preRequested => exact .inl halted
    | exporting kept => exact .inr ⟨first, kept, Step.andThen_halted_iff.mpr (.inl halted)⟩
    | requested kept exported =>
        refine .inr ⟨_, kept, Step.andThen_halted_iff.mpr (.inr ⟨first, exported, ?_⟩)⟩
        exact Step.andThen_halted_iff.mpr (.inl halted)

/-- Several plugins are visited one after another. -/
theorem Runs.append {inside earlier later : List PluginRef} {first before after : Progress σ}
    {outcome : Except Halt Unit}
    (done : Runs resolver clock inside (.visitAll earlier) first (.ok ()) before)
    (rest : Runs resolver clock inside (.visitAll later) before outcome after) :
    Runs resolver clock inside (.visitAll (earlier ++ later)) first outcome after := by
  induction earlier generalizing first with
  | nil =>
      cases done
      exact rest
  | cons ref others ih =>
      cases done with
      | next visited remaining => exact .next visited (ih remaining)

/-- A plugin that halts ends the visit of the whole list it stands in. -/
theorem Runs.append_halted {inside refs earlier later : List PluginRef} {ref : PluginRef}
    {first before after : Progress σ} {halt : Halt}
    (visited : Runs resolver clock inside (.visitAll earlier) first (.ok ()) before)
    (listed : refs = earlier ++ ref :: later)
    (halted : Runs resolver clock inside (.visit ref) before (.error halt) after) :
    Runs resolver clock inside (.visitAll refs) first (.error halt) after := by
  rw [listed]
  exact visited.append (.halted halted)

/-- When a plugin that a request visits halts, so does the request: what the plugin is needed for
passes this on unchanged. -/
theorem Visits.halts {inside : List PluginRef} {ref : PluginRef} {before after : Progress σ}
    {halt : Halt} (visits : Visits resolver clock start inside ref before)
    (halted : Runs resolver clock inside (.visit ref) before (.error halt) after) :
    resolve resolver clock start = (.error halt, after) := by
  induction visits with
  | ofStage stage listed done =>
      have all := done.append_halted listed halted
      exact resolve_halted_iff.mpr
        ⟨_, _, stage, all.perform_eq (reaches_root _) (Nat.le_add_left _ _)⟩
  | ofDefinition visits found fresh listed done ih =>
      have all := done.append_halted listed halted
      have outside := visits.reaches.outside (hasPlugin_definition found)
      exact ih (.definitionHalted found fresh outside all)
  | ofConnector visits found fresh clockRead noWindow listed done ih =>
      have all := done.append_halted listed halted
      have outside := visits.reaches.outside (hasPlugin_connector found)
      exact ih (.connectorHalted found fresh outside clockRead noWindow all)
  | failover visits found fresh unusable named ih =>
      have outside := visits.reaches.outside (hasPlugin_connector found)
      exact ih (unusable.runs found fresh outside (.failoverHalted named halted))

/-! ## What is done after a visit -/

/-- Every errand can be run to an end. -/
theorem Errand.exists_runs (resolver : Resolver σ) (clock : σ → Instant × σ)
    (inside : List PluginRef) (errand : Errand) (before : Progress σ) :
    ∃ outcome after, Runs resolver clock inside errand before outcome after := by
  have each : ∀ ref progress, Runs resolver clock inside (.visit ref) progress _ _ :=
    runs_visit (Nat.le_add_left _ _)
  cases errand with
  | visit ref => exact ⟨_, _, each ref before⟩
  | visitAll refs => exact ⟨_, _, runs_forEach each refs before⟩
  | replace id settings reason => exact ⟨_, _, runs_replace each id settings reason before⟩

/-- A relation that a request keeps to from the end of a visit on. Only plugins without a record are
recorded. -/
structure RestLaw (resolver : Resolver σ) (clock : σ → Instant × σ)
    (law : Progress σ → Progress σ → Prop) : Prop where
  refl : ∀ progress, law progress progress
  trans : ∀ {first middle last}, law first middle → law middle last → law first last
  errands : ∀ {inside errand before outcome after},
    Runs resolver clock inside errand before outcome after →
      errand.IsDue inside before.resolution → law before after
  defines : ∀ {id definition}, resolver.definitions.get? id = some definition →
    ∀ progress : Progress σ, progress.resolution.isRecorded (.definition id) = false →
      law progress (runDefinition id definition progress).2
  fetches : ∀ {id connector}, resolver.connectors.get? id = some connector →
    ∀ progress, law progress (fetchConnector clock id connector progress).2
  records : ∀ (progress : Progress σ) record,
    progress.resolution.isRecorded (.connector record.connectorId) = false →
      law progress (progress.recordConnector record)
  sets : ∀ (progress : Progress σ) (preResolved released : AttributeMap),
    law progress { progress with
      resolution := { progress.resolution with preResolved, released } }

variable {law : Progress σ → Progress σ → Prop}

/-- A definition is run once its dependencies were visited. -/
theorem RestLaw.definition (rest : RestLaw resolver clock law) {inside : List PluginRef}
    {id : String} {definition : Definition σ} {before middle : Progress σ}
    {outcome : Except Halt Unit}
    (dependencies : Runs resolver clock (.definition id :: inside)
      (.visitAll definition.settings.dependencies.refs) before outcome middle)
    (found : resolver.definitions.get? id = some definition)
    (fresh : before.resolution.isRecorded (.definition id) = false)
    (outside : .definition id ∉ inside) :
    ∃ outcome after, Runs resolver clock inside (.visit (.definition id)) before outcome after ∧
      law middle after := by
  cases outcome with
  | error halt =>
      exact ⟨_, _, .definitionHalted found fresh outside dependencies, rest.refl _⟩
  | ok done =>
      refine ⟨_, _, .definition found fresh outside dependencies, ?_⟩
      exact rest.defines found middle (dependencies.unrecorded_self fresh)

/-- After a connector was run its answer is recorded, or it is replaced. -/
theorem RestLaw.fetched (rest : RestLaw resolver clock law) {inside : List PluginRef}
    {id : String} {connector : Connector σ} {before read middle : Progress σ} {now : Instant}
    (dependencies : Runs resolver clock (.connector id :: inside)
      (.visitAll connector.settings.dependencies.refs) read (.ok ()) middle)
    (found : resolver.connectors.get? id = some connector)
    (fresh : before.resolution.isRecorded (.connector id) = false)
    (outside : .connector id ∉ inside) (clockRead : before.readClock clock = (now, read))
    (noWindow : read.failures.inNoRetryWindow id connector.settings.noRetryDelay now = false) :
    ∃ outcome after, Runs resolver clock inside (.visit (.connector id)) before outcome after ∧
      law (fetchConnector clock id connector middle).2 after := by
  have freshRead : read.resolution.isRecorded (.connector id) = false := by
    obtain ⟨-, rfl⟩ := readClock_eq clockRead
    exact fresh
  have still := dependencies.unrecorded_self freshRead
  rcases answered : fetchConnector clock id connector middle with ⟨error | attributes, ran⟩
  · rw [← (fetched_of_fetchConnector answered).resolution] at still
    obtain ⟨outcome, after, replaced⟩ := Errand.exists_runs resolver clock
      (.connector id :: inside) (.replace id connector.settings error) ran
    refine ⟨outcome, after, .fetchFailed found fresh outside clockRead noWindow dependencies
      answered replaced, ?_⟩
    exact rest.errands replaced (isDue_replace still)
  · rw [← (fetched_of_fetchConnector answered).resolution] at still
    refine ⟨_, _, .fetched found fresh outside clockRead noWindow dependencies answered, ?_⟩
    exact rest.records ran _ still

/-- A connector is run once its dependencies were visited. -/
theorem RestLaw.connector (rest : RestLaw resolver clock law) {inside : List PluginRef}
    {id : String} {connector : Connector σ} {before read middle : Progress σ} {now : Instant}
    {outcome : Except Halt Unit}
    (dependencies : Runs resolver clock (.connector id :: inside)
      (.visitAll connector.settings.dependencies.refs) read outcome middle)
    (found : resolver.connectors.get? id = some connector)
    (fresh : before.resolution.isRecorded (.connector id) = false)
    (outside : .connector id ∉ inside) (clockRead : before.readClock clock = (now, read))
    (noWindow : read.failures.inNoRetryWindow id connector.settings.noRetryDelay now = false) :
    ∃ outcome after, Runs resolver clock inside (.visit (.connector id)) before outcome after ∧
      law middle after := by
  cases outcome with
  | error halt =>
      refine ⟨_, _, .connectorHalted found fresh outside clockRead noWindow dependencies, ?_⟩
      exact rest.refl _
  | ok done =>
      obtain ⟨outcome, after, whole, kept⟩ :=
        rest.fetched dependencies found fresh outside clockRead noWindow
      exact ⟨outcome, after, whole, rest.trans (rest.fetches found middle) kept⟩

/-- While a connector turns out to be unusable, neither it nor what it is visited inside of gets a
record. -/
theorem Unusable.unrecorded {inside : List PluginRef} {id : String} {connector : Connector σ}
    {before after : Progress σ} {reason : ResolutionError}
    (unusable : Unusable resolver clock inside id connector before reason after)
    {ref : PluginRef} (within : ref ∈ .connector id :: inside)
    (fresh : before.resolution.isRecorded ref = false) :
    after.resolution.isRecorded ref = false := by
  cases unusable with
  | passedOver clockRead window =>
      obtain ⟨-, rfl⟩ := readClock_eq clockRead
      exact fresh
  | failed clockRead noWindow dependencies fails =>
      obtain ⟨-, rfl⟩ := readClock_eq clockRead
      rw [fetchConnector_resolution]
      exact (dependencies.grows nofun).untouched ref within List.not_mem_nil fresh

/-- What its failover comes to is recorded for an unusable connector. -/
theorem RestLaw.failover (rest : RestLaw resolver clock law) {inside : List PluginRef}
    {id next : String} {connector : Connector σ} {before middle done : Progress σ}
    {reason : ResolutionError} {outcome : Except Halt Unit}
    (resolved : Runs resolver clock (.connector id :: inside) (.visit (.connector next)) middle
      outcome done)
    (unusable : Unusable resolver clock inside id connector before reason middle)
    (found : resolver.connectors.get? id = some connector)
    (fresh : before.resolution.isRecorded (.connector id) = false)
    (outside : .connector id ∉ inside) (named : connector.settings.failover = some next) :
    ∃ outcome after, Runs resolver clock inside (.visit (.connector id)) before outcome after ∧
      law done after := by
  cases outcome with
  | error halt =>
      exact ⟨_, _, unusable.runs found fresh outside (.failoverHalted named resolved), rest.refl _⟩
  | ok _ =>
      refine ⟨_, _, unusable.runs found fresh outside (.failedOver named resolved), ?_⟩
      have still := (resolved.grows nofun).untouched _ List.mem_cons_self List.not_mem_nil
        (unusable.unrecorded List.mem_cons_self fresh)
      apply rest.records
      rw [substituteRecord_connectorId]
      exact still

/-- After one of several plugins the others are visited. -/
theorem RestLaw.among (rest : RestLaw resolver clock law)
    {inside refs earlier later : List PluginRef} {ref : PluginRef} {first before done : Progress σ}
    {outcome : Except Halt Unit}
    (visited : Runs resolver clock inside (.visitAll earlier) first (.ok ()) before)
    (listed : refs = earlier ++ ref :: later)
    (runs : Runs resolver clock inside (.visit ref) before outcome done) :
    ∃ outcome after, Runs resolver clock inside (.visitAll refs) first outcome after ∧
      law done after := by
  cases outcome with
  | error halt => exact ⟨_, _, visited.append_halted listed runs, rest.refl _⟩
  | ok _ =>
      obtain ⟨outcome, after, others⟩ :=
        Errand.exists_runs resolver clock inside (.visitAll later) done
      refine ⟨outcome, after, ?_, rest.errands others nofun⟩
      rw [listed]
      exact visited.append (.next runs others)

/-- What follows a step keeps to the law, if it comes to that. -/
theorem RestLaw.after (rest : RestLaw resolver clock law) (first : Step σ) {second : Step σ}
    (obeys : second.Obeys fun before _ after => law before after) (progress : Progress σ) :
    law (first progress).2 (Step.andThen first second progress).2 := by
  rw [Step.andThen_eq]
  cases (first progress).1 with
  | error halt => exact rest.refl _
  | ok done => exact obeys _

/-- What a request does after one of its parts keeps to the law. -/
theorem RestLaw.stage (rest : RestLaw resolver clock law) {refs : List PluginRef}
    {first : Progress σ} (stage : Stage resolver clock start refs first) :
    law (visitAll resolver clock refs first).2 (resolve resolver clock start).2 := by
  have visits : ∀ refs, (visitAll resolver clock refs).Obeys fun before _ after =>
      law before after := fun refs progress => rest.errands (runs_visitAll refs progress) nofun
  have sets : (setReleased resolver).Obeys fun before _ after => law before after :=
    fun progress => rest.sets progress progress.resolution.preResolved _
  let asked : Step σ := fun progress => visitAll resolver clock
    ((requestedIds resolver progress.resolution).map .definition) progress
  have released : (Step.andThen asked (setReleased resolver)).Obeys fun before _ after =>
      law before after :=
    Step.Obeys.andThen rest.trans (fun progress => visits _ progress) sets
  cases stage with
  | preRequested =>
      have kept : law (visitAll resolver clock ((preRequestedIds resolver).map .definition) start).2
          (preResolve resolver clock start).2 := by
        unfold preResolve
        split
        · rename_i nobody
          rw [nobody]
          exact rest.refl _
        · apply rest.after
          exact fun progress => rest.sets progress _ progress.resolution.released
      have exported := Step.Obeys.andThen rest.trans
        (visits ((exportingIds resolver).map .connector)) released
      exact rest.trans kept (rest.after _ exported start)
  | exporting kept =>
      unfold resolve
      rw [Step.andThen_eq, kept]
      exact rest.after _ released first
  | requested kept exported =>
      unfold resolve
      rw [Step.andThen_eq, kept]
      simp only
      rw [Step.andThen_eq, exported]
      exact rest.after asked sets first

/-- What a request does after a visit keeps to the law. -/
theorem RestLaw.follows (rest : RestLaw resolver clock law) {inside : List PluginRef}
    {ref : PluginRef} {before done : Progress σ} {outcome : Except Halt Unit}
    (visits : Visits resolver clock start inside ref before)
    (runs : Runs resolver clock inside (.visit ref) before outcome done) :
    law done (resolve resolver clock start).2 := by
  induction visits generalizing outcome done with
  | ofStage stage listed visited =>
      obtain ⟨outcome, after, all, kept⟩ := rest.among visited listed runs
      have performed := all.perform_eq (reaches_root _) (Nat.le_add_left _ _)
      have final := rest.stage stage
      rw [show visitAll resolver clock _ _ = _ from performed] at final
      exact rest.trans kept final
  | ofDefinition visits found fresh listed visited ih =>
      obtain ⟨outcome, middle, all, kept⟩ := rest.among visited listed runs
      have outside := visits.reaches.outside (hasPlugin_definition found)
      obtain ⟨outcome, after, whole, keptOn⟩ := rest.definition all found fresh outside
      exact rest.trans (rest.trans kept keptOn) (ih whole)
  | ofConnector visits found fresh clockRead noWindow listed visited ih =>
      obtain ⟨outcome, middle, all, kept⟩ := rest.among visited listed runs
      have outside := visits.reaches.outside (hasPlugin_connector found)
      obtain ⟨outcome, after, whole, keptOn⟩ :=
        rest.connector all found fresh outside clockRead noWindow
      exact rest.trans (rest.trans kept keptOn) (ih whole)
  | failover visits found fresh unusable named ih =>
      have outside := visits.reaches.outside (hasPlugin_connector found)
      obtain ⟨outcome, after, whole, kept⟩ :=
        rest.failover runs unusable found fresh outside named
      exact rest.trans kept (ih whole)

/-! ### Records stay -/

/-- Whatever a request still does, the records that it has stay. -/
theorem extends_restLaw (resolver : Resolver σ) (clock : σ → Instant × σ) :
    RestLaw resolver clock fun before after => before.resolution.Extends after.resolution where
  refl := fun _ => .refl _
  trans := fun first second => first.trans second
  errands := fun runs due => (runs.grows due).extended
  defines := fun {id definition} _ progress fresh => by
    rw [runDefinition_resolution]
    exact Resolution.extends_recordDefinition fresh
  fetches := fun _ progress => by
    rw [fetchConnector_resolution]
    exact .refl _
  records := fun _ _ fresh => Resolution.extends_recordConnector fresh
  sets := fun _ _ _ => ⟨rfl, rfl, fun _ _ found => found, fun _ _ found => found⟩

/-- What is recorded after a part of a request is there when the request is over. -/
theorem Stage.retained {refs : List PluginRef} {first : Progress σ}
    (stage : Stage resolver clock start refs first) :
    (visitAll resolver clock refs first).2.resolution.Extends
      (resolve resolver clock start).2.resolution :=
  (extends_restLaw resolver clock).stage stage

/-- What is recorded when a visit is over is there when the request is. -/
theorem Visits.retained {inside : List PluginRef} {ref : PluginRef} {before done : Progress σ}
    {outcome : Except Halt Unit} (visits : Visits resolver clock start inside ref before)
    (runs : Runs resolver clock inside (.visit ref) before outcome done) :
    done.resolution.Extends (resolve resolver clock start).2.resolution :=
  (extends_restLaw resolver clock).follows visits runs

/-! ## What every part of a request keeps to -/

/-- A relation that the parts of a request keep to. -/
structure WalkLaw (resolver : Resolver σ) (clock : σ → Instant × σ)
    (law : Progress σ → Progress σ → Prop) : Prop where
  refl : ∀ progress, law progress progress
  trans : ∀ {first middle last}, law first middle → law middle last → law first last
  visits : ∀ {inside refs before outcome after},
    Runs resolver clock inside (.visitAll refs) before outcome after → law before after
  reads : ∀ progress, law progress (progress.readClock clock).2
  passes : ∀ progress id, law progress (progress.note (.passedOver id))
  fetches : ∀ {id connector}, resolver.connectors.get? id = some connector →
    ∀ progress, law progress (fetchConnector clock id connector progress).2
  keeps : ∀ progress : Progress σ, law progress { progress with
    resolution := { progress.resolution with
      preResolved := definedAttributes resolver true progress.resolution } }

/-- What each step keeps to is kept to by the parts of a request, if keeping attributes for other
plugins does. -/
theorem StepLaw.walkLaw (steps : StepLaw resolver clock law)
    (keeps : ∀ progress : Progress σ, law progress { progress with
      resolution := { progress.resolution with
        preResolved := definedAttributes resolver true progress.resolution } }) :
    WalkLaw resolver clock law where
  refl := steps.refl
  trans := steps.trans
  visits := steps.runs
  reads := steps.reads
  passes := steps.passes
  fetches := steps.fetches
  keeps := keeps

/-- After a visit too a request keeps to what its steps keep to. -/
theorem StepLaw.restLaw (steps : StepLaw resolver clock law)
    (sets : ∀ (progress : Progress σ) (preResolved released : AttributeMap),
      law progress { progress with
        resolution := { progress.resolution with preResolved, released } }) :
    RestLaw resolver clock law where
  refl := steps.refl
  trans := steps.trans
  errands := fun runs _ => steps.runs runs
  defines := fun found progress _ => steps.defines found progress
  fetches := steps.fetches
  records := fun progress record _ => steps.records progress record
  sets := sets

/-- A whole call keeps to what its steps keep to. -/
theorem StepLaw.resolves (steps : StepLaw resolver clock law)
    (sets : ∀ (progress : Progress σ) (preResolved released : AttributeMap),
      law progress { progress with
        resolution := { progress.resolution with preResolved, released } }) :
    (resolve resolver clock).Obeys fun before _ after => law before after :=
  resolve_obeys steps.trans (fun refs progress => steps.runs (runs_visitAll refs progress)) sets

theorem WalkLaw.visitAll (parts : WalkLaw resolver clock law) (refs : List PluginRef) :
    (visitAll resolver clock refs).Obeys fun before _ after => law before after :=
  fun progress => parts.visits (runs_visitAll refs progress)

/-- What a request does before one of its parts keeps to the law. -/
theorem WalkLaw.stage (parts : WalkLaw resolver clock law) {refs : List PluginRef}
    {first : Progress σ} (stage : Stage resolver clock start refs first) : law start first := by
  have preResolved : law start (preResolve resolver clock start).2 :=
    preResolve_obeys_keeping parts.trans parts.visitAll parts.keeps start
  cases stage with
  | preRequested => exact parts.refl start
  | exporting kept =>
      rw [kept] at preResolved
      exact preResolved
  | @requested middle _ kept exported =>
      rw [kept] at preResolved
      have visited := parts.visitAll ((exportingIds resolver).map .connector) middle
      rw [exported] at visited
      exact parts.trans preResolved visited

theorem WalkLaw.read (parts : WalkLaw resolver clock law) {before read : Progress σ}
    {now : Instant} (clockRead : before.readClock clock = (now, read)) : law before read := by
  have reads := parts.reads before
  rw [clockRead] at reads
  exact reads

/-- Finding a connector unusable keeps to the law, inside its window or by running it. -/
theorem WalkLaw.unusable (parts : WalkLaw resolver clock law) {inside : List PluginRef}
    {id : String} {connector : Connector σ} {before after : Progress σ} {reason : ResolutionError}
    (unusable : Unusable resolver clock inside id connector before reason after)
    (found : resolver.connectors.get? id = some connector) : law before after := by
  cases unusable with
  | passedOver clockRead window => exact parts.trans (parts.read clockRead) (parts.passes _ _)
  | failed clockRead noWindow dependencies fails =>
      have ready := parts.trans (parts.read clockRead) (parts.visits dependencies)
      exact parts.trans ready (parts.fetches found _)

/-- What a request does before it visits a plugin keeps to the law. -/
theorem WalkLaw.visited (parts : WalkLaw resolver clock law) {inside : List PluginRef}
    {ref : PluginRef} {before : Progress σ}
    (visits : Visits resolver clock start inside ref before) : law start before := by
  induction visits with
  | ofStage stage listed done => exact parts.trans (parts.stage stage) (parts.visits done)
  | ofDefinition visits found fresh listed done ih => exact parts.trans ih (parts.visits done)
  | ofConnector visits found fresh clockRead noWindow listed done ih =>
      exact parts.trans ih (parts.trans (parts.read clockRead) (parts.visits done))
  | failover visits found fresh unusable named ih =>
      exact parts.trans ih (parts.unusable unusable found)

/-- So does a request that fails: it does not come to releasing anything. -/
theorem WalkLaw.halted (parts : WalkLaw resolver clock law) {after : Progress σ} {halt : Halt}
    (halted : resolve resolver clock start = (.error halt, after)) : law start after := by
  obtain ⟨refs, first, stage, halted⟩ := resolve_halted_iff.mp halted
  have visited := parts.visitAll refs first
  rw [halted] at visited
  exact parts.trans (parts.stage stage) visited

end AttributeRelease.Resolver
