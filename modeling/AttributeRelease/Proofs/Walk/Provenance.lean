import AttributeRelease.Proofs.Walk.Journal
import AttributeRelease.Proofs.Walk.Visits

/-!
# Where records come from

A record stands under the id of its plugin, the record of a connector holds no empty map, and one
that was taken from another connector is that of the failover (`Resolution.Traceable`). So failover
references lead from each connector to the one that its attributes come from
(`Resolution.Traceable.source`). All states that a request goes through are such, and whatever is
done with it, records stay as they were written (`records_retained_and_traceable`).
-/

namespace AttributeRelease.Resolver

variable {σ : Type} {resolver : Resolver σ} {clock : σ → Instant × σ}

namespace Resolution

/-- Records stand under the ids of their plugins and hold no empty maps, and the result of a
connector is its own or that of its failover. -/
structure Traceable (resolver : Resolver σ) (resolution : Resolution) : Prop where
  definitions_keyed : ∀ id record,
    resolution.definitions.get? id = some record → record.definitionId = id
  connectors_keyed : ∀ id record,
    resolution.connectors.get? id = some record → record.connectorId = id
  nonempty : ∀ id record attributes, resolution.connectors.get? id = some record →
    record.attributes = some attributes → attributes.isEmpty = false
  derived : ∀ id record, resolution.connectors.get? id = some record →
    record.resolvedBy = id ∨
      ∃ next other, resolver.graph.FailsOver id next ∧
        resolution.connectors.get? next = some other ∧
        other.resolvedBy = record.resolvedBy ∧ other.attributes = record.attributes

/-- The records of one state are there unchanged in another. -/
structure Retains (before after : Resolution) : Prop where
  definitions : ∀ id record,
    before.definitions.get? id = some record → after.definitions.get? id = some record
  connectors : ∀ id record,
    before.connectors.get? id = some record → after.connectors.get? id = some record

theorem Retains.refl (resolution : Resolution) : resolution.Retains resolution :=
  ⟨fun _ _ found => found, fun _ _ found => found⟩

theorem Retains.trans {before middle after : Resolution} (first : before.Retains middle)
    (second : middle.Retains after) : before.Retains after where
  definitions id record found := second.definitions id record (first.definitions id record found)
  connectors id record found := second.connectors id record (first.connectors id record found)

/-- States that have each other's records have the same. -/
theorem Retains.antisymm {first second : Resolution} (left : first.Retains second)
    (right : second.Retains first) : first.SameRecords second where
  definitions := KeyMap.ext_get? fun id =>
    Option.ext fun record => ⟨left.definitions id record, right.definitions id record⟩
  connectors := KeyMap.ext_get? fun id =>
    Option.ext fun record => ⟨left.connectors id record, right.connectors id record⟩

theorem Retains.isRecorded {before after : Resolution} (retained : before.Retains after)
    {ref : PluginRef} (recorded : before.isRecorded ref = true) : after.isRecorded ref = true :=
  isRecorded_mono retained.definitions retained.connectors recorded

theorem Extends.retains {before after : Resolution} (extended : before.Extends after) :
    before.Retains after :=
  ⟨extended.definitions, extended.connectors⟩

variable {resolution : Resolution}

/-- Results of definitions do not matter for where those of connectors come from. -/
theorem Traceable.recordDefinition (traceable : resolution.Traceable resolver)
    (record : DefinitionRecord) : (resolution.recordDefinition record).Traceable resolver where
  definitions_keyed := KeyMap.holds_of_get?_insert rfl traceable.definitions_keyed
  connectors_keyed := traceable.connectors_keyed
  nonempty := traceable.nonempty
  derived := traceable.derived

/-- A connector's own result may be recorded, and that of its failover. -/
theorem Traceable.recordConnector (traceable : resolution.Traceable resolver)
    {record : ConnectorRecord}
    (fresh : resolution.isRecorded (.connector record.connectorId) = false)
    (nonempty : ∀ attributes, record.attributes = some attributes → attributes.isEmpty = false)
    (derived : record.resolvedBy = record.connectorId ∨
      ∃ next other, resolver.graph.FailsOver record.connectorId next ∧
        resolution.connectors.get? next = some other ∧
        other.resolvedBy = record.resolvedBy ∧ other.attributes = record.attributes) :
    (resolution.recordConnector record).Traceable resolver where
  definitions_keyed := traceable.definitions_keyed
  connectors_keyed := KeyMap.holds_of_get?_insert rfl traceable.connectors_keyed
  nonempty := by
    have each : ∀ id item, (resolution.recordConnector record).connectors.get? id = some item →
        ∀ attributes, item.attributes = some attributes → attributes.isEmpty = false :=
      KeyMap.holds_of_get?_insert nonempty fun id item found attributes =>
        traceable.nonempty id item attributes found
    intro id item attributes found
    exact each id item found attributes
  derived := by
    have extended := extends_recordConnector fresh
    refine KeyMap.holds_of_get?_insert ?_ fun id item found => ?_
    · rcases derived with own | ⟨next, other, failsOver, found, same⟩
      · exact .inl own
      · exact .inr ⟨next, other, failsOver, extended.connectors next other found, same⟩
    · rcases traceable.derived id item found with own | ⟨next, other, failsOver, foundNext, same⟩
      · exact .inl own
      · exact .inr ⟨next, other, failsOver, extended.connectors next other foundNext, same⟩

/-- Failover references lead from a connector to the one that its attributes come from, which has
them recorded as its own. -/
theorem Traceable.source (traceable : resolution.Traceable resolver) (id : String)
    (record : ConnectorRecord) (found : resolution.connectors.get? id = some record) :
    Relation.ReflTransGen resolver.graph.FailsOver id record.resolvedBy ∧
      resolution.connectors.get? record.resolvedBy =
        some ⟨record.resolvedBy, record.resolvedBy, record.attributes⟩ := by
  -- failover references are among those of the graph, which lead in no circle
  have wellFounded := InvImage.wf PluginRef.connector resolver.wellFounded
  induction id using wellFounded.induction generalizing record with
  | _ id ih =>
      have named := traceable.connectors_keyed id record found
      rcases traceable.derived id record found with own | ⟨next, other, failsOver, foundNext, same⟩
      · obtain ⟨connectorId, resolvedBy, attributes⟩ := record
        cases named
        cases own
        exact ⟨.refl, found⟩
      · obtain ⟨leads, source⟩ := ih next (.failover failsOver) other foundNext
        rw [same.1] at leads source
        rw [same.2] at source
        exact ⟨.head failsOver leads, source⟩

end Resolution

/-! ## One walk -/

/-- Between two states of a request others are shown to plugins: records stay from each to the next,
and all are traceable. -/
structure Unfolds (resolver : Resolver σ) (before after : Resolution) (shown : List Resolution) :
    Prop where
  retained : before.Retains after
  started : ∀ state ∈ shown, before.Retains state
  ended : ∀ state ∈ shown, state.Retains after
  ordered : shown.Pairwise Resolution.Retains
  traceable : ∀ state ∈ shown, state.Traceable resolver
  finished : after.Traceable resolver

variable {before middle after : Resolution} {shown others : List Resolution}

/-- A part of a request that runs nothing unfolds its state when it loses no record. -/
theorem Unfolds.silent (retained : before.Retains after) (finished : after.Traceable resolver) :
    Unfolds resolver before after [] where
  retained := retained
  started := nofun
  ended := nofun
  ordered := .nil
  traceable := nofun
  finished := finished

/-- A plugin is shown the state that it is run in, before its result is recorded. -/
theorem Unfolds.shows (traceable : before.Traceable resolver)
    (recorded : Unfolds resolver before after []) : Unfolds resolver before after [before] where
  retained := recorded.retained
  started := List.forall_mem_singleton.mpr (.refl before)
  ended := List.forall_mem_singleton.mpr recorded.retained
  ordered := List.pairwise_singleton _ _
  traceable := List.forall_mem_singleton.mpr traceable
  finished := recorded.finished

/-- A definition without a record may be recorded. -/
theorem Unfolds.recordDefinition (traceable : before.Traceable resolver)
    (record : DefinitionRecord)
    (fresh : before.isRecorded (.definition record.definitionId) = false) :
    Unfolds resolver before (before.recordDefinition record) [] :=
  .silent (Resolution.extends_recordDefinition fresh).retains (traceable.recordDefinition record)

/-- A connector without a record may be recorded, with its own answer or its failover's. -/
theorem Unfolds.recordConnector (traceable : before.Traceable resolver)
    (record : ConnectorRecord)
    (fresh : before.isRecorded (.connector record.connectorId) = false)
    (nonempty : ∀ attributes, record.attributes = some attributes → attributes.isEmpty = false)
    (derived : record.resolvedBy = record.connectorId ∨
      ∃ next other, resolver.graph.FailsOver record.connectorId next ∧
        before.connectors.get? next = some other ∧
        other.resolvedBy = record.resolvedBy ∧ other.attributes = record.attributes) :
    Unfolds resolver before (before.recordConnector record) [] :=
  .silent (Resolution.extends_recordConnector fresh).retains
    (traceable.recordConnector fresh nonempty derived)

/-- The result of a failover may be recorded for the connector that it replaces. -/
theorem Unfolds.recordSubstitute (traceable : before.Traceable resolver) {id next : String}
    (failsOver : resolver.graph.FailsOver id next)
    (fresh : before.isRecorded (.connector id) = false) :
    Unfolds resolver before (before.recordConnector (substituteRecord before id next)) [] := by
  unfold substituteRecord
  split
  · rename_i resolved found
    refine .recordConnector traceable _ fresh (fun attributes same => ?_) (.inr ?_)
    · exact traceable.nonempty next resolved attributes found same
    · exact ⟨next, resolved, failsOver, found, rfl, rfl⟩
  · exact .recordConnector traceable _ fresh nofun (.inl rfl)

/-- Parts of a request that unfold its state one after the other do so together. -/
theorem Unfolds.trans (first : Unfolds resolver before middle shown)
    (second : Unfolds resolver middle after others) :
    Unfolds resolver before after (shown ++ others) where
  retained := first.retained.trans second.retained
  started := by
    refine List.forall_mem_append.mpr ⟨first.started, fun state member => ?_⟩
    exact first.retained.trans (second.started state member)
  ended := by
    refine List.forall_mem_append.mpr ⟨fun state member => ?_, second.ended⟩
    exact (first.ended state member).trans second.retained
  ordered := by
    refine List.pairwise_append.mpr ⟨first.ordered, second.ordered, ?_⟩
    intro state member other memberLater
    exact (first.ended state member).trans (second.started other memberLater)
  traceable := List.forall_mem_append.mpr ⟨first.traceable, second.traceable⟩
  finished := second.finished

/-- To replace a connector is to go by its own settings. -/
def Errand.IsProper (resolver : Resolver σ) : Errand → Prop
  | .visit _ => True
  | .visitAll _ => True
  | .replace id settings _ =>
    ∃ connector, resolver.connectors.get? id = some connector ∧ connector.settings = settings

/-- An empty map never counts as a result. -/
theorem nonempty_of_connectorOutcome {settings : ConnectorSettings} {id : String}
    {answer : Except ResolutionError (Option AttributeMap)} {attributes : AttributeMap}
    (outcome : connectorOutcome settings id answer = .ok (some attributes)) :
    attributes.isEmpty = false := by
  cases answer with
  | error error => cases outcome
  | ok found =>
      simp only [connectorOutcome, bind, Except.bind] at outcome
      split at outcome
      · cases outcome
      · have kept := Option.filter_eq_some_iff.mp (Except.ok.inj outcome)
        simpa using kept.2

/-- On a walk from a traceable state all states are traceable, and records stay. -/
theorem Runs.unfolds {inside : List PluginRef} {errand : Errand} {start finish : Progress σ}
    {outcome : Except Halt Unit} (runs : Runs resolver clock inside errand start outcome finish)
    (due : errand.IsDue inside start.resolution) (proper : errand.IsProper resolver)
    (traceable : start.resolution.Traceable resolver) :
    ∃ ran, invocations finish.journal = invocations start.journal ++ ran ∧
      Unfolds resolver start.resolution finish.resolution (ran.map Prod.snd) := by
  -- A record is only written for a plugin that has none: no plugin inside of it has written it.
  induction runs with
  | idle | stuck | propagated | done =>
      exact ⟨[], (List.append_nil _).symm, .silent (.refl _) traceable⟩
  | @definition _ id _ _ middle found fresh outside dependencies ih =>
      obtain ⟨ran, journal, unfolds⟩ := ih (List.forall_mem_nil _) trivial traceable
      have still := dependencies.unrecorded_self fresh
      refine ⟨ran ++ [(.definition id, middle.resolution)], ?_, ?_⟩
      · rw [runDefinition_invocations, journal, List.append_assoc]
      · rw [runDefinition_resolution, List.map_append]
        refine unfolds.trans (.shows unfolds.finished ?_)
        exact .recordDefinition unfolds.finished _ still
  | definitionHalted _ _ _ _ ih => exact ih (List.forall_mem_nil _) trivial traceable
  | passedOver found fresh _ clockRead _ _ ih =>
      obtain ⟨-, rfl⟩ := readClock_eq clockRead
      obtain ⟨ran, journal, unfolds⟩ := ih (isDue_replace fresh) ⟨_, found, rfl⟩ traceable
      rw [invocations_passedOver] at journal
      exact ⟨ran, journal, unfolds⟩
  | connectorHalted _ _ _ clockRead _ _ ih =>
      obtain ⟨-, rfl⟩ := readClock_eq clockRead
      exact ih (List.forall_mem_nil _) trivial traceable
  | @fetched _ id _ _ _ middle _ _ _ found fresh outside clockRead _ dependencies answered ih =>
      obtain ⟨-, rfl⟩ := readClock_eq clockRead
      obtain ⟨ran, journal, unfolds⟩ := ih (List.forall_mem_nil _) trivial traceable
      have fetched := fetched_of_fetchConnector answered
      have still := dependencies.unrecorded_self fresh
      refine ⟨ran ++ [(.connector id, middle.resolution)], ?_, ?_⟩
      · exact fetched.invocations.trans (by rw [journal, List.append_assoc])
      · rw [Progress.recordConnector, fetched.resolution, List.map_append]
        refine unfolds.trans (.shows unfolds.finished ?_)
        refine .recordConnector unfolds.finished _ still (fun attributes same => ?_) (.inl rfl)
        exact nonempty_of_connectorOutcome (fetched.answered.symm.trans (congrArg Except.ok same))
  | @fetchFailed _ id _ _ _ middle _ _ _ _ _ found fresh outside clockRead _ dependencies failed
      replaced ihDependencies ihReplaced =>
      obtain ⟨-, rfl⟩ := readClock_eq clockRead
      obtain ⟨ran, journal, unfolds⟩ := ihDependencies (List.forall_mem_nil _) trivial traceable
      have fetched := fetched_of_fetchConnector failed
      have still := dependencies.unrecorded_self fresh
      have finished := unfolds.finished
      rw [← fetched.resolution] at still finished
      obtain ⟨others, journalReplaced, unfoldsReplaced⟩ :=
        ihReplaced (isDue_replace still) ⟨_, found, rfl⟩ finished
      rw [fetched.resolution] at unfoldsReplaced
      refine ⟨ran ++ [(.connector id, middle.resolution)] ++ others, ?_, ?_⟩
      · rw [journalReplaced, fetched.invocations, journal]
        simp only [List.append_assoc]
      · rw [List.map_append, List.map_append]
        have shows := Unfolds.shows unfolds.finished (.silent (.refl _) unfolds.finished)
        exact (unfolds.trans shows).trans unfoldsReplaced
  | @failedOver _ id next _ _ _ after named resolved ih =>
      obtain ⟨within, fresh⟩ := due _ (List.mem_singleton_self _)
      obtain ⟨connector, found, rfl⟩ := proper
      obtain ⟨ran, journal, unfolds⟩ := ih (List.forall_mem_nil _) trivial traceable
      have grows := resolved.grows (List.forall_mem_nil _)
      have still := grows.untouched _ within List.not_mem_nil fresh
      have failsOver := (failsOver_iff found).mpr named
      have whole := unfolds.trans (.recordSubstitute unfolds.finished failsOver still)
      rw [List.append_nil] at whole
      exact ⟨ran, journal, whole⟩
  | failoverHalted _ _ ih => exact ih (List.forall_mem_nil _) trivial traceable
  | absorbed =>
      obtain ⟨-, fresh⟩ := due _ (List.mem_singleton_self _)
      refine ⟨[], (List.append_nil _).symm, ?_⟩
      refine .recordConnector traceable _ fresh ?_ (.inl rfl)
      intro attributes nothing
      cases nothing
  | next first others ihFirst ihOthers =>
      obtain ⟨ran, journal, unfolds⟩ := ihFirst (List.forall_mem_nil _) trivial traceable
      obtain ⟨later, journalLater, unfoldsLater⟩ :=
        ihOthers (List.forall_mem_nil _) trivial unfolds.finished
      refine ⟨ran ++ later, by rw [journalLater, journal, List.append_assoc], ?_⟩
      rw [List.map_append]
      exact unfolds.trans unfoldsLater
  | halted _ ih => exact ih (List.forall_mem_nil _) trivial traceable

/-! ## The states in between -/

/-- From a traceable state on, records stay, and the state is traceable again. -/
def Progress.Preserves (resolver : Resolver σ) (before after : Progress σ) : Prop :=
  before.resolution.Traceable resolver →
    before.resolution.Retains after.resolution ∧ after.resolution.Traceable resolver

variable {start first last : Progress σ}

theorem Progress.Preserves.trans (left : start.Preserves resolver first)
    (right : first.Preserves resolver last) : start.Preserves resolver last := by
  intro traceable
  obtain ⟨retained, traceable⟩ := left traceable
  obtain ⟨later, traceable⟩ := right traceable
  exact ⟨retained.trans later, traceable⟩

/-- An errand preserves that results can be traced. -/
theorem Runs.preserves {inside : List PluginRef} {errand : Errand}
    {outcome : Except Halt Unit} (runs : Runs resolver clock inside errand start outcome first)
    (due : errand.IsDue inside start.resolution) (proper : errand.IsProper resolver) :
    start.Preserves resolver first := by
  intro traceable
  obtain ⟨ran, -, unfolds⟩ := runs.unfolds due proper traceable
  exact ⟨unfolds.retained, unfolds.finished⟩

/-- What leaves the records as they are preserves that results can be traced. -/
theorem Progress.Preserves.of_same (definitions : first.resolution.definitions =
      start.resolution.definitions)
    (connectors : first.resolution.connectors = start.resolution.connectors) :
    start.Preserves resolver first := by
  intro traceable
  refine ⟨⟨fun _ _ found => definitions ▸ found, fun _ _ found => connectors ▸ found⟩, ?_⟩
  exact {
    definitions_keyed := definitions ▸ traceable.definitions_keyed
    connectors_keyed := connectors ▸ traceable.connectors_keyed
    nonempty := connectors ▸ traceable.nonempty
    derived := connectors ▸ traceable.derived }

/-- All parts of a request preserve that results can be traced. -/
theorem preserves_walkLaw (resolver : Resolver σ) (clock : σ → Instant × σ) :
    WalkLaw resolver clock fun before after => before.Preserves resolver after where
  refl := fun _ => .of_same rfl rfl
  trans := fun left right => left.trans right
  visits := fun runs => runs.preserves nofun trivial
  reads := fun _ => .of_same rfl rfl
  passes := fun _ _ => .of_same rfl rfl
  fetches := fun {id connector} _ progress => by
    have same := fetchConnector_resolution clock id connector progress
    exact .of_same (congrArg _ same) (congrArg _ same)
  keeps := fun _ => .of_same rfl rfl

/-- A request goes through a state: a visit of it begins or ends there. It is at the end of visits
that records are written. -/
def Passes (resolver : Resolver σ) (clock : σ → Instant × σ) (start : Progress σ)
    (state : Resolution) : Prop :=
  ∃ inside ref before outcome done, Visits resolver clock start inside ref before ∧
    Runs resolver clock inside (.visit ref) before outcome done ∧
      (state = before.resolution ∨ state = done.resolution)

/-- Records stay from the start of a request to each state that it goes through, and from there to
its end. -/
theorem Passes.preserves {state : Resolution} (passes : Passes resolver clock start state)
    (traceable : start.resolution.Traceable resolver) :
    start.resolution.Retains state ∧ state.Traceable resolver ∧
      state.Retains (resolve resolver clock start).2.resolution := by
  obtain ⟨inside, ref, before, outcome, done, visits, runs, reached⟩ := passes
  obtain ⟨retained, traceableBefore⟩ :=
    (preserves_walkLaw resolver clock).visited visits traceable
  obtain ⟨later, traceableDone⟩ := runs.preserves nofun trivial traceableBefore
  have final := (visits.retained runs).retains
  rcases reached with rfl | rfl
  · exact ⟨retained, traceableBefore, later.trans final⟩
  · exact ⟨retained.trans later, traceableDone, final⟩

/-! ## Several calls -/

/-- The states that a request is in while it is used: before each use, when plugins are run, and at
the end. -/
def statesOf (resolver : Resolver σ) (clock : σ → Instant × σ) :
    Resolution → List (Use σ) → List Resolution
  | resolution, [] => [resolution]
  | resolution, use :: rest =>
    let (ran, after) := use.perform resolver clock resolution
    resolution :: (ran.map Prod.snd ++ statesOf resolver clock after rest)

/-- A call unfolds the state of its request, and shows each plugin a state on the way. -/
theorem resolve_unfolds (resolver : Resolver σ) (clock : σ → Instant × σ) :
    (resolve resolver clock).Obeys fun before _ after =>
      before.resolution.Traceable resolver →
        ∃ ran, invocations after.journal = invocations before.journal ++ ran ∧
          Unfolds resolver before.resolution after.resolution (ran.map Prod.snd) := by
  refine resolve_obeys (fun first second traceable => ?_) (fun refs progress traceable => ?_)
    fun progress preResolved released traceable => ?_
  · obtain ⟨ran, journal, unfolds⟩ := first traceable
    obtain ⟨later, journalLater, unfoldsLater⟩ := second unfolds.finished
    refine ⟨ran ++ later, by rw [journalLater, journal, List.append_assoc], ?_⟩
    rw [List.map_append]
    exact unfolds.trans unfoldsLater
  · have runs : Runs resolver clock [] (.visitAll refs) progress _ _ := runs_visitAll refs progress
    exact runs.unfolds nofun trivial traceable
  · refine ⟨[], (List.append_nil _).symm, .silent ?_ { traceable with }⟩
    exact ⟨fun _ _ found => found, fun _ _ found => found⟩

/-- So does any other use of a request, if it runs anything. -/
theorem Use.perform_unfolds (use : Use σ) {resolution : Resolution}
    (traceable : resolution.Traceable resolver) :
    Unfolds resolver resolution (use.perform resolver clock resolution).2
      ((use.perform resolver clock resolution).1.map Prod.snd) := by
  cases use with
  | ask requestedIds inbound =>
      exact .silent ⟨fun _ _ found => found, fun _ _ found => found⟩ { traceable with }
  | takeReleased =>
      exact .silent ⟨fun _ _ found => found, fun _ _ found => found⟩ { traceable with }
  | resolve world failures =>
      obtain ⟨ran, journal, unfolds⟩ :=
        resolve_unfolds resolver clock { world, failures, resolution } traceable
      simp only [perform, journal]
      exact unfolds

/-- The state of a request after several uses. -/
def stateAfter (resolver : Resolver σ) (clock : σ → Instant × σ) (resolution : Resolution)
    (uses : List (Use σ)) : Resolution :=
  uses.foldl (fun state use => (use.perform resolver clock state).2) resolution

/-- What calls keep, and what asking for more and taking out what is released leave alone, holds in
whatever way a request is used. -/
theorem stateAfter_holds {holds : Resolution → Prop}
    (asks : ∀ {resolution : Resolution} requestedIds inbound, holds resolution →
      holds { resolution with requestedIds, inbound })
    (takes : ∀ {resolution : Resolution}, holds resolution → holds resolution.takeReleased.2)
    (resolves : ∀ {resolution : Resolution} world failures, holds resolution →
      holds (resolve resolver clock { world, failures, resolution }).2.resolution)
    (uses : List (Use σ)) {resolution : Resolution} (held : holds resolution) :
    holds (stateAfter resolver clock resolution uses) := by
  induction uses generalizing resolution with
  | nil => exact held
  | cons use rest ih =>
      refine ih ?_
      cases use with
      | ask requestedIds inbound => exact asks requestedIds inbound held
      | takeReleased => exact takes held
      | resolve world failures => exact resolves world failures held

/-- From a traceable state on all states are traceable, and records stay from each to the next. -/
theorem statesOf_unfolds (uses : List (Use σ)) {resolution : Resolution}
    (traceable : resolution.Traceable resolver) :
    (∀ state ∈ statesOf resolver clock resolution uses,
        resolution.Retains state ∧ state.Traceable resolver) ∧
      (statesOf resolver clock resolution uses).Pairwise Resolution.Retains := by
  induction uses generalizing resolution with
  | nil =>
      refine ⟨List.forall_mem_singleton.mpr ⟨.refl _, traceable⟩, List.pairwise_singleton _ _⟩
  | cons use rest ih =>
      have unfolds : Unfolds resolver resolution (use.perform resolver clock resolution).2 _ :=
        use.perform_unfolds traceable
      obtain ⟨states, ordered⟩ := ih unfolds.finished
      have each : ∀ state ∈ (use.perform resolver clock resolution).1.map Prod.snd ++
          statesOf resolver clock (use.perform resolver clock resolution).2 rest,
          resolution.Retains state ∧ state.Traceable resolver := by
        refine List.forall_mem_append.mpr ⟨fun state member => ?_, fun state member => ?_⟩
        · exact ⟨unfolds.started state member, unfolds.traceable state member⟩
        · obtain ⟨retained, later⟩ := states state member
          exact ⟨unfolds.retained.trans retained, later⟩
      refine ⟨List.forall_mem_cons.mpr ⟨⟨.refl _, traceable⟩, each⟩, ?_⟩
      refine List.pairwise_cons.mpr ⟨fun state member => (each state member).1, ?_⟩
      refine List.pairwise_append.mpr ⟨unfolds.ordered, ordered, ?_⟩
      intro state member other memberLater
      exact (unfolds.ended state member).trans (states other memberLater).1

/-- The last of the states of a request is among them. -/
theorem stateAfter_mem_statesOf (uses : List (Use σ)) (resolution : Resolution) :
    stateAfter resolver clock resolution uses ∈ statesOf resolver clock resolution uses := by
  induction uses generalizing resolution with
  | nil => exact List.mem_singleton_self resolution
  | cons use rest ih => exact List.mem_cons_of_mem _ (List.mem_append_right _ (ih _))

/-- However a new request was used, its state is traceable. -/
theorem stateAfter_traceable (resolver : Resolver σ) (clock : σ → Instant × σ) (request : Request)
    (uses : List (Use σ)) : (stateAfter resolver clock { request } uses).Traceable resolver := by
  have nothing : ({ request } : Resolution).Traceable resolver :=
    ⟨nofun, nofun, fun _ _ _ found _ => (nomatch found), nofun⟩
  exact ((statesOf_unfolds uses nothing).1 _ (stateAfter_mem_statesOf uses _)).2

/-- Whatever is done with a request, in each state that it is in, records stand under the ids of
their plugins, no connector's record holds an empty map, and the result of a connector is its own or
that of its failover; so failover references lead from each connector to one that has the same
attributes recorded as its own. A record that is there in one state is there unchanged in all later
ones. The same holds of the states in between that a call goes through, so what is recorded at the
end of a visit is there unchanged at the end of the call. -/
theorem records_retained_and_traceable (resolver : Resolver σ) (clock : σ → Instant × σ)
    (request : Request) (uses : List (Use σ)) :
    (∀ state ∈ statesOf resolver clock { request } uses, state.Traceable resolver ∧
        ∀ id record, state.connectors.get? id = some record →
          Relation.ReflTransGen resolver.graph.FailsOver id record.resolvedBy ∧
            state.connectors.get? record.resolvedBy =
              some ⟨record.resolvedBy, record.resolvedBy, record.attributes⟩) ∧
      (statesOf resolver clock { request } uses).Pairwise Resolution.Retains ∧
      ∀ resolution ∈ statesOf resolver clock { request } uses, ∀ world failures state,
        Passes resolver clock { world, failures, resolution } state →
          state.Traceable resolver ∧ resolution.Retains state ∧ state.Retains
            (resolve resolver clock { world, failures, resolution }).2.resolution := by
  have traceable : ({ request } : Resolution).Traceable resolver := {
    definitions_keyed := fun _ record found => nomatch (show none = some record from found)
    connectors_keyed := fun _ record found => nomatch (show none = some record from found)
    nonempty := fun _ record _ found => nomatch (show none = some record from found)
    derived := fun _ record found => nomatch (show none = some record from found) }
  obtain ⟨states, ordered⟩ := statesOf_unfolds uses traceable
  refine ⟨fun state member => ?_, ordered, fun resolution member world failures state passes => ?_⟩
  · have each := (states state member).2
    exact ⟨each, each.source⟩
  · obtain ⟨retained, reached, final⟩ := passes.preserves (states resolution member).2
    exact ⟨reached, retained, final⟩

theorem statesOf_ne_nil (resolver : Resolver σ) (clock : σ → Instant × σ)
    (resolution : Resolution) (uses : List (Use σ)) :
    statesOf resolver clock resolution uses ≠ [] := by
  cases uses <;> simp [statesOf]

/-- The state of a request when an outage is over. -/
def outageEnd : Resolution :=
  (statesOf outage outageClock {} outageUses).getLast (statesOf_ne_nil _ _ _ _)

/-- What the backup has during an outage. -/
def outageMail : AttributeMap := .ofList [("mail", ⟨"mail", [.ofText "a@b"], ∅, ∅⟩)]

/-- During an outage the attributes of the directory are those of its backup. -/
theorem records_retained_and_traceable_outage :
    outageEnd ∈ statesOf outage outageClock {} outageUses ∧
      outageEnd.connectors.get? "directory" = some ⟨"directory", "backup", some outageMail⟩ ∧
        Relation.ReflTransGen outage.graph.FailsOver "directory" "backup" ∧
          outageEnd.connectors.get? "backup" = some ⟨"backup", "backup", some outageMail⟩ := by
  have member : outageEnd ∈ statesOf outage outageClock {} outageUses :=
    List.getLast_mem (statesOf_ne_nil _ _ _ _)
  have found : outageEnd.connectors.get? "directory" =
      some ⟨"directory", "backup", some outageMail⟩ := by
    decide +kernel
  have states := (records_retained_and_traceable outage outageClock {} outageUses).1
  exact ⟨member, found, (states outageEnd member).2 "directory" _ found⟩

end AttributeRelease.Resolver
