import AttributeRelease.Proofs.Walk.Evaluation
import AttributeRelease.Proofs.Walk.Journal

/-!
# Walks record what evaluation gives

When each plugin depends on nothing but its dependencies, and the clock stands still, each record
that a request leaves behind is what plain evaluation gives (`resolve_evaluates`). Throughout a walk
all records agree with evaluation, and no failure was noted yet of a connector that may still be
entered (`Faithful`), so that its no-retry window is that of the start.
-/

namespace AttributeRelease.Resolver

variable {σ : Type} {resolver : Resolver σ} {clock : σ → Instant × σ}
  {start progress : Progress σ} {now : Instant} {inside : List PluginRef}

/-- The request is the one that a walk started with, and what is recorded is what plain evaluation
gives. -/
structure Evaluated (resolver : Resolver σ) (start : Progress σ) (now : Instant)
    (resolution : Resolution) : Prop where
  request : resolution.request = start.resolution.request
  inbound : resolution.inbound = start.resolution.inbound
  definitions : ∀ id record, resolution.definitions.get? id = some record →
    definitionRecord? resolver start now id = some record
  connectors : ∀ id record, resolution.connectors.get? id = some record →
    connectorRecord? resolver start now id = some record

/-- Inside of some plugins a walk has recorded what plain evaluation gives, and has noted failures
only of connectors that are recorded or that it is inside of. -/
structure Faithful (resolver : Resolver σ) (start : Progress σ) (now : Instant)
    (inside : List PluginRef) (progress : Progress σ) : Prop where
  evaluated : Evaluated resolver start now progress.resolution
  failures : ∀ id, progress.resolution.isRecorded (.connector id) = false →
    .connector id ∉ inside → progress.failures.last? id = start.failures.last? id

/-- Only the state of the request and the failures matter. -/
theorem Faithful.congr {other : Progress σ}
    (faithful : Faithful resolver start now inside progress)
    (resolution : other.resolution = progress.resolution)
    (failures : other.failures = progress.failures) :
    Faithful resolver start now inside other where
  evaluated := resolution ▸ faithful.evaluated
  failures := fun id unrecorded outside =>
    failures ▸ faithful.failures id (resolution ▸ unrecorded) outside

/-- Entering a plugin puts one more on the way and changes nothing else. -/
theorem Faithful.enter (faithful : Faithful resolver start now inside progress)
    (ref : PluginRef) : Faithful resolver start now (ref :: inside) progress where
  evaluated := faithful.evaluated
  failures := fun id unrecorded outside =>
    faithful.failures id unrecorded fun within => outside (List.mem_cons_of_mem ref within)

/-- A failure of a connector that is recorded does not matter. -/
theorem Faithful.leave {ref : PluginRef}
    (faithful : Faithful resolver start now (ref :: inside) progress)
    (recorded : progress.resolution.isRecorded ref = true) :
    Faithful resolver start now inside progress where
  evaluated := faithful.evaluated
  failures := fun id unrecorded outside => faithful.failures id unrecorded fun within => by
    rcases List.mem_cons.mp within with rfl | earlier
    · cases recorded.symm.trans unrecorded
    · exact outside earlier

/-- What plain evaluation gives for a definition may be recorded. -/
theorem Faithful.recordDefinition (faithful : Faithful resolver start now inside progress)
    {record : DefinitionRecord}
    (given : definitionRecord? resolver start now record.definitionId = some record) :
    Faithful resolver start now inside (progress.recordDefinition record) where
  evaluated := { faithful.evaluated with
    definitions := KeyMap.holds_of_get?_insert given faithful.evaluated.definitions }
  failures := faithful.failures

/-- A record that the reference evaluation gives may be put in place. -/
theorem Faithful.recordConnector (faithful : Faithful resolver start now inside progress)
    {record : ConnectorRecord}
    (given : connectorRecord? resolver start now record.connectorId = some record) :
    Faithful resolver start now inside (progress.recordConnector record) where
  evaluated := { faithful.evaluated with
    connectors := KeyMap.holds_of_get?_insert given faithful.evaluated.connectors }
  failures := fun id unrecorded outside => by
    have before := (Resolution.isRecorded_recordConnector _ _ _).symm.trans unrecorded
    exact faithful.failures id (Bool.or_eq_false_iff.mp before).2 outside

/-- When the dependencies of a plugin are recorded, it is shown the same as in an evaluation. -/
theorem Evaluated.view {resolution : Resolution}
    (evaluated : Evaluated resolver start now resolution) {dependencies : Dependencies}
    (recorded : ∀ ref ∈ dependencies.refs, resolution.isRecorded ref = true) :
    ∃ shown, view? resolver start now dependencies = some shown ∧
      resolution.AgreesOn dependencies shown := by
  obtain ⟨definitions, collectedDefinitions, agreesDefinitions⟩ :=
    recordsOf?_eq_some evaluated.definitions fun id listed =>
      recorded (.definition id) (PluginGraph.definition_mem_refs.mpr listed)
  obtain ⟨connectors, collectedConnectors, agreesConnectors⟩ :=
    recordsOf?_eq_some evaluated.connectors fun id listed =>
      recorded (.connector id) (PluginGraph.connector_mem_refs.mpr listed)
  refine ⟨{
    request := start.resolution.request
    inbound := start.resolution.inbound
    definitions
    connectors }, ?_, evaluated.request, evaluated.inbound, agreesDefinitions, agreesConnectors⟩
  rw [view?, shown?, collectedDefinitions, collectedConnectors]
  rfl

/-- A failure of a connector does not matter inside of it. -/
theorem Faithful.fetched {id : String} {connector : Connector σ} {ran : Progress σ}
    {answer : Except ResolutionError (Option AttributeMap)}
    (faithful : Faithful resolver start now (.connector id :: inside) progress)
    (fetched : Fetched id connector progress answer ran) :
    Faithful resolver start now (.connector id :: inside) ran where
  evaluated := fetched.resolution ▸ faithful.evaluated
  failures := fun other unrecorded outside => by
    have differs : other ≠ id := fun same => outside (same ▸ List.mem_cons_self)
    rw [fetched.failures other differs]
    exact faithful.failures other (fetched.resolution ▸ unrecorded) outside

/-- Before a connector is entered, it is in its no-retry window if it was so at the start. -/
theorem Faithful.readClock (steady : ∀ world, (clock world).1 = now)
    (faithful : Faithful resolver start now inside progress) {read : Progress σ} {instant : Instant}
    (clockRead : progress.readClock clock = (instant, read)) {id : String}
    (fresh : progress.resolution.isRecorded (.connector id) = false)
    (outside : .connector id ∉ inside) (delay : Duration) :
    read.failures.inNoRetryWindow id delay instant =
        start.failures.inNoRetryWindow id delay now ∧
      Faithful resolver start now (.connector id :: inside) read := by
  obtain ⟨same, rfl⟩ := readClock_eq clockRead
  refine ⟨?_, (faithful.enter (.connector id)).congr rfl rfl⟩
  rw [same, steady]
  exact FailureLog.inNoRetryWindow_congr (faithful.failures id fresh outside) delay now

/-- A definition whose dependencies are recorded answers as in an evaluation. -/
theorem Evaluated.definition (determined : resolver.Determined)
    (evaluated : Evaluated resolver start now progress.resolution) {id : String}
    {definition : Definition σ} (found : resolver.definitions.get? id = some definition)
    (recorded : ∀ ref ∈ definition.settings.dependencies.refs,
      progress.resolution.isRecorded ref = true) :
    definitionRecord? resolver start now id =
      some ⟨id, (definition.compute progress.resolution progress.world).1.toOption.join,
        definition.settings.dependencyOnly⟩ := by
  obtain ⟨shown, viewed, agrees⟩ := evaluated.view recorded
  have answer := determined.definitions id definition found _ _ progress.world start.world agrees
  rw [definitionRecord?_eq found, viewed, answer, Option.map_some]

/-- With its dependencies evaluated, the reference gives a connector what the code makes of its
answer. -/
theorem Evaluated.connector (determined : resolver.Determined)
    (evaluated : Evaluated resolver start now progress.resolution) {id : String}
    {connector : Connector σ} (found : resolver.connectors.get? id = some connector)
    (recorded : ∀ ref ∈ connector.settings.dependencies.refs,
      progress.resolution.isRecorded ref = true)
    (noWindow : start.failures.inNoRetryWindow id connector.settings.noRetryDelay now = false) :
    connectorRecord? resolver start now id =
      match connectorOutcome connector.settings id
        (connector.fetch progress.resolution progress.world).1 with
      | .ok attributes => some ⟨id, id, attributes⟩
      | .error _ => replacement? resolver start now id connector.settings := by
  obtain ⟨shown, viewed, agrees⟩ := evaluated.view recorded
  have answer := determined.connectors id connector found _ _ progress.world start.world agrees
  rw [connectorRecord?_eq found, noWindow, viewed, answer, Option.bind_some,
    ← toOption_connectorOutcome _ id]
  cases connectorOutcome connector.settings id (connector.fetch shown start.world).1 <;> rfl

/-- A connector is replaced as in an evaluation. -/
def Errand.IsMeant (resolver : Resolver σ) (start : Progress σ) (now : Instant) : Errand → Prop
  | .visit _ => True
  | .visitAll _ => True
  | .replace id settings _ =>
    (∃ connector, resolver.connectors.get? id = some connector ∧ connector.settings = settings) ∧
      connectorRecord? resolver start now id = replacement? resolver start now id settings

/-- A walk that ends well records what plain evaluation gives. -/
theorem Runs.faithful (steady : ∀ world, (clock world).1 = now) (determined : resolver.Determined)
    {errand : Errand} {before after : Progress σ} {outcome : Except Halt Unit}
    (runs : Runs resolver clock inside errand before outcome after)
    (due : errand.IsDue inside before.resolution) (meant : errand.IsMeant resolver start now)
    (faithful : Faithful resolver start now inside before) (ended : outcome = .ok ()) :
    Faithful resolver start now inside after := by
  -- `Faithful` carries over from each part of a walk to the next; entering a plugin weakens it, and
  -- once the plugin is recorded nothing is lost.
  induction runs with
  | idle | done => exact faithful
  | definition found fresh outside dependencies ih =>
      have middle := ih (List.forall_mem_nil _) trivial (faithful.enter _) rfl
      have recorded := dependencies.dependencies_recorded fun _ => declares_definition_iff found
      have evaluated := middle.evaluated.definition determined found recorded
      have after := (middle.recordDefinition evaluated).congr
        (runDefinition_resolution _ _ _) (runDefinition_failures _ _ _)
      exact after.leave (by simp [runDefinition_resolution])
  | passedOver found fresh outside clockRead window replaced ih =>
      obtain ⟨same, read⟩ := faithful.readClock steady clockRead fresh outside _
      have evaluated : connectorRecord? resolver start now _ = _ := connectorRecord?_eq found
      rw [if_pos (same.symm.trans window)] at evaluated
      obtain ⟨-, rfl⟩ := readClock_eq clockRead
      have after := ih (isDue_replace fresh) ⟨⟨_, found, rfl⟩, evaluated⟩ (read.congr rfl rfl) ended
      exact after.leave (replaced.settles ended _ List.mem_cons_self
        ((resolver.connectors.contains_iff _).mpr ⟨_, found⟩))
  | fetched found fresh outside clockRead noWindow dependencies answered ih =>
      obtain ⟨same, read⟩ := faithful.readClock steady clockRead fresh outside _
      have middle := ih (List.forall_mem_nil _) trivial read rfl
      have recorded := dependencies.dependencies_recorded fun _ => declares_connector_iff found
      have evaluated := middle.evaluated.connector determined found recorded
        (same.symm.trans noWindow)
      have fetched := fetched_of_fetchConnector answered
      rw [← fetched.answered] at evaluated
      exact ((middle.fetched fetched).recordConnector evaluated).leave
        (by simp [Progress.recordConnector])
  | fetchFailed found fresh outside clockRead noWindow dependencies failed replaced ihDependencies
      ihReplaced =>
      obtain ⟨same, read⟩ := faithful.readClock steady clockRead fresh outside _
      have middle := ihDependencies (List.forall_mem_nil _) trivial read rfl
      have recorded := dependencies.dependencies_recorded fun _ => declares_connector_iff found
      have evaluated := middle.evaluated.connector determined found recorded
        (same.symm.trans noWindow)
      have fetched := fetched_of_fetchConnector failed
      rw [← fetched.answered] at evaluated
      obtain ⟨-, rfl⟩ := readClock_eq clockRead
      have still := dependencies.unrecorded_self fresh
      rw [← fetched.resolution] at still
      have after := ihReplaced (isDue_replace still) ⟨⟨_, found, rfl⟩, evaluated⟩
        (middle.fetched fetched) ended
      exact after.leave (replaced.settles ended _ List.mem_cons_self
        ((resolver.connectors.contains_iff _).mpr ⟨_, found⟩))
  | failedOver named resolved ih =>
      obtain ⟨⟨connector, found, rfl⟩, evaluated⟩ := meant
      have after := ih (List.forall_mem_nil _) trivial faithful rfl
      -- the failover is known, so that a visit that ends well leaves a record to take over
      have known := resolver.wellFormed.failover_known _ _ ((failsOver_iff found).mpr named)
      have recorded := resolved.settles rfl _ List.mem_cons_self
        ((resolver.has_graph (.connector _)).symm.trans known)
      obtain ⟨record, foundNext⟩ := (KeyMap.contains_iff _ _).mp recorded
      refine after.recordConnector ?_
      rw [substituteRecord_connectorId, evaluated, replacement?, named]
      simp [substituteRecord, foundNext, after.evaluated.connectors _ record foundNext]
  | absorbed unnamed absorbs =>
      refine faithful.recordConnector (meant.2.trans ?_)
      simp [replacement?, unnamed, absorbs, ConnectorRecord.empty]
  | next first others ihFirst ihOthers =>
      have middle := ihFirst (List.forall_mem_nil _) trivial faithful rfl
      exact ihOthers (List.forall_mem_nil _) trivial middle ended
  | stuck | definitionHalted | connectorHalted | failoverHalted | propagated | halted =>
      cases ended

/-- Let each plugin depend on nothing but the request and its dependencies, and let the clock stand
still. When a request that nothing was recorded for is resolved, each record is what plain
evaluation gives from where the request started. -/
theorem resolve_evaluates (steady : ∀ world, (clock world).1 = now)
    (determined : resolver.Determined) {before : Progress σ}
    (unrecorded : ∀ ref, before.resolution.isRecorded ref = false)
    (ended : (resolve resolver clock before).1 = .ok ()) :
    let after := (resolve resolver clock before).2
    (∀ id record, after.resolution.definitions.get? id = some record →
        definitionRecord? resolver before now id = some record) ∧
      ∀ id record, after.resolution.connectors.get? id = some record →
        connectorRecord? resolver before now id = some record := by
  have law : (resolve resolver clock).Obeys fun first outcome second =>
      Faithful resolver before now [] first → outcome = .ok () →
        Faithful resolver before now [] second := by
    refine resolve_obeys (fun left right faithful => right (left faithful rfl))
      (fun refs progress faithful ended => ?_) fun progress _ _ faithful _ => ?_
    · exact (runs_visitAll refs progress).faithful steady determined nofun trivial faithful ended
    · exact ⟨{ faithful.evaluated with }, faithful.failures⟩
  have nothing : Evaluated resolver before now before.resolution := {
    request := rfl
    inbound := rfl
    definitions := fun id record found => by
      have recorded := (KeyMap.contains_iff _ id).mpr ⟨record, found⟩
      cases recorded.symm.trans (unrecorded (.definition id))
    connectors := fun id record found => by
      have recorded := (KeyMap.contains_iff _ id).mpr ⟨record, found⟩
      cases recorded.symm.trans (unrecorded (.connector id)) }
  have final := (law before ⟨nothing, fun _ _ _ => rfl⟩ ended).evaluated
  exact ⟨final.definitions, final.connectors⟩

/-- Where a request starts during an outage. -/
def outageStart : Progress Unit := { world := (), failures := outageFailures, resolution := {} }

theorem outage_determined : outage.Determined where
  definitions :=
    KeyMap.holds_of_get?_insert (DefinitionKind.toDefinition_dependsOn _ _)
      (KeyMap.holds_of_get?_insert (DefinitionKind.toDefinition_dependsOn _ _)
        fun _ _ found => nomatch found)
  connectors :=
    KeyMap.holds_of_get?_insert (Action.pure_dependsOn _ _)
      (KeyMap.holds_of_get?_insert (Action.pure_dependsOn _ _)
        (KeyMap.holds_of_get?_insert (Action.pure_dependsOn _ _)
          (KeyMap.holds_of_get?_insert (Action.pure_dependsOn _ _)
            fun _ _ found => nomatch found)))

/-- The connectors of a library. The catalogue, the loans and the fines have nothing, of which the
catalogue makes no error. For the loans and for a branch that failed recently there is a ledger; the
fines may be missed. The opening hours are exported, of the stacks nothing is. -/
def lendingConnectors : Keyed fun connector : Connector Unit => connector.settings.id :=
  ((((((Keyed.add .empty
    (staticConnector { id := "catalogue" } ∅)).add
    (staticConnector { id := "loans", failover := some "ledger", noResultIsError := true } ∅)).add
    ⟨{ id := "fines", propagateErrors := false, noResultIsError := true },
      .pure fun _ => .ok none⟩).add
    (staticConnector { id := "branch", failover := some "ledger", noRetryDelay := 60000000000 }
      ∅)).add
    (staticConnector { id := "ledger" } (.ofList [("loan", ⟨"loan", [.ofText "b1"], ∅, ∅⟩)]))).add
    (staticConnector { id := "hours", exported := .named (.ofMembers ["opening"]) } ∅)).add
    (staticConnector { id := "stacks", exported := .named ∅ } ∅)

/-- The definitions of a library. A card comes before all else, a notice tells of the loan and of
fines, and a shelf is looked up in the stacks. -/
def lendingDefinitions : Keyed fun definition : Definition Unit => definition.settings.id :=
  (((Keyed.add .empty
    (DefinitionKind.simple.toDefinition
      { id := "card", preRequested := true
        dependencies := { connectors := [⟨"catalogue", []⟩] } })).add
    (DefinitionKind.simple.toDefinition
      { id := "loan"
        dependencies := { connectors := [⟨"loans", []⟩, ⟨"branch", []⟩] } })).add
    (DefinitionKind.simple.toDefinition
      { id := "notice", sourceAttribute := some "loan"
        dependencies := { attributes := ["loan"], connectors := [⟨"fines", []⟩] } })).add
    (DefinitionKind.simple.toDefinition
      { id := "shelf", dependencies := { connectors := [⟨"stacks", []⟩] } })

/-- A resolver for a library. -/
def lending : Resolver Unit where
  id := "library"
  definitions := lendingDefinitions.1
  connectors := lendingConnectors.1
  stripNulls := false
  suppressDisplay := false
  definitions_keyed := lendingDefinitions.2
  connectors_keyed := lendingConnectors.2
  accepted := by decide +kernel

/-- Where a request at the library starts, after a failure of the branch. -/
def lendingStart : Progress Unit where
  world := ()
  failures := (newFailureLog lending).record "branch" 0
  resolution := {}

/-- The plugins of the library answer by what they are shown and not by the time. -/
theorem lending_determined : lending.Determined where
  definitions := by
    iterate 4 refine KeyMap.holds_of_get?_insert (DefinitionKind.toDefinition_dependsOn _ _) ?_
    exact fun _ _ found => nomatch found
  connectors := by
    iterate 7 refine KeyMap.holds_of_get?_insert (Action.pure_dependsOn _ _) ?_
    exact fun _ _ found => nomatch found

/-- At the library the catalogue has no attributes, since its map is empty; loans without a result
and a branch inside of its no-retry window are replaced by the ledger, and fines without a result by
an empty one, as plain evaluation says. -/
theorem resolve_evaluates_lending :
    let ledger : AttributeMap := .ofList [("loan", ⟨"loan", [.text "b1"], ∅, ∅⟩)]
    (∀ world, (outageClock world).1 = 1000000) ∧ lending.Determined ∧
      (∀ ref, lendingStart.resolution.isRecorded ref = false) ∧
      (resolve lending outageClock lendingStart).1 = .ok () ∧
      connectorRecord? lending lendingStart 1000000 "catalogue" =
        some ⟨"catalogue", "catalogue", none⟩ ∧
      connectorRecord? lending lendingStart 1000000 "loans" =
        some ⟨"loans", "ledger", some ledger⟩ ∧
      connectorRecord? lending lendingStart 1000000 "branch" =
        some ⟨"branch", "ledger", some ledger⟩ ∧
      connectorRecord? lending lendingStart 1000000 "fines" = some ⟨"fines", "fines", none⟩ ∧
      definitionRecord? lending lendingStart 1000000 "card" =
        some ⟨"card", some ⟨"card", [], ∅, ∅⟩, false⟩ ∧
      definitionRecord? lending lendingStart 1000000 "loan" =
        some ⟨"loan", some ⟨"loan", [.text "b1", .text "b1"], ∅, ∅⟩, false⟩ := by
  have steady : ∀ world, (outageClock world).1 = 1000000 := fun _ => rfl
  have unrecorded : ∀ ref, lendingStart.resolution.isRecorded ref = false := fun ref => by
    cases ref <;> rfl
  have ended : (resolve lending outageClock lendingStart).1 = .ok () := by decide +kernel
  obtain ⟨definitions, connectors⟩ :=
    resolve_evaluates steady lending_determined unrecorded ended
  exact ⟨steady, lending_determined, unrecorded, ended,
    connectors "catalogue" _ (by decide +kernel), connectors "loans" _ (by decide +kernel),
    connectors "branch" _ (by decide +kernel), connectors "fines" _ (by decide +kernel),
    definitions "card" _ (by decide +kernel), definitions "loan" _ (by decide +kernel)⟩

end AttributeRelease.Resolver
