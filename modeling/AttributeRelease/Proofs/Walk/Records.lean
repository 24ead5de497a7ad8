import AttributeRelease.Proofs.Walk.Steps
import AttributeRelease.Proofs.Walk.Ways

/-!
# Records on a walk

A walk only adds records to the state of a request (`Runs.grows`, `Runs.same_but_records`): those
that are there stay, and a plugin that the walk is inside of gets no record from the plugins it
leads to. When an errand ends well, all plugins that it is about have records (`Runs.settles`).
-/

namespace AttributeRelease.Resolver

variable {σ : Type} {resolver : Resolver σ} {clock : σ → Instant × σ}

namespace Resolution

/-- Records are added to the state of a request, and nothing else of it changes that plugins are
asked for. -/
structure Extends (before after : Resolution) : Prop where
  request : after.request = before.request
  inbound : after.inbound = before.inbound
  definitions : ∀ id record,
    before.definitions.get? id = some record → after.definitions.get? id = some record
  connectors : ∀ id record,
    before.connectors.get? id = some record → after.connectors.get? id = some record

theorem Extends.refl (resolution : Resolution) : resolution.Extends resolution :=
  ⟨rfl, rfl, fun _ _ found => found, fun _ _ found => found⟩

theorem Extends.trans {before middle after : Resolution} (first : before.Extends middle)
    (second : middle.Extends after) : before.Extends after where
  request := second.request.trans first.request
  inbound := second.inbound.trans first.inbound
  definitions := fun id record found =>
    second.definitions id record (first.definitions id record found)
  connectors := fun id record found =>
    second.connectors id record (first.connectors id record found)

/-- Where records stay, a plugin that has one keeps it. -/
theorem isRecorded_mono {before after : Resolution}
    (definitions : ∀ id record,
      before.definitions.get? id = some record → after.definitions.get? id = some record)
    (connectors : ∀ id record,
      before.connectors.get? id = some record → after.connectors.get? id = some record)
    {ref : PluginRef} (recorded : before.isRecorded ref = true) : after.isRecorded ref = true := by
  cases ref with
  | definition id =>
      obtain ⟨record, found⟩ := (before.definitions.contains_iff id).mp recorded
      exact (after.definitions.contains_iff id).mpr ⟨record, definitions id record found⟩
  | connector id =>
      obtain ⟨record, found⟩ := (before.connectors.contains_iff id).mp recorded
      exact (after.connectors.contains_iff id).mpr ⟨record, connectors id record found⟩

theorem Extends.isRecorded {before after : Resolution} (extended : before.Extends after)
    {ref : PluginRef} (recorded : before.isRecorded ref = true) : after.isRecorded ref = true :=
  isRecorded_mono extended.definitions extended.connectors recorded

/-- The result of a definition that had none is added. -/
theorem extends_recordDefinition {resolution : Resolution} {record : DefinitionRecord}
    (fresh : resolution.isRecorded (.definition record.definitionId) = false) :
    resolution.Extends (resolution.recordDefinition record) where
  request := rfl
  inbound := rfl
  definitions := fun id other found => by
    have differs : record.definitionId ≠ id := fun same => by
      simp [isRecorded, KeyMap.contains, same, found] at fresh
    rw [recordDefinition, KeyMap.get?_insert, if_neg differs, found]
  connectors := fun _ _ found => found

/-- The result of a connector that had none is added. -/
theorem extends_recordConnector {resolution : Resolution} {record : ConnectorRecord}
    (fresh : resolution.isRecorded (.connector record.connectorId) = false) :
    resolution.Extends (resolution.recordConnector record) where
  request := rfl
  inbound := rfl
  definitions := fun _ _ found => found
  connectors := fun id other found => by
    have differs : record.connectorId ≠ id := fun same => by
      simp [isRecorded, KeyMap.contains, same, found] at fresh
    rw [recordConnector, KeyMap.get?_insert, if_neg differs, found]

end Resolution

/-! ## Whole walks -/

/-- The plugins that have records once an errand ended well. -/
def Errand.goals : Errand → List PluginRef
  | .visit ref => [ref]
  | .visitAll refs => refs
  | .replace id _ _ => [.connector id]

/-- The plugins that an errand records although it is run inside of them. -/
def Errand.owed : Errand → List PluginRef
  | .visit _ => []
  | .visitAll _ => []
  | .replace id _ _ => [.connector id]

/-- What an errand owes is run inside of and is not recorded yet. -/
def Errand.IsDue (errand : Errand) (inside : List PluginRef) (resolution : Resolution) : Prop :=
  ∀ ref ∈ errand.owed, ref ∈ inside ∧ resolution.isRecorded ref = false

/-- A connector without a record may be replaced inside of it. -/
theorem isDue_replace {id : String} {settings : ConnectorSettings} {reason : ResolutionError}
    {inside : List PluginRef} {resolution : Resolution}
    (fresh : resolution.isRecorded (.connector id) = false) :
    (Errand.replace id settings reason).IsDue (.connector id :: inside) resolution := by
  intro ref owes
  cases List.mem_singleton.mp owes
  exact ⟨List.mem_cons_self, fresh⟩

/-- Inside of some plugins records are added, but not for these, unless owed. -/
structure Grows (inside owed : List PluginRef) (before after : Resolution) : Prop where
  extended : before.Extends after
  untouched : ∀ ref ∈ inside, ref ∉ owed →
    before.isRecorded ref = false → after.isRecorded ref = false

theorem Grows.refl (inside owed : List PluginRef) (resolution : Resolution) :
    Grows inside owed resolution resolution :=
  ⟨.refl resolution, fun _ _ _ unrecorded => unrecorded⟩

/-- What two steps leave alone both together do. -/
theorem Grows.trans {inside owed : List PluginRef} {before middle after : Resolution}
    (first : Grows inside owed before middle) (second : Grows inside owed middle after) :
    Grows inside owed before after where
  extended := first.extended.trans second.extended
  untouched := fun ref member spared unrecorded =>
    second.untouched ref member spared (first.untouched ref member spared unrecorded)

/-- Whatever may be owed, none of it need be recorded. -/
theorem Grows.mono {inside owed : List PluginRef} {before after : Resolution}
    (grows : Grows inside [] before after) : Grows inside owed before after where
  extended := grows.extended
  untouched := fun ref member _ => grows.untouched ref member List.not_mem_nil

/-- Outside of a plugin it does not matter whether that plugin is recorded. -/
theorem Grows.leave {inside owed : List PluginRef} {ref : PluginRef} {before after : Resolution}
    (grows : Grows (ref :: inside) owed before after) (own : owed ⊆ [ref])
    (outside : ref ∉ inside) : Grows inside [] before after where
  extended := grows.extended
  untouched := fun other member _ => grows.untouched other (List.mem_cons_of_mem _ member)
    fun owes => outside (List.mem_singleton.mp (own owes) ▸ member)

/-- A definition that is owed may be recorded. -/
theorem grows_recordDefinition {inside : List PluginRef} {resolution : Resolution}
    {record : DefinitionRecord} {id : String} (named : record.definitionId = id)
    (fresh : resolution.isRecorded (.definition id) = false) :
    Grows inside [.definition id] resolution (resolution.recordDefinition record) := by
  subst named
  refine ⟨Resolution.extends_recordDefinition fresh, fun ref _ spared unrecorded => ?_⟩
  simpa [unrecorded] using spared

theorem grows_recordConnector {inside : List PluginRef} {resolution : Resolution}
    {record : ConnectorRecord} {id : String} (named : record.connectorId = id)
    (fresh : resolution.isRecorded (.connector id) = false) :
    Grows inside [.connector id] resolution (resolution.recordConnector record) := by
  subst named
  refine ⟨Resolution.extends_recordConnector fresh, fun ref _ spared unrecorded => ?_⟩
  simpa [unrecorded] using spared

/-- A walk adds records, but none for the plugins it is inside of. -/
theorem Runs.grows {inside : List PluginRef} {errand : Errand} {before after : Progress σ}
    {outcome : Except Halt Unit} (runs : Runs resolver clock inside errand before outcome after)
    (due : errand.IsDue inside before.resolution) :
    Grows inside errand.owed before.resolution after.resolution := by
  induction runs with
  | idle | stuck | propagated | done => exact .refl _ _ _
  | definition _ fresh outside _ ih =>
      have grows := ih nofun
      -- nothing that the definition leads to has recorded it
      have still := grows.untouched _ List.mem_cons_self List.not_mem_nil fresh
      rw [runDefinition_resolution]
      exact (grows.mono.trans (grows_recordDefinition rfl still)).leave (List.Subset.refl _) outside
  | definitionHalted _ _ outside _ ih => exact (ih nofun).leave (List.nil_subset _) outside
  | passedOver _ fresh outside clockRead _ _ ih =>
      obtain ⟨-, rfl⟩ := readClock_eq clockRead
      exact (ih (isDue_replace fresh)).leave (List.Subset.refl _) outside
  | connectorHalted _ _ outside clockRead _ _ ih =>
      obtain ⟨-, rfl⟩ := readClock_eq clockRead
      exact (ih nofun).leave (List.nil_subset _) outside
  | fetched _ fresh outside clockRead _ _ answered ih =>
      obtain ⟨-, rfl⟩ := readClock_eq clockRead
      have grows := ih nofun
      have still := grows.untouched _ List.mem_cons_self List.not_mem_nil fresh
      rw [← (fetched_of_fetchConnector answered).resolution] at grows still
      exact (grows.mono.trans (grows_recordConnector rfl still)).leave (List.Subset.refl _) outside
  | fetchFailed _ fresh outside clockRead _ _ failed _ ihDependencies ihReplaced =>
      obtain ⟨-, rfl⟩ := readClock_eq clockRead
      have grows := ihDependencies nofun
      have still := grows.untouched _ List.mem_cons_self List.not_mem_nil fresh
      rw [← (fetched_of_fetchConnector failed).resolution] at grows still
      exact (grows.mono.trans (ihReplaced (isDue_replace still))).leave (List.Subset.refl _) outside
  | @failedOver _ id next _ _ _ after _ _ ih =>
      obtain ⟨within, fresh⟩ := due _ (List.mem_singleton_self _)
      have grows := ih nofun
      have still := grows.untouched _ within List.not_mem_nil fresh
      exact grows.mono.trans
        (grows_recordConnector (substituteRecord_connectorId after.resolution id next) still)
  | failoverHalted _ _ ih => exact (ih nofun).mono
  | absorbed =>
      obtain ⟨-, fresh⟩ := due _ (List.mem_singleton_self _)
      exact grows_recordConnector rfl fresh
  | next _ _ ihFirst ihOthers => exact (ihFirst nofun).trans (ihOthers nofun)
  | halted _ ih => exact ih nofun

/-- While its dependencies are visited, a plugin gets no record. -/
theorem Runs.unrecorded_self {inside : List PluginRef} {ref : PluginRef} {refs : List PluginRef}
    {before after : Progress σ} {outcome : Except Halt Unit}
    (runs : Runs resolver clock (ref :: inside) (.visitAll refs) before outcome after)
    (fresh : before.resolution.isRecorded ref = false) :
    after.resolution.isRecorded ref = false :=
  (runs.grows nofun).untouched ref List.mem_cons_self List.not_mem_nil fresh

/-- When an errand ended well, the plugins that it is about have records. -/
theorem Runs.settles {inside : List PluginRef} {errand : Errand} {before after : Progress σ}
    {outcome : Except Halt Unit} (runs : Runs resolver clock inside errand before outcome after)
    (ended : outcome = .ok ()) :
    ∀ ref ∈ errand.goals, hasPlugin resolver ref = true →
      after.resolution.isRecorded ref = true := by
  induction runs with
  | idle settled =>
      intro ref member known
      cases List.mem_singleton.mp member
      exact settled.resolve_right (by simp [known])
  | definition =>
      intro ref member known
      cases List.mem_singleton.mp member
      simp [runDefinition_resolution]
  | passedOver _ _ _ _ _ _ ih => exact ih ended
  | fetched =>
      intro ref member known
      cases List.mem_singleton.mp member
      simp [Progress.recordConnector]
  | fetchFailed _ _ _ _ _ _ _ _ _ ih => exact ih ended
  | failedOver =>
      intro ref member known
      cases List.mem_singleton.mp member
      simp [Progress.recordConnector]
  | absorbed =>
      intro ref member known
      cases List.mem_singleton.mp member
      simp [Progress.recordConnector, ConnectorRecord.empty]
  | done => exact fun _ member => (List.not_mem_nil member).elim
  | next first others ihFirst ihOthers =>
      intro ref member known
      rcases List.mem_cons.mp member with rfl | later
      · have recorded := ihFirst rfl ref (List.mem_singleton_self _) known
        exact (others.grows nofun).extended.isRecorded recorded
      · exact ihOthers ended ref later known
  | stuck | definitionHalted | connectorHalted | failoverHalted | propagated | halted =>
      cases ended

/-- Once the dependencies of a plugin were visited, they have records: all of them are known. -/
theorem Runs.dependencies_recorded {inside refs : List PluginRef} {before after : Progress σ}
    (runs : Runs resolver clock inside (.visitAll refs) before (.ok ()) after) {ref : PluginRef}
    (declares : ∀ next, resolver.graph.Declares ref next ↔ next ∈ refs) :
    ∀ next ∈ refs, after.resolution.isRecorded next = true := by
  intro next listed
  have known := resolver.wellFormed.dependencies_known ref next ((declares next).mpr listed)
  rw [has_graph] at known
  exact runs.settles rfl next listed known

/-! ## What every step keeps to -/

/-- A relation that each single step of a walk keeps to. -/
structure StepLaw (resolver : Resolver σ) (clock : σ → Instant × σ)
    (law : Progress σ → Progress σ → Prop) : Prop where
  refl : ∀ progress, law progress progress
  trans : ∀ {first middle last}, law first middle → law middle last → law first last
  reads : ∀ progress, law progress (progress.readClock clock).2
  passes : ∀ progress id, law progress (progress.note (.passedOver id))
  defines : ∀ {id definition}, resolver.definitions.get? id = some definition →
    ∀ progress, law progress (runDefinition id definition progress).2
  fetches : ∀ {id connector}, resolver.connectors.get? id = some connector →
    ∀ progress, law progress (fetchConnector clock id connector progress).2
  records : ∀ progress record, law progress (progress.recordConnector record)

/-- A whole walk keeps to what its steps keep to. -/
theorem StepLaw.runs {law : Progress σ → Progress σ → Prop} (keeps : StepLaw resolver clock law)
    {inside : List PluginRef} {errand : Errand} {before after : Progress σ}
    {outcome : Except Halt Unit} (runs : Runs resolver clock inside errand before outcome after) :
    law before after := by
  have read {start read : Progress σ} {now : Instant}
      (clockRead : start.readClock clock = (now, read)) : law start read := by
    have reads := keeps.reads start
    rw [clockRead] at reads
    exact reads
  have fetch {id : String} {connector : Connector σ} {start ran : Progress σ}
      {answer : Except ResolutionError (Option AttributeMap)}
      (found : resolver.connectors.get? id = some connector)
      (answered : fetchConnector clock id connector start = (answer, ran)) : law start ran := by
    have fetches := keeps.fetches found start
    rw [answered] at fetches
    exact fetches
  induction runs with
  | idle | stuck | propagated | done => exact keeps.refl _
  | definition found _ _ _ ih => exact keeps.trans ih (keeps.defines found _)
  | definitionHalted _ _ _ _ ih => exact ih
  | passedOver _ _ _ clockRead _ _ ih =>
      exact keeps.trans (read clockRead) (keeps.trans (keeps.passes _ _) ih)
  | connectorHalted _ _ _ clockRead _ _ ih => exact keeps.trans (read clockRead) ih
  | fetched found _ _ clockRead _ _ answered ih =>
      have ran := keeps.trans ih (fetch found answered)
      exact keeps.trans (read clockRead) (keeps.trans ran (keeps.records _ _))
  | fetchFailed found _ _ clockRead _ _ failed _ ihDependencies ihReplaced =>
      have ran := keeps.trans ihDependencies (fetch found failed)
      exact keeps.trans (read clockRead) (keeps.trans ran ihReplaced)
  | failedOver _ _ ih => exact keeps.trans ih (keeps.records _ _)
  | failoverHalted _ _ ih => exact ih
  | absorbed => exact keeps.records _ _
  | next _ _ ihFirst ihOthers => exact keeps.trans ihFirst ihOthers
  | halted _ ih => exact ih

/-- Two states of a request differ in nothing but records. -/
structure Resolution.SameButRecords (before after : Resolution) : Prop where
  request : after.request = before.request
  requestedIds : after.requestedIds = before.requestedIds
  inbound : after.inbound = before.inbound
  preResolved : after.preResolved = before.preResolved
  released : after.released = before.released

theorem Resolution.SameButRecords.refl (resolution : Resolution) :
    resolution.SameButRecords resolution := ⟨rfl, rfl, rfl, rfl, rfl⟩

theorem Resolution.SameButRecords.trans {before middle after : Resolution}
    (first : before.SameButRecords middle) (second : middle.SameButRecords after) :
    before.SameButRecords after where
  request := second.request.trans first.request
  requestedIds := second.requestedIds.trans first.requestedIds
  inbound := second.inbound.trans first.inbound
  preResolved := second.preResolved.trans first.preResolved
  released := second.released.trans first.released

/-- Two states of requests hold the same results of plugins. -/
structure Resolution.SameRecords (first second : Resolution) : Prop where
  definitions : first.definitions = second.definitions
  connectors : first.connectors = second.connectors

theorem Resolution.SameRecords.trans {first second third : Resolution}
    (left : first.SameRecords second) (right : second.SameRecords third) :
    first.SameRecords third :=
  ⟨left.definitions.trans right.definitions, left.connectors.trans right.connectors⟩

theorem Resolution.SameRecords.isRecorded {first second : Resolution}
    (same : first.SameRecords second) (ref : PluginRef) :
    first.isRecorded ref = second.isRecorded ref := by
  cases ref with
  | definition id => rw [Resolution.isRecorded, Resolution.isRecorded, same.definitions]
  | connector id => rw [Resolution.isRecorded, Resolution.isRecorded, same.connectors]

/-- A step changes nothing of a request but its records. -/
theorem same_but_records_stepLaw (resolver : Resolver σ) (clock : σ → Instant × σ) :
    StepLaw resolver clock fun before after =>
      before.resolution.SameButRecords after.resolution where
  refl := fun _ => .refl _
  trans := fun first second => first.trans second
  reads := fun _ => ⟨rfl, rfl, rfl, rfl, rfl⟩
  passes := fun _ _ => ⟨rfl, rfl, rfl, rfl, rfl⟩
  defines := fun _ progress => by
    rw [runDefinition_resolution]
    exact ⟨rfl, rfl, rfl, rfl, rfl⟩
  fetches := fun _ progress => by
    rw [fetchConnector_resolution]
    exact .refl _
  records := fun _ _ => ⟨rfl, rfl, rfl, rfl, rfl⟩

/-- A walk changes nothing of a request but its records. -/
theorem Runs.same_but_records {inside : List PluginRef} {errand : Errand}
    {before after : Progress σ} {outcome : Except Halt Unit}
    (runs : Runs resolver clock inside errand before outcome after) :
    before.resolution.SameButRecords after.resolution :=
  (same_but_records_stepLaw resolver clock).runs runs

end AttributeRelease.Resolver
