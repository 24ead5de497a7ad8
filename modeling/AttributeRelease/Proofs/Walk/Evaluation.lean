import AttributeRelease.Proofs.Walk.Records
import AttributeRelease.Resolver.Definitions

/-!
# Plain evaluation

What a plugin comes to can be told without a walk: evaluate its dependencies, and run it on their
results. `definitionRecord?` and `connectorRecord?` do so by recursion along the references of the
graph, which are well-founded; nothing is recorded, and a plugin is evaluated as often as it is
referred to. `Determined` says of plugins that they depend on nothing else than what an evaluation
shows them, which holds of definitions of all kinds (`DefinitionKind.toDefinition_dependsOn`).
-/

namespace AttributeRelease.Resolver

variable {σ : Type} {resolver : Resolver σ}

/-! ## Evaluation -/

/-- The results of several plugins under their ids, if each has one. -/
def recordsOf? {α : Type} : (ids : List String) → (∀ id ∈ ids, Option α) → Option (KeyMap α)
  | [], _ => some .empty
  | id :: rest, record? => do
    let record ← record? id List.mem_cons_self
    let records ← recordsOf? rest fun other member => record? other (List.mem_cons_of_mem id member)
    return records.insert id record

/-- What a plugin is shown: the request, and the results of its dependencies. -/
def shown? (resolution : Resolution) (dependencies : Dependencies)
    (definition? : ∀ id ∈ dependencies.attributes, Option DefinitionRecord)
    (connector? : ∀ id ∈ dependencies.connectorIds, Option ConnectorRecord) :
    Option Resolution := do
  let definitions ← recordsOf? dependencies.attributes definition?
  let connectors ← recordsOf? dependencies.connectorIds connector?
  return { request := resolution.request, inbound := resolution.inbound, definitions, connectors }

/-- What an answer of a connector comes to, if it is of use: the attributes that it has, or none. An
empty map is as good as no result. Either will do, unless the settings make it an error. -/
def usable? (settings : ConnectorSettings) :
    Except ResolutionError (Option AttributeMap) → Option (Option AttributeMap)
  | .error _ => none
  | .ok none => if settings.noResultIsError then none else some none
  | .ok (some attributes) =>
    if attributes.entries ≠ [] then some (some attributes)
    else if settings.noResultIsError then none
    else some none

mutual

/-- The result of a definition, an error counting as no attribute. It is `none` if there is no such
definition or a connector that it needs would end the request. -/
def definitionRecord? (resolver : Resolver σ) (start : Progress σ) (now : Instant) (id : String) :
    Option DefinitionRecord :=
  match _found : resolver.definitions.get? id with
  | none => none
  | some definition => do
    let shown ← shown? start.resolution definition.settings.dependencies
      (fun dependency _listed => definitionRecord? resolver start now dependency)
      (fun dependency _listed => connectorRecord? resolver start now dependency)
    let outcome := (definition.compute shown start.world).1
    return ⟨id, outcome.toOption.join, definition.settings.dependencyOnly⟩
termination_by resolver.wellFounded.wrap (.definition id)
decreasing_by
  · exact leadsTo_of_definition _found (PluginGraph.definition_mem_refs.mpr _listed)
  · exact leadsTo_of_definition _found (PluginGraph.connector_mem_refs.mpr _listed)

/-- The result of a connector. In its no-retry window, or when its answer is of no use, it is replaced
by that of its failover; without one, by an empty result, unless it ends the request. -/
def connectorRecord? (resolver : Resolver σ) (start : Progress σ) (now : Instant) (id : String) :
    Option ConnectorRecord :=
  match _found : resolver.connectors.get? id with
  | none => none
  | some connector =>
    let replaced :=
      match _named : connector.settings.failover with
      | some next =>
        (connectorRecord? resolver start now next).map fun record =>
          ⟨id, record.resolvedBy, record.attributes⟩
      | none => if connector.settings.propagateErrors then none else some ⟨id, id, none⟩
    if start.failures.inNoRetryWindow id connector.settings.noRetryDelay now then replaced
    else do
      let shown ← shown? start.resolution connector.settings.dependencies
        (fun dependency _listed => definitionRecord? resolver start now dependency)
        (fun dependency _listed => connectorRecord? resolver start now dependency)
      match usable? connector.settings (connector.fetch shown start.world).1 with
      | some attributes => some ⟨id, id, attributes⟩
      | none => replaced
termination_by resolver.wellFounded.wrap (.connector id)
decreasing_by
  · exact leadsTo_of_failover _found _named
  · exact leadsTo_of_connector _found (PluginGraph.definition_mem_refs.mpr _listed)
  · exact leadsTo_of_connector _found (PluginGraph.connector_mem_refs.mpr _listed)

end

/-- What a plugin with some dependencies is shown in an evaluation. -/
def view? (resolver : Resolver σ) (start : Progress σ) (now : Instant)
    (dependencies : Dependencies) : Option Resolution :=
  shown? start.resolution dependencies (fun id _ => definitionRecord? resolver start now id)
    fun id _ => connectorRecord? resolver start now id

/-- What takes the place of the result of a connector. -/
def replacement? (resolver : Resolver σ) (start : Progress σ) (now : Instant) (id : String)
    (settings : ConnectorSettings) : Option ConnectorRecord :=
  match settings.failover with
  | some next =>
    (connectorRecord? resolver start now next).map fun record =>
      ⟨id, record.resolvedBy, record.attributes⟩
  | none => if settings.propagateErrors then none else some ⟨id, id, none⟩

variable {start : Progress σ} {now : Instant}

/-- A definition is evaluated on what it is shown. -/
theorem definitionRecord?_eq {id : String} {definition : Definition σ}
    (found : resolver.definitions.get? id = some definition) :
    definitionRecord? resolver start now id =
      (view? resolver start now definition.settings.dependencies).map fun shown =>
        ⟨id, (definition.compute shown start.world).1.toOption.join,
          definition.settings.dependencyOnly⟩ := by
  rw [definitionRecord?]
  split
  · rename_i missing
    cases found.symm.trans missing
  · rename_i other same
    cases found.symm.trans same
    rw [view?]
    cases shown? start.resolution definition.settings.dependencies _ _ <;> rfl

/-- A connector is replaced inside its no-retry window, and otherwise evaluated on what it is
shown. -/
theorem connectorRecord?_eq {id : String} {connector : Connector σ}
    (found : resolver.connectors.get? id = some connector) :
    connectorRecord? resolver start now id =
      if start.failures.inNoRetryWindow id connector.settings.noRetryDelay now then
        replacement? resolver start now id connector.settings
      else
        (view? resolver start now connector.settings.dependencies).bind fun shown =>
          match usable? connector.settings (connector.fetch shown start.world).1 with
          | some attributes => some ⟨id, id, attributes⟩
          | none => replacement? resolver start now id connector.settings := by
  have replaced : (match _named : connector.settings.failover with
      | some next => (connectorRecord? resolver start now next).map fun record =>
          (⟨id, record.resolvedBy, record.attributes⟩ : ConnectorRecord)
      | none => if connector.settings.propagateErrors then none else some ⟨id, id, none⟩) =
      replacement? resolver start now id connector.settings := by
    rw [replacement?]
    split <;> simp_all
  rw [connectorRecord?]
  split
  · rename_i missing
    cases found.symm.trans missing
  · rename_i other same
    cases found.symm.trans same
    rw [view?, ← replaced]
    rfl

/-- A walk makes of an answer what an evaluation makes of it. -/
theorem toOption_connectorOutcome (settings : ConnectorSettings) (id : String)
    (answer : Except ResolutionError (Option AttributeMap)) :
    (connectorOutcome settings id answer).toOption = usable? settings answer := by
  cases answer with
  | error error => rfl
  | ok result =>
      let found := result.filter fun attributes => !attributes.isEmpty
      have outcome : (connectorOutcome settings id (.ok result)).toOption =
          if found.isNone && settings.noResultIsError then none else some found := by
        simp only [connectorOutcome, bind, Except.bind]
        split <;> rfl
      rw [outcome]
      cases result with
      | none => rfl
      | some attributes =>
          by_cases nothing : attributes.entries = []
          · have empty : found = none := by simp [found, KeyMap.isEmpty, nothing]
            simp [usable?, empty, nothing]
          · have filled : found = some attributes := by simp [found, KeyMap.isEmpty, nothing]
            simp [usable?, filled, nothing]

/-- When a map has the results of several plugins, an evaluation collects the same. -/
theorem recordsOf?_eq_some {α : Type} {record? : String → Option α} {map : KeyMap α}
    (sound : ∀ id record, map.get? id = some record → record? id = some record)
    {ids : List String} (recorded : ∀ id ∈ ids, map.contains id = true) :
    ∃ records, recordsOf? ids (fun id _ => record? id) = some records ∧
      ∀ id ∈ ids, map.get? id = records.get? id := by
  induction ids with
  | nil => exact ⟨.empty, rfl, fun _ member => (List.not_mem_nil member).elim⟩
  | cons id rest ih =>
      obtain ⟨record, found⟩ := (map.contains_iff id).mp (recorded id List.mem_cons_self)
      obtain ⟨records, collected, agrees⟩ :=
        ih fun other member => recorded other (List.mem_cons_of_mem id member)
      refine ⟨records.insert id record, ?_, fun other member => ?_⟩
      · simp [recordsOf?, sound id record found, collected]
      · rw [KeyMap.get?_insert]
        split
        · rename_i same
          rw [← same, found]
        · rename_i differs
          exact agrees other ((List.mem_cons.mp member).resolve_left (Ne.symm differs))

/-! ## Plugins that depend on what they are shown -/

/-- Two states of a request are the same to a plugin: in the request, in the attributes that came
with it, and in the results of the plugin's dependencies. -/
structure Resolution.AgreesOn (dependencies : Dependencies) (first second : Resolution) : Prop where
  request : first.request = second.request
  inbound : first.inbound = second.inbound
  definitions : ∀ id ∈ dependencies.attributes,
    first.definitions.get? id = second.definitions.get? id
  connectors : ∀ id ∈ dependencies.connectorIds,
    first.connectors.get? id = second.connectors.get? id

/-- What a plugin answers depends on nothing but the request and its dependencies. -/
def Action.DependsOn {α : Type} (dependencies : Dependencies) (action : Action σ α) : Prop :=
  ∀ first second world other, first.AgreesOn dependencies second →
    (action first world).1 = (action second other).1

/-- Each plugin depends on nothing but the request and its dependencies. -/
structure Determined (resolver : Resolver σ) : Prop where
  definitions : ∀ id definition, resolver.definitions.get? id = some definition →
    definition.compute.DependsOn definition.settings.dependencies
  connectors : ∀ id connector, resolver.connectors.get? id = some connector →
    connector.fetch.DependsOn connector.settings.dependencies

/-- States that are the same to a plugin have the same values for it. -/
theorem Resolution.AgreesOn.mergedValues_eq {dependencies : Dependencies}
    {first second : Resolution} (agrees : first.AgreesOn dependencies second) (sourceId : String) :
    first.mergedValues dependencies sourceId = second.mergedValues dependencies sourceId := by
  have definitions : ∀ id ∈ dependencies.attributes,
      valuesOf (first.definedAttribute? id) = valuesOf (second.definedAttribute? id) := by
    intro id listed
    rw [definedAttribute?, definedAttribute?, agrees.definitions id listed]
  have connectors : ∀ dependency ∈ dependencies.connectors,
      first.connectorValues sourceId dependency = second.connectorValues sourceId dependency := by
    intro dependency listed
    rw [connectorValues, connectorValues, fetchedAttributes?, fetchedAttributes?,
      agrees.connectors dependency.connectorId (List.mem_map.mpr ⟨dependency, listed, rfl⟩)]
  rw [mergedValues, mergedValues, List.flatMap_congr definitions, List.flatMap_congr connectors]

/-- Definitions of all kinds depend on nothing but the request and their dependencies. -/
theorem DefinitionKind.toDefinition_dependsOn (kind : DefinitionKind)
    (settings : DefinitionSettings) :
    (kind.toDefinition settings : Definition σ).compute.DependsOn settings.dependencies := by
  intro first second world other agrees
  have values : kind.values settings first = kind.values settings second := by
    cases kind <;> simp only [DefinitionKind.values, DefinitionKind.values.merged,
      agrees.mergedValues_eq, agrees.request, agrees.inbound]
  simp only [toDefinition, Action.pure, compute, values]

theorem Action.pure_dependsOn {α : Type} (dependencies : Dependencies)
    (answer : Except ResolutionError α) :
    (Action.pure fun _ => answer : Action σ α).DependsOn dependencies :=
  fun _ _ _ _ _ => rfl

end AttributeRelease.Resolver
