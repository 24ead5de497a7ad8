import AttributeRelease.Proofs.Graph.Acceptance
import AttributeRelease.Proofs.Walk.Runs

/-!
# Walks along an accepted graph

A walk goes along the references of the graph that was accepted with the resolver. Since these lead
in no circle, it never enters a plugin that it is inside of, and never goes deeper than there are
plugins (`resolve_not_reentered`): what keeps a walk from running on forever does not cut one short.
-/

namespace AttributeRelease.Resolver

variable {σ : Type} {resolver : Resolver σ} {clock : σ → Instant × σ}

/-! ## The graph of a resolver -/

/-- A resolver is only built of plugins whose graph was accepted. -/
theorem wellFormed (resolver : Resolver σ) : resolver.graph.WellFormed :=
  PluginGraph.wellFormed_of_check resolver.accepted

/-- References between the plugins of a resolver are well-founded. -/
theorem wellFounded (resolver : Resolver σ) :
    WellFounded fun next ref => resolver.graph.LeadsTo ref next :=
  PluginGraph.wellFounded_of_check resolver.accepted

/-- The graph has the plugins of the resolver. -/
theorem has_graph (resolver : Resolver σ) (ref : PluginRef) :
    resolver.graph.has ref = hasPlugin resolver ref := by
  cases ref <;> simp [PluginGraph.has, hasPlugin, graph, graphOf, KeyMap.contains]

/-- The dependencies in the graph are those in the settings of the definition. -/
theorem declares_definition_iff {id : String} {definition : Definition σ} {next : PluginRef}
    (found : resolver.definitions.get? id = some definition) :
    resolver.graph.Declares (.definition id) next ↔
      next ∈ definition.settings.dependencies.refs := by
  simp [PluginGraph.declares_iff, PluginGraph.dependencies?, graph, graphOf, found]

theorem declares_connector_iff {id : String} {connector : Connector σ} {next : PluginRef}
    (found : resolver.connectors.get? id = some connector) :
    resolver.graph.Declares (.connector id) next ↔
      next ∈ connector.settings.dependencies.refs := by
  simp [PluginGraph.declares_iff, PluginGraph.dependencies?, graph, graphOf, found]

/-- A connector fails over to the connector in its settings. -/
theorem failsOver_iff {id next : String} {connector : Connector σ}
    (found : resolver.connectors.get? id = some connector) :
    resolver.graph.FailsOver id next ↔ connector.settings.failover = some next := by
  simp [PluginGraph.FailsOver, graph, graphOf, found]

theorem leadsTo_of_definition {id : String} {definition : Definition σ} {next : PluginRef}
    (found : resolver.definitions.get? id = some definition)
    (listed : next ∈ definition.settings.dependencies.refs) :
    resolver.graph.LeadsTo (.definition id) next :=
  .dependency ((declares_definition_iff found).mpr listed)

theorem leadsTo_of_connector {id : String} {connector : Connector σ} {next : PluginRef}
    (found : resolver.connectors.get? id = some connector)
    (listed : next ∈ connector.settings.dependencies.refs) :
    resolver.graph.LeadsTo (.connector id) next :=
  .dependency ((declares_connector_iff found).mpr listed)

theorem leadsTo_of_failover {id next : String} {connector : Connector σ}
    (found : resolver.connectors.get? id = some connector)
    (named : connector.settings.failover = some next) :
    resolver.graph.LeadsTo (.connector id) (.connector next) :=
  .failover ((failsOver_iff found).mpr named)

/-! ## No way leads back -/

/-- The plugins that an errand visits. -/
def Errand.targets : Errand → List PluginRef
  | .visit ref => [ref]
  | .visitAll refs => refs
  | .replace _ settings _ => settings.failover.toList.map .connector

/-- The known plugins among some are those that a way leads to. -/
def Reaches (resolver : Resolver σ) (inside refs : List PluginRef) : Prop :=
  ∀ ref ∈ refs, hasPlugin resolver ref = true → resolver.graph.WayTo inside ref

/-- Any plugin is reached from outside. -/
theorem reaches_root (refs : List PluginRef) : Reaches resolver [] refs := fun ref _ known =>
  PluginGraph.wayTo_root ((resolver.has_graph ref).trans known)

/-- Inside of a plugin those that it leads to are reached. -/
theorem Reaches.enter {inside refs nexts : List PluginRef} {ref : PluginRef}
    (reaches : Reaches resolver inside refs) (member : ref ∈ refs)
    (known : hasPlugin resolver ref = true) (outside : ref ∉ inside)
    (leads : ∀ next ∈ nexts, resolver.graph.LeadsTo ref next) :
    Reaches resolver (ref :: inside) nexts := fun next listed knownNext =>
  (reaches ref member known).extend outside (leads next listed)
    ((resolver.has_graph next).trans knownNext)

/-- A definition leads to its dependencies. -/
theorem Reaches.enterDefinition {inside : List PluginRef} {id : String}
    {definition : Definition σ} (reaches : Reaches resolver inside [.definition id])
    (found : resolver.definitions.get? id = some definition)
    (outside : .definition id ∉ inside) :
    Reaches resolver (.definition id :: inside) definition.settings.dependencies.refs :=
  reaches.enter (List.mem_singleton_self _) ((resolver.definitions.contains_iff id).mpr ⟨_, found⟩)
    outside fun _ member => leadsTo_of_definition found member

/-- A connector leads to its dependencies and to its failover. -/
theorem Reaches.enterConnector {inside : List PluginRef} {id : String}
    {connector : Connector σ} (reaches : Reaches resolver inside [.connector id])
    (found : resolver.connectors.get? id = some connector)
    (outside : .connector id ∉ inside) :
    Reaches resolver (.connector id :: inside)
      (connector.settings.dependencies.refs ++
        connector.settings.failover.toList.map .connector) := by
  refine reaches.enter (List.mem_singleton_self _)
    ((resolver.connectors.contains_iff id).mpr ⟨_, found⟩) outside fun next member => ?_
  rcases List.mem_append.mp member with dependency | failover
  · exact leadsTo_of_connector found dependency
  · obtain ⟨other, named, rfl⟩ := List.mem_map.mp failover
    exact leadsTo_of_failover found (Option.mem_toList.mp named)

theorem Reaches.mono {inside refs others : List PluginRef}
    (reaches : Reaches resolver inside refs) (fewer : others ⊆ refs) :
    Reaches resolver inside others := fun ref member => reaches ref (fewer member)

/-- A walk along an accepted graph is never stuck. -/
theorem Runs.not_reentered {inside : List PluginRef} {errand : Errand}
    {before after : Progress σ} {outcome : Except Halt Unit}
    (runs : Runs resolver clock inside errand before outcome after)
    (reaches : Reaches resolver inside errand.targets) (plugin : PluginRef) :
    outcome ≠ .error (.reentered plugin) := by
  induction runs with
  | stuck known round =>
      have wayTo := reaches _ (List.mem_singleton_self _) known
      have outside := wayTo.outside resolver.wellFormed.acyclic
      rcases round with again | exhausted
      · exact absurd again outside
      · exact absurd exhausted (Nat.not_le.mpr (wayTo.length_lt outside))
  | definitionHalted found _ outside _ ih =>
      exact ih (reaches.enterDefinition found outside)
  | passedOver found _ outside _ _ _ ih =>
      exact ih ((reaches.enterConnector found outside).mono (List.subset_append_right _ _))
  | connectorHalted found _ outside _ _ _ ih =>
      exact ih ((reaches.enterConnector found outside).mono (List.subset_append_left _ _))
  | fetchFailed found _ outside _ _ _ _ _ _ ih =>
      exact ih ((reaches.enterConnector found outside).mono (List.subset_append_right _ _))
  | failoverHalted named _ ih => exact ih (by simpa [Errand.targets, named] using reaches)
  | next _ _ _ ih => exact ih (reaches.mono (List.subset_cons_self _ _))
  | halted _ ih => exact ih (reaches.mono (by simp [Errand.targets]))
  | propagated => nofun
  | idle | definition | fetched | failedOver | absorbed | done => nofun

/-- No request ends because a plugin is entered again. -/
theorem resolve_not_reentered (resolver : Resolver σ) (clock : σ → Instant × σ)
    (progress : Progress σ) (plugin : PluginRef) :
    (resolve resolver clock progress).1 ≠ .error (.reentered plugin) := by
  have never : (resolve resolver clock).Obeys fun _ outcome _ =>
      outcome ≠ .error (.reentered plugin) := by
    refine resolve_obeys (fun _ second => second) (fun refs progress => ?_) fun _ _ _ => nofun
    exact (runs_visitAll refs progress).not_reentered (reaches_root refs) plugin
  exact never progress

end AttributeRelease.Resolver
