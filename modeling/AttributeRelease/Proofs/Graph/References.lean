import AttributeRelease.Resolver.Graph
import Mathlib.Data.List.Chain
import Mathlib.Data.List.Nodup
import Mathlib.Data.List.Perm.Subperm
import Mathlib.Logic.Relation

/-!
# References between plugins

A plugin declares dependencies on definitions and on connectors, and a connector may fail over to
another connector. `PluginGraph.LeadsTo` is the one relation made of the three kinds of references,
and `PluginGraph.WellFormed` says what a graph must be like for requests to be resolved along it:
every reference leads to a plugin of its kind, and no way along references comes back to where it
has been. `PluginGraph.Describes` says what each error about a graph claims of it; none of these
claims holds of a well-formed graph (`PluginGraph.WellFormed.not_describes`).
-/

namespace AttributeRelease.Resolver.PluginGraph

variable {graph : PluginGraph}

/-- The dependencies of a plugin. -/
def dependencies? (graph : PluginGraph) : PluginRef → Option Dependencies
  | .definition id => graph.definitions.get? id
  | .connector id => (graph.connectors.get? id).map ConnectorNode.dependencies

/-- A plugin declares a dependency on another. -/
inductive Declares (graph : PluginGraph) (ref : PluginRef) : PluginRef → Prop
  | onDefinition {dependencies : Dependencies} {id : String}
      (found : graph.dependencies? ref = some dependencies)
      (listed : id ∈ dependencies.attributes) : Declares graph ref (.definition id)
  | onConnector {dependencies : Dependencies} {id : String}
      (found : graph.dependencies? ref = some dependencies)
      (listed : id ∈ dependencies.connectorIds) : Declares graph ref (.connector id)

/-- A connector names another as its failover. -/
def FailsOver (graph : PluginGraph) (id next : String) : Prop :=
  (graph.connectors.get? id).bind ConnectorNode.failover = some next

/-- A plugin refers to another, as a dependency or as its failover. -/
inductive LeadsTo (graph : PluginGraph) : PluginRef → PluginRef → Prop
  | dependency {ref next : PluginRef} (declared : graph.Declares ref next) :
      LeadsTo graph ref next
  | failover {id next : String} (named : graph.FailsOver id next) :
      LeadsTo graph (.connector id) (.connector next)

/-- A graph along which requests can be resolved. -/
structure WellFormed (graph : PluginGraph) : Prop where
  kinds_disjoint : ∀ id, ¬ (graph.definitions.contains id ∧ graph.connectors.contains id)
  dependencies_known : ∀ ref next, graph.Declares ref next → graph.has next
  failover_known : ∀ id next, graph.FailsOver id next → graph.connectors.contains next
  failover_simple : ∀ way : List String, way.IsChain graph.FailsOver → way.Nodup
  acyclic : ∀ ref, ¬ Relation.TransGen graph.LeadsTo ref ref

/-- What an error about a graph says of it. A path is given by the ids of its plugins. -/
def Describes (graph : PluginGraph) : ConfigError → Prop
  | .idCollision id => graph.definitions.contains id ∧ graph.connectors.contains id
  | .missingDependency pluginId dependencyId =>
    ∃ ref next : PluginRef, ref.id = pluginId ∧ next.id = dependencyId ∧
      graph.Declares ref next ∧ ¬ graph.has next
  | .unknownFailover connectorId failoverId =>
    graph.FailsOver connectorId failoverId ∧ ¬ graph.connectors.contains failoverId
  | .failoverLoop path =>
    ∃ way last, path = way ++ [last] ∧ last ∈ way ∧ path.IsChain graph.FailsOver
  | .circularDependency path =>
    ∃ (ref : PluginRef) (between : List PluginRef),
      path = (ref :: between ++ [ref]).map PluginRef.id ∧
        (ref :: between ++ [ref]).IsChain graph.LeadsTo
  | .duplicatePlugin _ => False
  | .invalidPlugin _ _ => False
  | .invalidPattern _ _ => False

/-! ## References as they are listed -/

theorem mem_refs_iff {dependencies : Dependencies} {next : PluginRef} :
    next ∈ dependencies.refs ↔
      (∃ id ∈ dependencies.attributes, next = .definition id) ∨
        ∃ id ∈ dependencies.connectorIds, next = .connector id := by
  simp only [Dependencies.refs, List.mem_append, List.mem_map, eq_comm]

theorem definition_mem_refs {dependencies : Dependencies} {id : String} :
    .definition id ∈ dependencies.refs ↔ id ∈ dependencies.attributes := by
  simp [mem_refs_iff]

theorem connector_mem_refs {dependencies : Dependencies} {id : String} :
    .connector id ∈ dependencies.refs ↔ id ∈ dependencies.connectorIds := by
  simp [mem_refs_iff]

/-- The dependencies a plugin declares are those it lists. -/
theorem declares_iff {ref next : PluginRef} :
    graph.Declares ref next ↔
      ∃ dependencies, graph.dependencies? ref = some dependencies ∧ next ∈ dependencies.refs := by
  constructor
  · intro declared
    cases declared with
    | onDefinition found listed => exact ⟨_, found, mem_refs_iff.mpr (.inl ⟨_, listed, rfl⟩)⟩
    | onConnector found listed => exact ⟨_, found, mem_refs_iff.mpr (.inr ⟨_, listed, rfl⟩)⟩
  · rintro ⟨dependencies, found, member⟩
    rcases mem_refs_iff.mp member with ⟨id, listed, rfl⟩ | ⟨id, listed, rfl⟩
    · exact .onDefinition found listed
    · exact .onConnector found listed

/-- The edges of a plugin are the plugins it leads to. -/
theorem mem_edges_iff {ref next : PluginRef} : next ∈ graph.edges ref ↔ graph.LeadsTo ref next := by
  cases ref with
  | definition id =>
      have edges_eq : next ∈ graph.edges (.definition id) ↔
          graph.Declares (.definition id) next := by
        rw [declares_iff]
        cases found : graph.definitions.get? id <;> simp [edges, dependencies?, found]
      rw [edges_eq]
      refine ⟨.dependency, fun leads => ?_⟩
      cases leads with
      | dependency declared => exact declared
  | connector id =>
      have edges_eq : next ∈ graph.edges (.connector id) ↔
          (∃ other, graph.FailsOver id other ∧ next = .connector other) ∨
            graph.Declares (.connector id) next := by
        rw [declares_iff]
        cases found : graph.connectors.get? id with
        | none => simp [edges, dependencies?, FailsOver, found]
        | some node => simp [edges, dependencies?, FailsOver, found, eq_comm]
      rw [edges_eq]
      constructor
      · rintro (⟨other, named, rfl⟩ | declared)
        · exact .failover named
        · exact .dependency declared
      · intro leads
        cases leads with
        | dependency declared => exact .inr declared
        | failover named => exact .inl ⟨_, named, rfl⟩

/-! ## Plugins of a graph -/

/-- The plugins of a graph are those it has. -/
theorem mem_plugins_iff {ref : PluginRef} : ref ∈ graph.plugins ↔ graph.has ref := by
  cases ref <;> simp [plugins, has, KeyMap.mem_keys_iff]

theorem has_of_dependencies? {ref : PluginRef} {dependencies : Dependencies}
    (found : graph.dependencies? ref = some dependencies) : graph.has ref := by
  cases ref with
  | definition id => exact (graph.definitions.contains_iff id).mpr ⟨_, found⟩
  | connector id =>
      obtain ⟨node, found, -⟩ := Option.map_eq_some_iff.mp found
      exact (graph.connectors.contains_iff id).mpr ⟨node, found⟩

/-! ## Ways along references -/

/-- A chain of failovers is a way in the graph. -/
theorem isChain_connectors {way : List String} (chain : way.IsChain graph.FailsOver) :
    (way.map PluginRef.connector).IsChain graph.LeadsTo :=
  (List.isChain_map _).mpr (chain.imp fun _ _ named => .failover named)

/-- From the start of a way to its end there is a sequence of references. -/
theorem transGen_of_isChain {ref last : PluginRef} {between : List PluginRef}
    (chain : (ref :: between ++ [last]).IsChain graph.LeadsTo) :
    Relation.TransGen graph.LeadsTo ref last := by
  induction between generalizing ref with
  | nil => exact .single (List.isChain_pair.mp chain)
  | cons next rest ih =>
      obtain ⟨first, others⟩ := List.isChain_cons_cons.mp chain
      exact .head first (ih others)

/-- Where no way comes back to its start, no way meets a plugin twice. -/
theorem nodup_of_isChain (acyclic : ∀ ref, ¬ Relation.TransGen graph.LeadsTo ref ref)
    {way : List PluginRef} (chain : way.IsChain graph.LeadsTo) : way.Nodup := by
  induction way with
  | nil => exact List.nodup_nil
  | cons ref rest ih =>
      refine List.nodup_cons.mpr ⟨fun again => ?_, ih chain.tail⟩
      obtain ⟨between, after, split⟩ := List.append_of_mem again
      have whole : (ref :: between ++ [ref]) ++ after = ref :: rest := by
        rw [split, List.append_assoc, List.singleton_append, List.cons_append]
      rw [← whole] at chain
      exact acyclic ref (transGen_of_isChain chain.left_of_append)

/-! ## Inside of plugins -/

/-- A way along references to a plugin. The plugins met before it are given backwards. -/
structure WayTo (graph : PluginGraph) (way : List PluginRef) (ref : PluginRef) : Prop where
  chain : (ref :: way).IsChain fun next previous => graph.LeadsTo previous next
  known : ∀ other ∈ ref :: way, graph.has other
  distinct : way.Nodup

theorem wayTo_root {ref : PluginRef} (known : graph.has ref) : graph.WayTo [] ref where
  chain := List.isChain_singleton ref
  known := by simpa using known
  distinct := List.nodup_nil

/-- A way to a plugin goes on to those that the plugin leads to. -/
theorem WayTo.extend {way : List PluginRef} {ref next : PluginRef} (wayTo : graph.WayTo way ref)
    (outside : ref ∉ way) (leads : graph.LeadsTo ref next) (known : graph.has next) :
    graph.WayTo (ref :: way) next where
  chain := List.isChain_cons_cons.mpr ⟨leads, wayTo.chain⟩
  known := fun other member => by
    rcases List.mem_cons.mp member with rfl | earlier
    · exact known
    · exact wayTo.known other earlier
  distinct := List.nodup_cons.mpr ⟨outside, wayTo.distinct⟩

/-- A way to another plugin does not meet all plugins. -/
theorem WayTo.length_lt {way : List PluginRef} {ref : PluginRef} (wayTo : graph.WayTo way ref)
    (outside : ref ∉ way) : way.length < graph.plugins.length := by
  have distinct : (ref :: way).Nodup := List.nodup_cons.mpr ⟨outside, wayTo.distinct⟩
  have contained : ref :: way ⊆ graph.plugins := fun other member =>
    mem_plugins_iff.mpr (wayTo.known other member)
  exact (List.subperm_of_subset distinct contained).length_le

/-- Where no way comes back to its start, none leads to a plugin that it has met. -/
theorem WayTo.outside (acyclic : ∀ ref, ¬ Relation.TransGen graph.LeadsTo ref ref)
    {way : List PluginRef} {ref : PluginRef} (wayTo : graph.WayTo way ref) : ref ∉ way := by
  have forwards := nodup_of_isChain acyclic (List.isChain_reverse.mpr wayTo.chain)
  exact (List.nodup_cons.mp (List.nodup_reverse.mp forwards)).1

/-! ## Errors -/

/-- No error tells something true of a well-formed graph. -/
theorem WellFormed.not_describes (wellFormed : graph.WellFormed) (error : ConfigError) :
    ¬ graph.Describes error := by
  intro described
  cases error with
  | duplicatePlugin => exact described
  | idCollision id => exact wellFormed.kinds_disjoint id described
  | missingDependency =>
      obtain ⟨ref, next, -, -, declared, missing⟩ := described
      exact missing (wellFormed.dependencies_known ref next declared)
  | circularDependency =>
      obtain ⟨ref, between, -, chain⟩ := described
      exact wellFormed.acyclic ref (transGen_of_isChain chain)
  | unknownFailover connectorId failoverId =>
      exact described.2 (wellFormed.failover_known connectorId failoverId described.1)
  | failoverLoop =>
      obtain ⟨way, last, rfl, again, chain⟩ := described
      have distinct := wellFormed.failover_simple _ chain
      exact (List.nodup_append.mp distinct).2.2 last again last (List.mem_singleton_self last) rfl
  | invalidPlugin => exact described
  | invalidPattern => exact described

end AttributeRelease.Resolver.PluginGraph
