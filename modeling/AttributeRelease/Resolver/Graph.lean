import AttributeRelease.Resolver.Error
import AttributeRelease.Resolver.Settings

/-!
# The graph of plugins

Plugins depend on one another, and connectors fail over to others. `PluginGraph.check` accepts a
graph when ids are not shared between definitions and connectors, every reference leads to a plugin
of the right kind, and neither failover references nor all references together lead in a circle.
Otherwise its error tells of a reference or of a circle that is there.
-/

namespace AttributeRelease.Resolver

/-- A plugin by its kind and id. -/
inductive PluginRef where
  | definition (id : String)
  | connector (id : String)
  deriving DecidableEq, Repr

/-- The id of a plugin. -/
def PluginRef.id : PluginRef → String
  | .definition id => id
  | .connector id => id

/-- The plugins that dependencies lead to, in the order in which they are visited. -/
def Dependencies.refs (dependencies : Dependencies) : List PluginRef :=
  dependencies.attributes.map .definition ++ dependencies.connectorIds.map .connector

/-- What the graph knows of a connector. -/
structure ConnectorNode where
  dependencies : Dependencies
  failover : Option String

/-- Plugins and their references. -/
structure PluginGraph where
  definitions : KeyMap Dependencies
  connectors : KeyMap ConnectorNode

namespace PluginGraph

/-- Whether there is such a plugin. -/
def has (graph : PluginGraph) : PluginRef → Bool
  | .definition id => graph.definitions.contains id
  | .connector id => graph.connectors.contains id

/-- All plugins, definitions first. -/
def plugins (graph : PluginGraph) : List PluginRef :=
  graph.definitions.keys.map .definition ++ graph.connectors.keys.map .connector

/-- The plugins that a plugin refers to; a failover reference comes first. -/
def edges (graph : PluginGraph) : PluginRef → List PluginRef
  | .definition id => ((graph.definitions.get? id).map Dependencies.refs).getD []
  | .connector id =>
    match graph.connectors.get? id with
    | some node => node.failover.toList.map .connector ++ node.dependencies.refs
    | none => []

/-- The first dependency that leads nowhere. -/
def missing? (graph : PluginGraph) (dependencies : Dependencies) : Option PluginRef :=
  dependencies.refs.find? fun ref => !graph.has ref

/-- Checks that the dependencies of plugins lead to plugins. -/
def checkDependencies (graph : PluginGraph) : List (String × Dependencies) → Except ConfigError Unit
  | [] => .ok ()
  | (id, dependencies) :: rest =>
    match graph.missing? dependencies with
    | some ref => .error (.missingDependency id ref.id)
    | none => checkDependencies graph rest

/-- Follows failover references from a connector that was reached through others, given backwards;
the fuel is the number of connectors. -/
def followFailover (graph : PluginGraph) :
    Nat → (current : String) → (before : List String) → Except ConfigError Unit
  | fuel, current, before =>
    match (graph.connectors.get? current).bind ConnectorNode.failover with
    | none => .ok ()
    | some next =>
      if !graph.connectors.contains next then .error (.unknownFailover current next)
      else if next ∈ current :: before then
        .error (.failoverLoop ((next :: current :: before).reverse))
      else
        match fuel with
        | 0 => .ok ()
        | fuel + 1 => followFailover graph fuel next (current :: before)

/-- Checks the failover references of connectors. -/
def checkFailover (graph : PluginGraph) : List String → Except ConfigError Unit
  | [] => .ok ()
  | id :: rest => do
    graph.followFailover graph.connectors.keys.length id []
    checkFailover graph rest

/-- Visits several plugins in order, each with the plugins found to be free of circles before. -/
def visitEach (visit : PluginRef → List PluginRef → Except ConfigError (List PluginRef)) :
    List PluginRef → List PluginRef → Except ConfigError (List PluginRef)
  | [], done => .ok done
  | ref :: rest, done => do visitEach visit rest (← visit ref done)

/-- Looks for a circle from a plugin on. The plugins on the way there are given backwards, and
`done` holds plugins known not to lead to a circle. -/
def visit (graph : PluginGraph) : Nat → (way : List PluginRef) → PluginRef →
    (done : List PluginRef) → Except ConfigError (List PluginRef)
  | fuel, way, ref, done =>
    if ref ∈ done then .ok done
    else if ref ∈ way then
      let circle := (way.takeWhile fun other => other != ref).reverse
      .error (.circularDependency ((ref :: circle ++ [ref]).map PluginRef.id))
    else
      match fuel with
      | 0 => .ok done
      | fuel + 1 => do
        return ref :: (← visitEach (visit graph fuel (ref :: way)) (graph.edges ref) done)

/-- Accepts the graph or says what is wrong with it. -/
def check (graph : PluginGraph) : Except ConfigError Unit := do
  match graph.definitions.keys.find? graph.connectors.contains with
  | some id => throw (.idCollision id)
  | none => pure ()
  graph.checkDependencies graph.definitions.entries
  graph.checkDependencies
    (graph.connectors.entries.map fun entry => (entry.1, entry.2.dependencies))
  graph.checkFailover graph.connectors.keys
  let _ ← visitEach (graph.visit graph.plugins.length []) graph.plugins []
  return ()

end PluginGraph

end AttributeRelease.Resolver
