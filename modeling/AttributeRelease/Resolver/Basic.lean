import AttributeRelease.Resolver.Failure
import AttributeRelease.Resolver.Resolution

/-!
# Resolvers

A resolver is a graph of plugins that was checked. Plugins read the state of the request and may
read and change the world around them, of some type `σ`: the sources connectors ask, their caches,
the clock.
-/

namespace AttributeRelease.Resolver

variable {σ : Type}

/-- What a plugin does: it looks at the state of the request and acts on the world. -/
abbrev Action (σ α : Type) := Resolution → σ → Except ResolutionError α × σ

/-- An action that leaves the world alone. -/
def Action.pure {α : Type} (answer : Resolution → Except ResolutionError α) : Action σ α :=
  fun resolution world => (answer resolution, world)

/-- An attribute definition. -/
structure Definition (σ : Type) where
  settings : DefinitionSettings
  compute : Action σ (Option Attribute)

/-- A data connector. -/
structure Connector (σ : Type) where
  settings : ConnectorSettings
  fetch : Action σ (Option AttributeMap)

/-- The graph of definitions and connectors. -/
def graphOf (definitions : KeyMap (Definition σ)) (connectors : KeyMap (Connector σ)) :
    PluginGraph where
  definitions := definitions.mapValues fun _ definition => definition.settings.dependencies
  connectors := connectors.mapValues fun _ connector =>
    ⟨connector.settings.dependencies, connector.settings.failover⟩

end Resolver

open Resolver

/-- A resolver: plugins under their ids, whose graph is accepted. -/
structure Resolver (σ : Type) where
  id : String
  definitions : KeyMap (Definition σ)
  connectors : KeyMap (Connector σ)
  stripNulls : Bool
  suppressDisplay : Bool
  definitions_keyed : ∀ key definition,
    definitions.get? key = some definition → definition.settings.id = key
  connectors_keyed : ∀ key connector,
    connectors.get? key = some connector → connector.settings.id = key
  accepted : (graphOf definitions connectors).check = .ok ()

namespace Resolver

variable {σ : Type}

/-- The plugins a resolver is built from. -/
structure Blueprint (σ : Type) where
  id : String
  definitions : List (Definition σ) := []
  connectors : List (Connector σ) := []
  stripNulls : Bool := false
  suppressDisplay : Bool := false

/-- A map in which everything stands under its own id. -/
abbrev Keyed {α : Type} (idOf : α → String) :=
  { map : KeyMap α // ∀ key item, map.get? key = some item → idOf item = key }

/-- The map in which nothing stands. -/
def Keyed.empty {α : Type} {idOf : α → String} : Keyed idOf :=
  ⟨.empty, fun _ _ found => nomatch found⟩

/-- Puts one more item under its id. -/
def Keyed.add {α : Type} {idOf : α → String} (map : Keyed idOf) (item : α) : Keyed idOf :=
  ⟨map.1.insert (idOf item) item, KeyMap.holds_of_get?_insert rfl map.2⟩

/-- Puts items under their ids, which must differ. -/
def Keyed.addAll? {α : Type} {idOf : α → String} (map : Keyed idOf) :
    List α → Except ConfigError (Keyed idOf)
  | [] => .ok map
  | item :: rest =>
    if map.1.contains (idOf item) then .error (.duplicatePlugin (idOf item))
    else (map.add item).addAll? rest

/-- The map of items under their ids, which must differ. -/
def Keyed.ofList? {α : Type} (idOf : α → String) (items : List α) :
    Except ConfigError (Keyed idOf) :=
  Keyed.addAll? .empty items

/-- Builds a resolver: ids within definitions and within connectors must differ, and the graph must
be accepted. -/
def Blueprint.build (blueprint : Blueprint σ) : Except ConfigError (Resolver σ) := do
  let definitions ← Keyed.ofList? (fun d : Definition σ => d.settings.id) blueprint.definitions
  let connectors ← Keyed.ofList? (fun c : Connector σ => c.settings.id) blueprint.connectors
  match accepted : (graphOf definitions.1 connectors.1).check with
  | .ok () =>
    return {
      id := blueprint.id
      definitions := definitions.1
      connectors := connectors.1
      stripNulls := blueprint.stripNulls
      suppressDisplay := blueprint.suppressDisplay
      definitions_keyed := definitions.2
      connectors_keyed := connectors.2
      accepted }
  | .error error => throw error

/-- A log of failures with a slot for every connector. -/
def newFailureLog (resolver : Resolver σ) : FailureLog := .new resolver.connectors.keys

end Resolver

end AttributeRelease
