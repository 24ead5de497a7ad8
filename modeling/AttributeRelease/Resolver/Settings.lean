import AttributeRelease.Json.Reader

/-!
# Settings of plugins

Attribute definitions compute one attribute each, data connectors fetch several from a source. Their
settings say what they depend on, how failures are handled, and what of their results is released
and how it is displayed.
-/

namespace AttributeRelease.Resolver

/-- A dependency on a connector, on all of its attributes or on some. -/
structure ConnectorDependency where
  connectorId : String
  attributeIds : List String := []
  deriving DecidableEq, Repr

/-- What a plugin depends on. -/
structure Dependencies where
  attributes : List String := []
  connectors : List ConnectorDependency := []
  deriving DecidableEq, Repr, Inhabited

namespace Dependencies

/-- The ids of the connectors. -/
def connectorIds (dependencies : Dependencies) : List String :=
  dependencies.connectors.map ConnectorDependency.connectorId

/-- Whether there is no dependency. -/
def isEmpty (dependencies : Dependencies) : Bool :=
  dependencies.attributes.isEmpty && dependencies.connectors.isEmpty

end Dependencies

/-- The settings of an attribute definition. -/
structure DefinitionSettings where
  id : String
  dependencies : Dependencies := {}
  dependencyOnly : Bool := false
  preRequested : Bool := false
  sourceAttribute : Option String := none
  displayNames : KeyMap String := ∅
  displayDescriptions : KeyMap String := ∅

/-- The attribute a definition reads from connectors, named after the definition by default. -/
def DefinitionSettings.sourceId (settings : DefinitionSettings) : String :=
  settings.sourceAttribute.getD settings.id

/-- Which attributes of a connector are released without a definition. -/
inductive ExportPolicy where
  | none
  | all
  | named (ids : KeySet)

namespace ExportPolicy

/-- Whether anything can be exported. -/
def isExporting : ExportPolicy → Bool
  | .none => false
  | .all => true
  | .named ids => !ids.isEmpty

/-- Whether an attribute is exported. -/
def exports (policy : ExportPolicy) (attributeId : String) : Bool :=
  match policy with
  | .none => false
  | .all => true
  | .named ids => ids.contains attributeId

/-- An attribute may be released without a definition: all may, or the named ones may and this is one
of them. -/
inductive Permits : ExportPolicy → String → Prop
  | all (attributeId : String) : Permits .all attributeId
  | named {ids : KeySet} {attributeId : String} (listed : attributeId ∈ ids.members) :
      Permits (.named ids) attributeId

theorem exports_iff {policy : ExportPolicy} {attributeId : String} :
    policy.exports attributeId = true ↔ policy.Permits attributeId := by
  constructor
  · intro exports
    cases policy with
    | none => cases exports
    | all => exact .all attributeId
    | named ids => exact .named ((ids.mem_keys_iff attributeId).mpr exports)
  · intro permits
    cases permits with
    | all => rfl
    | named listed => exact (KeyMap.mem_keys_iff _ attributeId).mp listed

/-- Something is exported when some attribute may be. -/
theorem isExporting_iff {policy : ExportPolicy} :
    policy.isExporting = true ↔ ∃ attributeId, policy.Permits attributeId := by
  constructor
  · intro exporting
    cases policy with
    | none => cases exporting
    | all => exact ⟨"", .all ""⟩
    | named ids =>
        obtain ⟨list, sorted⟩ := ids
        cases list with
        | nil => cases exporting
        | cons entry rest => exact ⟨entry.1, .named List.mem_cons_self⟩
  · rintro ⟨attributeId, permits⟩
    cases permits with
    | all => rfl
    | @named ids _ listed =>
        obtain ⟨list, sorted⟩ := ids
        cases list with
        | nil => cases listed
        | cons entry rest => rfl

def toJson : ExportPolicy → Json
  | .none => .string "none"
  | .all => .string "all"
  | .named ids => .object [("named", Json.ofList .string ids.members)]

/-- Reads a policy: a name, or the names of attributes. -/
def ofJson? (document : Json) : Option ExportPolicy :=
  match document with
  | .object [("named", ids)] => ids.set?.map .named
  | _ => document.name? .direct [("none", .none), ("all", .all)]

end ExportPolicy

/-- A length of time in nanoseconds. -/
abbrev Duration := Nat

/-- Nanoseconds in a millisecond. -/
def nanosPerMilli : Nat := 1000000

/-- The settings of a data connector. -/
structure ConnectorSettings where
  id : String
  dependencies : Dependencies := {}
  failover : Option String := none
  noRetryDelay : Duration := 0
  propagateErrors : Bool := true
  noResultIsError : Bool := false
  exported : ExportPolicy := .none
  displayNames : KeyMap (KeyMap String) := ∅
  displayDescriptions : KeyMap (KeyMap String) := ∅

/-! ## As documents -/

def ConnectorDependency.toJson (dependency : ConnectorDependency) : Json :=
  .object [("connector_id", .string dependency.connectorId),
    ("attribute_ids", Json.ofList .string dependency.attributeIds)]

def ConnectorDependency.ofJson? (document : Json) : Option ConnectorDependency := do
  let [connectorId, attributeIds] ← document.record? ["connector_id", "attribute_ids"] | none
  return {
    connectorId := ← Json.required Json.text? connectorId
    attributeIds := ← Json.orDefault [] (Json.list? Json.text?) attributeIds }

def Dependencies.toJson (dependencies : Dependencies) : Json :=
  .object [("attributes", Json.ofList .string dependencies.attributes),
    ("connectors", Json.ofList ConnectorDependency.toJson dependencies.connectors)]

def Dependencies.ofJson? (document : Json) : Option Dependencies := do
  let [attributes, connectors] ← document.record? ["attributes", "connectors"] | none
  return {
    attributes := ← Json.orDefault [] (Json.list? Json.text?) attributes
    connectors := ← Json.orDefault [] (Json.list? ConnectorDependency.ofJson?) connectors }

end AttributeRelease.Resolver
