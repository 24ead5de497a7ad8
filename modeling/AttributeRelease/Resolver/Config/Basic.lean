import AttributeRelease.Resolver.ComputedId
import AttributeRelease.Resolver.Definitions

/-!
# Configuration of resolvers

A configuration lists definitions and connectors of known kinds. It becomes a blueprint, to which
plugins that talk to sources of their own may be added before the resolver is built. Plugins are
prepared in order, and the first that cannot be prepared decides the error.
-/

namespace AttributeRelease.Resolver

variable {σ : Type}

/-! ## Definitions -/

/-- A rule that maps values, as it is configured. -/
structure MappingConfig where
  source : String
  returnValue : String
  caseSensitive : Bool := true
  partialMatch : Bool := false
  deriving DecidableEq, Repr

/-- A kind of definition, as it is configured. -/
inductive DefinitionSpec where
  | simple
  | scoped (scope : String)
  | regexSplit (regex : String) (caseSensitive : Bool)
  | mapped (mappings : List MappingConfig) (default : Option String) (passThrough : Bool)
  | principalName
  | contextDerived (inboundId : Option String)
  deriving DecidableEq, Repr

/-- A definition, as it is configured. -/
structure DefinitionConfig where
  settings : DefinitionSettings
  kind : DefinitionSpec

/-- Compiles a regular expression of a plugin. -/
def compileFor (pluginId pattern : String) (caseSensitive : Bool) :
    Except ConfigError Pattern.Regex :=
  match Pattern.Regex.compile? pattern (!caseSensitive) with
  | some regex => .ok regex
  | none => .error (.invalidPattern pluginId pattern)

/-- Prepares a rule that maps values. Unless a part may match, its pattern must match a text from
end to end. -/
def MappingConfig.compile (config : MappingConfig) (pluginId : String) :
    Except ConfigError Mapping := do
  let pattern :=
    if config.partialMatch then config.source else Pattern.Regex.anchored config.source
  return ⟨← compileFor pluginId pattern config.caseSensitive, config.returnValue⟩

/-- Prepares the rules of a plugin in order. -/
def compileMappings (pluginId : String) : List MappingConfig → Except ConfigError (List Mapping)
  | [] => .ok []
  | config :: rest => do
    let first ← config.compile pluginId
    return first :: (← compileMappings pluginId rest)

/-- Prepares a kind of definition. -/
def DefinitionSpec.compile (pluginId : String) :
    DefinitionSpec → Except ConfigError DefinitionKind
  | .simple => .ok .simple
  | .scoped scope => .ok (.scoped scope)
  | .regexSplit regex caseSensitive => do
    return .regexSplit (← compileFor pluginId regex caseSensitive)
  | .mapped mappings default passThrough => do
    return .mapped (← compileMappings pluginId mappings) default passThrough
  | .principalName => .ok .principalName
  | .contextDerived inboundId => .ok (.contextDerived inboundId)

/-- Prepares a definition. -/
def DefinitionConfig.build (config : DefinitionConfig) : Except ConfigError (Definition σ) := do
  let kind ← config.kind.compile config.settings.id
  return kind.toDefinition config.settings

/-! ## Connectors -/

/-- A kind of connector, as it is configured. -/
inductive ConnectorSpec where
  | fixed (attributes : List (String × List String))
  | computedId (sourceId salt : String) (generatedId : Option String)
  deriving DecidableEq, Repr

/-- A connector, as it is configured. -/
structure ConnectorConfig where
  id : String
  kind : ConnectorSpec
  dependencies : Dependencies := {}
  failover : Option String := none
  noRetryDelayMillis : UInt64 := 0
  propagateErrors : Bool := true
  noResultIsError : Bool := false
  exportAll : Bool := false
  exportedIds : List String := []
  displayNames : KeyMap (KeyMap String) := ∅
  displayDescriptions : KeyMap (KeyMap String) := ∅

/-- The attributes of a plugin with fixed attributes; of several with one id the last counts. -/
def fixedAttributes (pluginId : String) (attributes : AttributeMap) :
    List (String × List String) → Except ConfigError AttributeMap
  | [] => .ok attributes
  | (id, texts) :: rest =>
    match Attribute.withValues? id (texts.map Value.ofText) with
    | .ok attr => fixedAttributes pluginId (attributes.insert id attr) rest
    | .error error => .error (.invalidPlugin pluginId error.message)

/-- The attribute that is configured by an id and texts. -/
def fixedAttribute (id : String) (texts : List String) : Attribute where
  id
  values := texts.map Value.ofText

/-- Attributes are made unless an id is blank. -/
theorem fixedAttributes_eq_ok_iff {pluginId : String} {fixed : List (String × List String)}
    {result : AttributeMap} :
    fixedAttributes pluginId ∅ fixed = .ok result ↔
      (∀ entry ∈ fixed, Text.isBlank entry.1 = false) ∧
        result = (KeyMap.ofList fixed).mapValues fixedAttribute := by
  suffices onward : ∀ (fixed : List (String × List String)) (attributes : AttributeMap),
      fixedAttributes pluginId attributes fixed = .ok result ↔
        (∀ entry ∈ fixed, Text.isBlank entry.1 = false) ∧
          result = (fixed.map fun entry => (entry.1, fixedAttribute entry.1 entry.2)).foldl
            (fun map entry => map.insert entry.1 entry.2) attributes by
    rw [onward, ← KeyMap.ofList_map]
    rfl
  intro fixed
  induction fixed with
  | nil =>
    intro attributes
    rw [fixedAttributes, Except.ok.injEq, eq_comm]
    exact (and_iff_right (List.forall_mem_nil _)).symm
  | cons entry rest ih =>
    intro attributes
    rw [fixedAttributes]
    cases named : Text.isBlank entry.1 with
    | true =>
      rw [Attribute.withValues?_of_isBlank named]
      refine iff_of_false (fun made => by cases made) fun made => ?_
      cases named.symm.trans (made.1 entry List.mem_cons_self)
    | false =>
      rw [Attribute.withValues?_eq_ok_iff.mpr ⟨named, rfl⟩]
      simp only [List.forall_mem_cons, named, true_and, List.map_cons, List.foldl_cons]
      exact ih _

namespace ConnectorConfig

/-- Which attributes are exported: all, or the listed ones. -/
def exported (config : ConnectorConfig) : ExportPolicy :=
  if config.exportAll then .all
  else if config.exportedIds.isEmpty then .none
  else .named (KeySet.ofMembers config.exportedIds)

/-- The settings of a connector. -/
def settings (config : ConnectorConfig) : ConnectorSettings where
  id := config.id
  dependencies := config.dependencies
  failover := config.failover
  noRetryDelay := config.noRetryDelayMillis.toNat * nanosPerMilli
  propagateErrors := config.propagateErrors
  noResultIsError := config.noResultIsError
  exported := config.exported
  displayNames := config.displayNames
  displayDescriptions := config.displayDescriptions

/-- Prepares a connector. -/
def build (config : ConnectorConfig) : Except ConfigError (Connector σ) :=
  match config.kind with
  | .fixed attributes => do
    return staticConnector config.settings (← fixedAttributes config.id ∅ attributes)
  | .computedId sourceId salt generatedId => do
    let connector ←
      ComputedId.new? config.settings sourceId (ComputedId.utf8 salt) generatedId
    return connector.toConnector

/-- What a connector with configured attributes is prepared to. -/
theorem build_eq_ok_iff_of_fixed {config : ConnectorConfig}
    {attributes : List (String × List String)} (fixed : config.kind = .fixed attributes)
    {connector : Connector σ} :
    config.build = .ok connector ↔
      (∀ entry ∈ attributes, Text.isBlank entry.1 = false) ∧
        connector = staticConnector config.settings
          ((KeyMap.ofList attributes).mapValues fixedAttribute) := by
  have made (result : AttributeMap) :=
    @fixedAttributes_eq_ok_iff config.id attributes result
  rw [build, fixed]
  constructor
  · intro built
    obtain ⟨result, done, built⟩ := exists_of_bind_eq_ok built
    cases built
    obtain ⟨named, rfl⟩ := (made result).mp done
    exact ⟨named, rfl⟩
  · rintro ⟨named, rfl⟩
    simp only [(made _).mpr ⟨named, rfl⟩]
    rfl

end ConnectorConfig

/-! ## Resolvers -/

/-- The configuration of a resolver. -/
structure ResolverConfig where
  id : String := "attribute-resolver"
  stripNulls : Bool := false
  suppressDisplay : Bool := false
  definitions : List DefinitionConfig := []
  connectors : List ConnectorConfig := []

/-- Prepares definitions in order. -/
def buildDefinitions : List DefinitionConfig → Except ConfigError (List (Definition σ))
  | [] => .ok []
  | config :: rest => do
    let first ← config.build
    return first :: (← buildDefinitions rest)

/-- Prepares connectors in order. -/
def buildConnectors : List ConnectorConfig → Except ConfigError (List (Connector σ))
  | [] => .ok []
  | config :: rest => do
    let first ← config.build
    return first :: (← buildConnectors rest)

/-- The blueprint of a resolver: its definitions are prepared before its connectors. -/
def ResolverConfig.blueprint (config : ResolverConfig) : Except ConfigError (Blueprint σ) := do
  let definitions ← buildDefinitions config.definitions
  let connectors ← buildConnectors config.connectors
  return {
    id := config.id
    definitions, connectors
    stripNulls := config.stripNulls
    suppressDisplay := config.suppressDisplay }

/-- Builds a resolver. -/
def ResolverConfig.build (config : ResolverConfig) : Except ConfigError (Resolver σ) := do
  let blueprint ← config.blueprint
  blueprint.build

end AttributeRelease.Resolver
