import AttributeRelease.Json.Parser
import AttributeRelease.Json.Printer
import AttributeRelease.Resolver.Config.Basic

/-!
# Configurations of resolvers as documents

In the document of a definition or a connector the fields of its kind stand beside those that all
kinds have, with the name of the kind as `type`. The fields that all kinds have are read first; the
others are read as a whole before the kind is known, and the kind then skips those it does not know.
Such a document is an object, never an array.
-/

namespace AttributeRelease.Resolver

/-- Tells the fields of an object with given names from the others, which are read as a whole. -/
def splitFields? (budget : Nat) (names : List String) :
    Json → Option (List (Option Json) × Json)
  | .object fields => do
    let own ← names.mapM (Json.field? fields)
    let others := fields.filter fun field => field.1 ∉ names
    guard (Json.fieldsReadable (budget - 1) others)
    return (own, .object others)
  | _ => none

/-! ## Definitions -/

def MappingConfig.toJson (config : MappingConfig) : Json :=
  .object [("source", .string config.source), ("return_value", .string config.returnValue),
    ("case_sensitive", .bool config.caseSensitive), ("partial_match", .bool config.partialMatch)]

def MappingConfig.ofJson? (document : Json) : Option MappingConfig := do
  let [source, returnValue, caseSensitive, partialMatch] ←
    document.record? ["source", "return_value", "case_sensitive", "partial_match"] | none
  return {
    source := ← Json.required Json.text? source
    returnValue := ← Json.required Json.text? returnValue
    caseSensitive := ← Json.orDefault true Json.bool? caseSensitive
    partialMatch := ← Json.orDefault false Json.bool? partialMatch }

namespace DefinitionSpec

/-- The fields of a kind of definition. -/
def fields : DefinitionSpec → List (String × Json)
  | .simple => [("type", .string "simple")]
  | .scoped scope => [("type", .string "scoped"), ("scope", .string scope)]
  | .regexSplit regex caseSensitive =>
    [("type", .string "regex_split"), ("regex", .string regex),
      ("case_sensitive", .bool caseSensitive)]
  | .mapped mappings default passThrough =>
    [("type", .string "mapped"), ("mappings", Json.ofList MappingConfig.toJson mappings),
      ("default_value", Json.ofOption .string default), ("pass_through", .bool passThrough)]
  | .principalName => [("type", .string "principal_name")]
  | .contextDerived inboundId =>
    [("type", .string "context_derived"),
      ("inbound_attribute_id", Json.ofOption .string inboundId)]

/-- The names of the kinds of definitions. -/
def kinds : List String :=
  ["simple", "scoped", "regex_split", "mapped", "principal_name", "context_derived"]

/-- Reads a kind of definition with its fields. -/
def ofJson? (document : Json) : Option DefinitionSpec := do
  let (kind, content) ← document.tagged? .buffered kinds
  match kind with
  | "simple" => do let _ ← content.unit?; return .simple
  | "scoped" => do
    let [scope] ← content.record? ["scope"] | none
    return .scoped (← Json.required Json.text? scope)
  | "regex_split" => do
    let [regex, caseSensitive] ← content.record? ["regex", "case_sensitive"] | none
    return .regexSplit (← Json.required Json.text? regex)
      (← Json.orDefault true Json.bool? caseSensitive)
  | "mapped" => do
    let [mappings, default, passThrough] ←
      content.record? ["mappings", "default_value", "pass_through"] | none
    return .mapped (← Json.required (Json.list? MappingConfig.ofJson?) mappings)
      (← Json.nullable Json.text? default) (← Json.orDefault false Json.bool? passThrough)
  | "principal_name" => do let _ ← content.unit?; return .principalName
  | _ => do
    let [inboundId] ← content.record? ["inbound_attribute_id"] | none
    return .contextDerived (← Json.nullable Json.text? inboundId)

end DefinitionSpec

def DefinitionConfig.toJson (config : DefinitionConfig) : Json :=
  let settings := config.settings
  .object
    ([("id", .string settings.id)] ++ config.kind.fields ++
      [("dependencies", settings.dependencies.toJson),
        ("dependency_only", .bool settings.dependencyOnly),
        ("pre_requested", .bool settings.preRequested)] ++
      Json.fieldUnless settings.sourceAttribute.isNone "source_attribute_id"
        (Json.ofOption .string settings.sourceAttribute) ++
      Json.fieldUnless settings.displayNames.isEmpty "display_names"
        (Json.ofTexts settings.displayNames) ++
      Json.fieldUnless settings.displayDescriptions.isEmpty "display_descriptions"
        (Json.ofTexts settings.displayDescriptions))

def DefinitionConfig.ofJson? (budget : Nat) (document : Json) : Option DefinitionConfig := do
  let ([id, dependencies, dependencyOnly, preRequested, source, names, descriptions], others) ←
    splitFields? budget
      ["id", "dependencies", "dependency_only", "pre_requested", "source_attribute_id",
        "display_names", "display_descriptions"] document | none
  let settings : DefinitionSettings := {
    id := ← Json.required Json.text? id
    dependencies := ← Json.orDefault {} Dependencies.ofJson? dependencies
    dependencyOnly := ← Json.orDefault false Json.bool? dependencyOnly
    preRequested := ← Json.orDefault false Json.bool? preRequested
    sourceAttribute := ← Json.nullable Json.text? source
    displayNames := ← Json.orDefault ∅ Json.texts? names
    displayDescriptions := ← Json.orDefault ∅ Json.texts? descriptions }
  return { settings, kind := ← DefinitionSpec.ofJson? others }

/-! ## Connectors -/

/-- The document of a fixed attribute. -/
def fixedToJson (attr : String × List String) : Json :=
  .object [("id", .string attr.1), ("values", Json.ofList .string attr.2)]

/-- Reads a fixed attribute. -/
def fixedOfJson? (document : Json) : Option (String × List String) := do
  let [id, values] ← document.record? ["id", "values"] | none
  return (← Json.required Json.text? id, ← Json.required (Json.list? Json.text?) values)

namespace ConnectorSpec

/-- The fields of a kind of connector. -/
def fields : ConnectorSpec → List (String × Json)
  | .fixed attributes =>
    [("type", .string "static"), ("attributes", Json.ofList fixedToJson attributes)]
  | .computedId sourceId salt generatedId =>
    [("type", .string "computed_id"), ("source_attribute_id", .string sourceId),
      ("salt", .string salt), ("generated_attribute_id", Json.ofOption .string generatedId)]

/-- The names of the kinds of connectors. -/
def kinds : List String := ["static", "computed_id"]

/-- Reads a kind of connector with its fields. -/
def ofJson? (document : Json) : Option ConnectorSpec := do
  let (kind, content) ← document.tagged? .buffered kinds
  match kind with
  | "static" => do
    let [attributes] ← content.record? ["attributes"] | none
    return .fixed (← Json.required (Json.list? fixedOfJson?) attributes)
  | _ => do
    let [sourceId, salt, generatedId] ←
      content.record? ["source_attribute_id", "salt", "generated_attribute_id"] | none
    return .computedId (← Json.required Json.text? sourceId) (← Json.required Json.text? salt)
      (← Json.nullable Json.text? generatedId)

end ConnectorSpec

def ConnectorConfig.toJson (config : ConnectorConfig) : Json :=
  .object
    ([("id", .string config.id)] ++ config.kind.fields ++
      [("dependencies", config.dependencies.toJson)] ++
      Json.fieldUnless config.failover.isNone "failover_connector_id"
        (Json.ofOption .string config.failover) ++
      [("no_retry_delay_ms", Json.nat config.noRetryDelayMillis.toNat),
        ("propagate_errors", .bool config.propagateErrors),
        ("no_result_is_error", .bool config.noResultIsError),
        ("export_all", .bool config.exportAll)] ++
      Json.fieldUnless config.exportedIds.isEmpty "exported_attributes"
        (Json.ofList .string config.exportedIds) ++
      Json.fieldUnless config.displayNames.isEmpty "display_names"
        (Json.ofMap Json.ofTexts config.displayNames) ++
      Json.fieldUnless config.displayDescriptions.isEmpty "display_descriptions"
        (Json.ofMap Json.ofTexts config.displayDescriptions))

def ConnectorConfig.ofJson? (budget : Nat) (document : Json) : Option ConnectorConfig := do
  let ([id, dependencies, failover, delay, propagateErrors, noResultIsError, exportAll, exportedIds,
      names, descriptions], others) ←
    splitFields? budget
      ["id", "dependencies", "failover_connector_id", "no_retry_delay_ms", "propagate_errors",
        "no_result_is_error", "export_all", "exported_attributes", "display_names",
        "display_descriptions"] document | none
  return {
    id := ← Json.required Json.text? id
    kind := ← ConnectorSpec.ofJson? others
    dependencies := ← Json.orDefault {} Dependencies.ofJson? dependencies
    failover := ← Json.nullable Json.text? failover
    noRetryDelayMillis := ← Json.orDefault 0 Json.word? delay
    propagateErrors := ← Json.orDefault true Json.bool? propagateErrors
    noResultIsError := ← Json.orDefault false Json.bool? noResultIsError
    exportAll := ← Json.orDefault false Json.bool? exportAll
    exportedIds := ← Json.orDefault [] (Json.list? Json.text?) exportedIds
    displayNames := ← Json.orDefault ∅ (Json.map? Json.texts?) names
    displayDescriptions := ← Json.orDefault ∅ (Json.map? Json.texts?) descriptions }

/-! ## Resolvers -/

namespace ResolverConfig

def toJson (config : ResolverConfig) : Json :=
  .object [("id", .string config.id), ("strip_nulls", .bool config.stripNulls),
    ("suppress_display_information", .bool config.suppressDisplay),
    ("definitions", Json.ofList DefinitionConfig.toJson config.definitions),
    ("connectors", Json.ofList ConnectorConfig.toJson config.connectors)]

def ofJson? (document : Json) : Option ResolverConfig := do
  let [id, stripNulls, suppressDisplay, definitions, connectors] ←
    document.record?
      ["id", "strip_nulls", "suppress_display_information", "definitions", "connectors"] | none
  let budget := Json.nestingLimit - 2
  let defaults : ResolverConfig := {}
  return {
    id := ← Json.orDefault defaults.id Json.text? id
    stripNulls := ← Json.orDefault false Json.bool? stripNulls
    suppressDisplay := ← Json.orDefault false Json.bool? suppressDisplay
    definitions := ← Json.orDefault [] (Json.list? (DefinitionConfig.ofJson? budget)) definitions
    connectors := ← Json.orDefault [] (Json.list? (ConnectorConfig.ofJson? budget)) connectors }

/-- Reads the configuration of a resolver from its text. -/
def parse? (text : String) : Option ResolverConfig := do ofJson? (← Json.parse? text)

end ResolverConfig

end AttributeRelease.Resolver
