import AttributeRelease.Json.Parser
import AttributeRelease.Json.Printer
import AttributeRelease.Transcoding.Registry

/-!
# Configuration of transcoding

Rules are configured by attribute. Before any of them is installed, each attribute must have an id
and each rule a codec that is known; attributes are checked in order, the id of each before its
rules.
-/

namespace AttributeRelease.Transcoding

/-- A rule, as it is configured. -/
structure RuleConfig where
  codec : String
  name : Option String := none
  nameFormat : Option String := none
  friendlyName : Option String := none
  nameSpace : Option String := none
  encodeType : Bool := true
  scopeEncoding : ScopeEncoding := .separate
  asArray : Bool := false
  relyingParties : List String := []
  displayNames : KeyMap String := ∅
  displayDescriptions : KeyMap String := ∅
  deriving DecidableEq

/-- The rules of attributes. -/
structure TranscodingConfig where
  rules : KeyMap (List RuleConfig) := ∅

/-- The rule that is configured. -/
def RuleConfig.toRule (config : RuleConfig) : Rule where
  name := config.name
  nameFormat := config.nameFormat
  friendlyName := config.friendlyName
  nameSpace := config.nameSpace
  encodeType := config.encodeType
  scopeEncoding := config.scopeEncoding
  asArray := config.asArray
  relyingParties := KeySet.ofMembers config.relyingParties
  displayNames := config.displayNames
  displayDescriptions := config.displayDescriptions

namespace TranscodingConfig

/-- Checks the rules of attributes in order. -/
def checkRules (codecs : Codecs) : List (String × List RuleConfig) → Except RuleError Unit
  | [] => .ok ()
  | (attributeId, rules) :: rest =>
    if Text.isBlank attributeId then .error (.blankAttribute attributeId)
    else
      match rules.find? fun rule => !codecs.contains rule.codec with
      | some rule => .error (.unknownCodec attributeId rule.codec)
      | none => checkRules codecs rest

/-- The plan of a registry with the configured rules. -/
def plan (config : TranscodingConfig) (codecs : Codecs := .standard) :
    Except RuleError RegistryPlan := do
  checkRules codecs config.rules.entries
  return config.rules.entries.foldl
    (fun plan (attributeId, rules) =>
      plan.install attributeId (rules.map fun rule => (.tagged rule.codec, rule.toRule)))
    { codecs }

/-- Builds a registry with the known codecs. -/
def build (config : TranscodingConfig) : Except RuleError Registry := do
  return (← config.plan).build

end TranscodingConfig

/-! ## As documents -/

def RuleConfig.toJson (config : RuleConfig) : Json :=
  .object [("transcoder", .string config.codec), ("name", Json.ofOption .string config.name),
    ("name_format", Json.ofOption .string config.nameFormat),
    ("friendly_name", Json.ofOption .string config.friendlyName),
    ("namespace", Json.ofOption .string config.nameSpace),
    ("encode_type", .bool config.encodeType),
    ("scope_encoding", .string config.scopeEncoding.name), ("as_array", .bool config.asArray),
    ("relying_parties", Json.ofList .string config.relyingParties),
    ("display_names", Json.ofTexts config.displayNames),
    ("display_descriptions", Json.ofTexts config.displayDescriptions)]

def RuleConfig.ofJson? (document : Json) : Option RuleConfig := do
  let [codec, name, nameFormat, friendlyName, nameSpace, encodeType, scopeEncoding, asArray,
      relyingParties, displayNames, displayDescriptions] ←
    document.record? ["transcoder", "name", "name_format", "friendly_name", "namespace",
      "encode_type", "scope_encoding", "as_array", "relying_parties", "display_names",
      "display_descriptions"] | none
  return {
    codec := ← Json.required Json.text? codec
    name := ← Json.nullable Json.text? name
    nameFormat := ← Json.nullable Json.text? nameFormat
    friendlyName := ← Json.nullable Json.text? friendlyName
    nameSpace := ← Json.nullable Json.text? nameSpace
    encodeType := ← Json.orDefault true Json.bool? encodeType
    scopeEncoding :=
      ← Json.orDefault .separate (Json.name? .direct ScopeEncoding.names) scopeEncoding
    asArray := ← Json.orDefault false Json.bool? asArray
    relyingParties := ← Json.orDefault [] (Json.list? Json.text?) relyingParties
    displayNames := ← Json.orDefault ∅ Json.texts? displayNames
    displayDescriptions := ← Json.orDefault ∅ Json.texts? displayDescriptions }

namespace TranscodingConfig

def toJson (config : TranscodingConfig) : Json :=
  .object [("rules", Json.ofMap (Json.ofList RuleConfig.toJson) config.rules)]

def ofJson? (document : Json) : Option TranscodingConfig := do
  let [rules] ← document.record? ["rules"] | none
  return ⟨← Json.orDefault ∅ (Json.map? (Json.list? RuleConfig.ofJson?)) rules⟩

/-- Reads the configuration of transcoding from its text. -/
def parse? (text : String) : Option TranscodingConfig := do ofJson? (← Json.parse? text)

end TranscodingConfig

end AttributeRelease.Transcoding
