import AttributeRelease.Json.Reader
import AttributeRelease.Transcoding.Registry

/-!
# Attributes on the wire as documents

An attribute in some representation is an object with the tag of the representation as `type`. Rules
that were installed are written with the canonical name of what they write.
-/

namespace AttributeRelease.Transcoding

namespace SamlValue

def toJson (value : SamlValue) : Json :=
  .object [("text", .string value.text), ("xsi_type", Json.ofOption .string value.xsiType),
    ("scope", Json.ofOption .string value.scope)]

def ofJson? (document : Json) : Option SamlValue := do
  let [text, xsiType, scope] ← document.record? ["text", "xsi_type", "scope"] | none
  return {
    text := ← Json.required Json.text? text
    xsiType := ← Json.nullable Json.text? xsiType
    scope := ← Json.nullable Json.text? scope }

end SamlValue

namespace Wire

/-- The fields of an attribute beside its tag. -/
def fields : Wire → List (String × Json)
  | .saml2 attr =>
    [("name", .string attr.name), ("name_format", Json.ofOption .string attr.nameFormat),
      ("friendly_name", Json.ofOption .string attr.friendlyName),
      ("values", Json.ofList SamlValue.toJson attr.values)]
  | .saml1 attr =>
    [("name", .string attr.name), ("namespace", .string attr.nameSpace),
      ("values", Json.ofList SamlValue.toJson attr.values)]
  | .claim item => [("name", .string item.name), ("value", item.value)]
  | .foreign _ name => [("name", Json.ofOption .string name)]

def toJson (wire : Wire) : Json := .object (("type", .string wire.tag) :: wire.fields)

/-- Reads the fields of an attribute with a tag. Claims without a value have none. -/
def ofFields? (tag : TypeTag) (content : Json) : Option Wire := do
  if tag = TypeTag.saml2 then
    let [name, nameFormat, friendlyName, values] ←
      content.record? ["name", "name_format", "friendly_name", "values"] | none
    return .saml2 {
      name := ← Json.required Json.text? name
      nameFormat := ← Json.nullable Json.text? nameFormat
      friendlyName := ← Json.nullable Json.text? friendlyName
      values := ← Json.required (Json.list? SamlValue.ofJson?) values }
  else if tag = TypeTag.saml1 then
    let [name, nameSpace, values] ← content.record? ["name", "namespace", "values"] | none
    return .saml1 {
      name := ← Json.required Json.text? name
      nameSpace := ← Json.required Json.text? nameSpace
      values := ← Json.required (Json.list? SamlValue.ofJson?) values }
  else if tag = TypeTag.claim then
    let [name, value] ← content.record? ["name", "value"] | none
    return .claim ⟨← Json.required Json.text? name, value.getD .null⟩
  else
    let [name] ← content.record? ["name"] | none
    return .foreign tag (← Json.nullable Json.text? name)

def ofJson? (document : Json) : Option Wire := do
  let [tag] ← document.record? ["type"] | none
  ofFields? (← Json.required Json.text? tag) document

end Wire

/-- The document of a rule with its codec. -/
def InstalledRule.toJson (installed : InstalledRule) : Json :=
  let rule := installed.rule
  .object [("attribute_id", .string rule.attributeId),
    ("encoded_type", .string installed.codec.encodedType),
    ("encoded_name", Json.ofOption .string (installed.codec.encodedName? rule)),
    ("name", Json.ofOption .string rule.name),
    ("name_format", Json.ofOption .string rule.nameFormat),
    ("friendly_name", Json.ofOption .string rule.friendlyName),
    ("namespace", Json.ofOption .string rule.nameSpace),
    ("encode_type", .bool rule.encodeType), ("scope_encoding", .string rule.scopeEncoding.name),
    ("as_array", .bool rule.asArray),
    ("relying_parties", Json.ofList .string rule.relyingParties.members),
    ("display_names", Json.ofTexts rule.displayNames),
    ("display_descriptions", Json.ofTexts rule.displayDescriptions)]

end AttributeRelease.Transcoding
