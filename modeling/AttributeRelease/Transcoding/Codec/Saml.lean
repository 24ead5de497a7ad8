import AttributeRelease.Bytes.Base64
import AttributeRelease.Transcoding.Codec.Basic

/-!
# SAML codecs

All codecs for SAML attributes write and read them value by value and differ in how: as plain text,
as text with a scope, or as bytes in Base64.
-/

namespace AttributeRelease.Transcoding

/-- How a codec for SAML attributes writes and reads values. -/
structure SamlValueCodec where
  encode? : Rule → Value → Option SamlValue
  decode? : SamlValue → Option Value

namespace SamlValueCodec

/-- A text of a type, which is left out if the rule says so. -/
def typed (rule : Rule) (xsiType text : String) : SamlValue :=
  { text, xsiType := if rule.encodeType then some xsiType else none }

/-- The type of texts. -/
def textType : String := "xsd:string"

/-- The type of bytes. -/
def bytesType : String := "xsd:base64Binary"

/-- Plain texts. -/
def plain : SamlValueCodec where
  encode? rule value := (plainText? value).map (typed rule textType)
  decode? wire := some (.ofText wire.text)

/-! ### Texts with scopes -/

/-- What stands before and behind the last occurrence of a character. -/
def splitLast? (mark : Char) : List Char → Option (List Char × List Char)
  | [] => none
  | c :: rest =>
    match splitLast? mark rest with
    | some (before, behind) => some (c :: before, behind)
    | none => if c = mark then some ([], rest) else none

/-- The character between a text and its scope. -/
def scopeMark : Char := '@'

/-- A text with its scope, beside or behind it. -/
def writeScoped (rule : Rule) (content : ScopedText) : SamlValue :=
  match rule.scopeEncoding with
  | .inline => typed rule textType (content.value ++ String.singleton scopeMark ++ content.scope)
  | .separate => { typed rule textType content.value with scope := some content.scope }

/-- A text and its scope, which stands beside it or else behind it. -/
def readScoped? (wire : SamlValue) : Option (String × String) :=
  match wire.scope with
  | some scope => some (wire.text, scope)
  | none =>
    (splitLast? scopeMark wire.text.toList).map fun (before, behind) =>
      (String.ofList before, String.ofList behind)

/-- Texts with scopes. -/
def withScope : SamlValueCodec where
  encode? rule
    | .scoped content => some (writeScoped rule content)
    | _ => none
  decode? wire := (readScoped? wire).map fun (value, scope) => .ofScoped value scope

/-! ### Bytes -/

/-- Bytes in Base64; space around them is ignored. -/
def base64 : SamlValueCodec where
  encode? rule value :=
    (value.bytes?.filter (· ≠ [])).map fun bytes =>
      typed rule bytesType (Bytes.Base64.encode bytes)
  decode? wire := (Bytes.Base64.decode? (Text.trim wire.text)).map .ofBytes

end SamlValueCodec

namespace Codec

/-- The format of the name that a rule gives. -/
def saml2NameFormat (rule : Rule) : String := rule.nameFormat.getD uriNameFormat

/-- A codec for SAML 2.0 attributes. The name is required only when there are values. -/
def saml2 (codec : SamlValueCodec) : Codec where
  encodedType := TypeTag.saml2
  encodedName? rule := rule.name.map (saml2Name · (saml2NameFormat rule))
  encode _ attr rule :=
    match attr.values.filterMap (codec.encode? rule) with
    | [] => .ok none
    | values => do
      let name ← rule.requiredName
      return some (.saml2 {
        name, values
        nameFormat := some (saml2NameFormat rule)
        friendlyName := rule.friendlyName })
  decode _ wire rule :=
    match wire with
    | .saml2 attr => return some (← rule.decoded (attr.values.filterMap codec.decode?))
    | other => .error (.unsupportedType rule.attributeId TypeTag.saml2 other.tag)

/-- The namespace of the name that a rule gives. -/
def saml1Namespace (rule : Rule) : String := rule.nameSpace.getD shibbolethNamespace

/-- A codec for SAML 1.1 attributes. The name is required only when there are values. -/
def saml1 (codec : SamlValueCodec) : Codec where
  encodedType := TypeTag.saml1
  encodedName? rule := rule.name.map (saml1Name · (saml1Namespace rule))
  encode _ attr rule :=
    match attr.values.filterMap (codec.encode? rule) with
    | [] => .ok none
    | values => do
      let name ← rule.requiredName
      return some (.saml1 { name, nameSpace := saml1Namespace rule, values })
  decode _ wire rule :=
    match wire with
    | .saml1 attr => return some (← rule.decoded (attr.values.filterMap codec.decode?))
    | other => .error (.unsupportedType rule.attributeId TypeTag.saml1 other.tag)

end Codec

end AttributeRelease.Transcoding
