import AttributeRelease.Transcoding.Codec.Basic

/-!
# A codec for OIDC claims

Texts become claims: one text as itself, unless the rule asks for an array, and several as an array.
Numbers and truth values are read as texts; other items of an array are skipped, and a claim that is
an object says nothing.
-/

namespace AttributeRelease.Transcoding

/-- The value of a document that is neither an array nor an object. -/
def scalarValue? : Json → Option Value
  | .string text => some (.ofText text)
  | .number n => n.text?.map .ofText
  | .bool value => some (.ofText (if value then "true" else "false"))
  | _ => none

/-- The values of a claim, `none` if it says nothing. -/
def claimValues? : Json → Option (List Value)
  | .array items => some (items.filterMap scalarValue?)
  | .null => some []
  | document => (scalarValue? document).map ([·])

/-- Texts as a claim. -/
def claimOfTexts (asArray : Bool) : List String → Json
  | [text] => if asArray then .array [.string text] else .string text
  | texts => .array (texts.map .string)

/-- The codec for OIDC claims. The name is required first. -/
def Codec.claim : Codec where
  encodedType := TypeTag.claim
  encodedName? rule := rule.name.map claimName
  encode _ attr rule := do
    let name ← rule.requiredName
    match attr.values.filterMap plainText? with
    | [] => return none
    | texts => return some (.claim ⟨name, claimOfTexts rule.asArray texts⟩)
  decode _ wire rule :=
    match wire with
    | .claim item =>
      match claimValues? item.value with
      | some values => return some (← rule.decoded values)
      | none => .ok none
    | other => .error (.unsupportedType rule.attributeId TypeTag.claim other.tag)

end AttributeRelease.Transcoding
