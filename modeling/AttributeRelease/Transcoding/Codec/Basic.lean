import AttributeRelease.Transcoding.Error
import AttributeRelease.Transcoding.Rule

/-!
# Codecs

A codec writes attributes in one representation and reads them back, as a rule says. It works value
by value: a value it cannot handle is skipped. It may have nothing to say of an attribute, which is
not an error.
-/

namespace AttributeRelease.Transcoding

/-- A codec. -/
structure Codec where
  /-- The representation that is written. -/
  encodedType : TypeTag
  /-- The canonical name of what a rule writes, if the rule says enough. -/
  encodedName? : Rule → Option String
  encode : Request → Attribute → Rule → Except TranscodingError (Option Wire)
  decode : Request → Wire → Rule → Except TranscodingError (Option Attribute)

/-- The name that a rule gives, which must be there. -/
def Rule.requiredName (rule : Rule) : Except TranscodingError String :=
  match rule.name with
  | some name => .ok name
  | none => .error (.missingName rule.attributeId)

/-- The attribute of a rule with values that were read. -/
def Rule.decoded (rule : Rule) (values : List Value) : Except TranscodingError Attribute := do
  let attr ← TranscodingError.ofAttribute (Attribute.withValues? rule.attributeId values)
  return { attr with
    displayNames := rule.displayNames
    displayDescriptions := rule.displayDescriptions }

/-- The text that stands for a value where only texts can be written; a scope is lost. -/
def plainText? (value : Value) : Option String := value.text?.filter (· ≠ "")

end AttributeRelease.Transcoding
