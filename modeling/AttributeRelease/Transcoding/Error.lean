import AttributeRelease.Attribute.Value
import AttributeRelease.Transcoding.Wire

/-!
# Errors of transcoding

A `TranscodingError` arises while one attribute is encoded or decoded, a `RuleError` while rules are
read from a configuration.
-/

namespace AttributeRelease.Transcoding

/-- What goes wrong while an attribute is encoded or decoded. -/
inductive TranscodingError where
  | unsupportedType (attributeId : String) (expected actual : TypeTag)
  | missingName (attributeId : String)
  | attributeError (error : AttributeError)
  deriving DecidableEq, Repr

namespace TranscodingError

/-- The class of an error. -/
def code : TranscodingError → String
  | .unsupportedType _ _ _ => "UNSUPPORTED_TYPE"
  | .missingName _ => "MISSING_PROPERTY"
  | .attributeError _ => "INVALID_ATTRIBUTE"

/-- The wording of an error. -/
def message : TranscodingError → String
  | .unsupportedType attributeId expected actual =>
    "transcoder for '" ++ attributeId ++ "' expects " ++ expected ++ ", got " ++ actual
  | .missingName attributeId => "transcoding rule for '" ++ attributeId ++ "' is missing name"
  | .attributeError error => "attribute model error: " ++ error.message

/-- An error of an attribute as one of the codec that builds it. -/
def ofAttribute {α : Type} : Except AttributeError α → Except TranscodingError α
  | .ok value => .ok value
  | .error error => .error (.attributeError error)

/-- Renaming an error makes no success out of it. -/
theorem eq_ok_of_ofAttribute {α : Type} {outcome : Except AttributeError α} {value : α}
    (done : ofAttribute outcome = .ok value) : outcome = .ok value := by
  cases outcome with
  | error error => cases done
  | ok own =>
      cases done
      rfl

end TranscodingError

/-- What is wrong with a configured rule. -/
inductive RuleError where
  | unknownCodec (attributeId tag : String)
  | blankAttribute (attributeId : String)
  deriving DecidableEq, Repr

namespace RuleError

/-- The class of an error. -/
def code : RuleError → String
  | .unknownCodec _ _ => "UNKNOWN_TRANSCODER"
  | .blankAttribute _ => "INVALID_RULE"

/-- The wording of an error. -/
def message : RuleError → String
  | .unknownCodec attributeId tag =>
    "unknown transcoder '" ++ tag ++ "' in rule for '" ++ attributeId ++ "'"
  | .blankAttribute attributeId =>
    "invalid transcoding rule for '" ++ attributeId ++ "': attribute id must not be blank"

end RuleError

end AttributeRelease.Transcoding
