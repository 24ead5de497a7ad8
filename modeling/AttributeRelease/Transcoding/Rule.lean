import AttributeRelease.Attribute.Basic
import AttributeRelease.Attribute.Request
import AttributeRelease.Transcoding.Wire

/-!
# Transcoding rules

A rule ties an attribute to one representation of it: what it is called there, how its values are
written, and for which requests the rule holds.
-/

namespace AttributeRelease.Transcoding

/-- Where the scope of a value goes: beside it, or behind it in the same text. -/
inductive ScopeEncoding where
  | separate
  | inline
  deriving DecidableEq, Repr

namespace ScopeEncoding

/-- The name of a way to encode scopes. -/
def name : ScopeEncoding → String
  | .separate => "attribute"
  | .inline => "inline"

/-- All ways to encode scopes by name. -/
def names : List (String × ScopeEncoding) :=
  [.separate, .inline].map fun encoding => (name encoding, encoding)

end ScopeEncoding

/-- A rule. The id of its attribute is empty until the rule is installed. -/
structure Rule where
  attributeId : String := ""
  name : Option String := none
  nameFormat : Option String := none
  friendlyName : Option String := none
  nameSpace : Option String := none
  encodeType : Bool := true
  scopeEncoding : ScopeEncoding := .separate
  asArray : Bool := false
  relyingParties : KeySet := ∅
  condition : Option (Request → Bool) := none
  displayNames : KeyMap String := ∅
  displayDescriptions : KeyMap String := ∅

namespace Rule

/-- Whether the rule holds for a request: its condition does, if it has one. -/
def isActive (rule : Rule) (request : Request) : Bool := rule.condition.all (· request)

/-- The rule as it is installed for an attribute. If it lists relying parties, its condition is
narrowed to requests of these. -/
def install (rule : Rule) (attributeId : String) : Rule :=
  { rule with
    attributeId
    condition :=
      if rule.relyingParties.isEmpty then rule.condition
      else some fun request =>
        rule.isActive request && request.requester.any rule.relyingParties.contains }

end Rule

end AttributeRelease.Transcoding
