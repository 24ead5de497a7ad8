import AttributeRelease.Json.Basic

/-!
# Attributes on the wire

Attributes leave and enter in several representations: SAML 2.0 attributes, SAML 1.1 attributes,
OIDC claims, and others that only their users know. A representation is known by its tag, an
attribute within it by its canonical name.
-/

namespace AttributeRelease.Transcoding

/-- The name of a representation. -/
abbrev TypeTag := String

namespace TypeTag

/-- The representation as a SAML 2.0 attribute. -/
def saml2 : TypeTag := "saml2:Attribute"

/-- The representation as a SAML 1.1 attribute. -/
def saml1 : TypeTag := "saml1:Attribute"

/-- The representation as an OIDC claim. -/
def claim : TypeTag := "oidc:Claim"

end TypeTag

/-- A value of a SAML attribute, with an optional type and an optional scope of its own. -/
structure SamlValue where
  text : String
  xsiType : Option String := none
  scope : Option String := none
  deriving DecidableEq, Repr

/-- A SAML 2.0 attribute. -/
structure Saml2Attribute where
  name : String
  nameFormat : Option String := none
  friendlyName : Option String := none
  values : List SamlValue := []
  deriving DecidableEq, Repr

/-- A SAML 1.1 attribute. -/
structure Saml1Attribute where
  name : String
  nameSpace : String
  values : List SamlValue := []
  deriving DecidableEq, Repr

/-- An OIDC claim. -/
structure Claim where
  name : String
  value : Json

/-- An attribute in some representation. -/
inductive Wire where
  | saml2 (attr : Saml2Attribute)
  | saml1 (attr : Saml1Attribute)
  | claim (item : Claim)
  | foreign (tag : TypeTag) (name : Option String)

/-- The tag of a representation. -/
def Wire.tag : Wire → TypeTag
  | .saml2 _ => TypeTag.saml2
  | .saml1 _ => TypeTag.saml1
  | .claim _ => TypeTag.claim
  | .foreign tag _ => tag

/-! ## Canonical names -/

/-- The name format of SAML 2.0 attributes that are sent, unless a rule names another. -/
def uriNameFormat : String := "urn:oasis:names:tc:SAML:2.0:attrname-format:uri"

/-- The name format of SAML 2.0 attributes that carry none. -/
def unspecifiedNameFormat : String := "urn:oasis:names:tc:SAML:2.0:attrname-format:unspecified"

/-- The namespace of SAML 1.1 attributes, unless a rule names another. -/
def shibbolethNamespace : String := "urn:mace:shibboleth:1.0:attributeNamespace:uri"

/-- The canonical name of a SAML 2.0 attribute. -/
def saml2Name (name nameFormat : String) : String := "SAML2:" ++ name ++ "|" ++ nameFormat

/-- The canonical name of a SAML 1.1 attribute. -/
def saml1Name (name nameSpace : String) : String := "SAML1:" ++ name ++ "|" ++ nameSpace

/-- The canonical name of an OIDC claim. -/
def claimName (name : String) : String := "OIDC:" ++ name

/-- The canonical name of an attribute whose representation is known. -/
def Wire.standardName? : Wire → Option String
  | .saml2 attr => some (saml2Name attr.name (attr.nameFormat.getD unspecifiedNameFormat))
  | .saml1 attr => some (saml1Name attr.name attr.nameSpace)
  | .claim item => some (claimName item.name)
  | .foreign _ _ => none

end AttributeRelease.Transcoding
