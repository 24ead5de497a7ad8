import AttributeRelease.Transcoding.Codec.Claim
import AttributeRelease.Transcoding.Codec.Saml
import AttributeRelease.Transcoding.Naming

/-!
# The registry of rules

Rules are installed for attributes in order. A rule is dropped when its attribute has no id, its
codec is unknown, or it does not say what its attribute is called. Every other rule is found under
the id of its attribute and under the canonical name of what it writes, both times by the
representation it writes. To encode an attribute is to apply every rule for its id that holds for
the request, and to decode one on the wire, every rule for its name; a rule that fails or has
nothing to say is passed over.
-/

namespace AttributeRelease.Transcoding

/-- Codecs by tag. -/
abbrev Codecs := KeyMap Codec

/-- The known codecs. -/
def Codecs.standard : Codecs :=
  KeyMap.ofList [
    ("saml2_string", .saml2 .plain), ("saml2_scoped", .saml2 .withScope),
    ("saml2_base64", .saml2 .base64), ("saml1_string", .saml1 .plain), ("oidc_string", .claim)]

/-- How a rule names its codec. -/
inductive CodecRef where
  | ready (codec : Codec)
  | tagged (tag : String)

/-- The codec that is meant. -/
def CodecRef.resolve? (codecs : Codecs) : CodecRef → Option Codec
  | .ready codec => some codec
  | .tagged tag => codecs.get? tag

/-- A rule to be installed for an attribute. -/
structure Installation where
  attributeId : String
  codec : CodecRef
  rule : Rule

/-- A rule with its codec. -/
structure InstalledRule where
  codec : Codec
  rule : Rule

/-- A rule that was installed, and the canonical name of what it writes. -/
structure Posting where
  encodedName : String
  installed : InstalledRule

/-- Binds a rule to its attribute and its codec, if it is to be kept. -/
def Installation.post? (codecs : Codecs) (installation : Installation) : Option Posting := do
  let attributeId := Text.trim installation.attributeId
  if attributeId = "" then none
  let codec ← installation.codec.resolve? codecs
  let encodedName ← codec.encodedName? installation.rule
  return ⟨encodedName, codec, installation.rule.install attributeId⟩

/-- Rules by key and then by representation, each list in the order of installation. -/
abbrev RuleIndex := KeyMap (KeyMap (List InstalledRule))

namespace RuleIndex

/-- The rules for a representation under a key. -/
def rulesFor (index : RuleIndex) (key : String) (type : TypeTag) : List InstalledRule :=
  ((index.get? key).bind (·.get? type)).getD []

/-- Adds a rule under a key. -/
def addUnder (index : RuleIndex) (key : String) (installed : InstalledRule) : RuleIndex :=
  let type := installed.codec.encodedType
  let byType := (index.get? key).getD ∅
  index.insert key (byType.insert type (index.rulesFor key type ++ [installed]))

/-- Adds a rule under the id of its attribute and under the name of what it writes. -/
def add (index : RuleIndex) (posting : Posting) : RuleIndex :=
  (index.addUnder posting.installed.rule.attributeId posting.installed).addUnder
    posting.encodedName posting.installed

end RuleIndex

/-- What a registry is built from. -/
structure RegistryPlan where
  codecs : Codecs := .standard
  naming : Naming := .standard
  installations : List Installation := []

/-- Rules that can be looked up in both directions. -/
structure Registry where
  naming : Naming
  index : RuleIndex

/-- Installs rules for an attribute after those there are. -/
def RegistryPlan.install (plan : RegistryPlan) (attributeId : String)
    (rules : List (CodecRef × Rule)) : RegistryPlan :=
  { plan with
    installations := plan.installations ++
      rules.map fun (codec, rule) => ⟨attributeId, codec, rule⟩ }

/-- Builds the registry of the rules that are kept. -/
def RegistryPlan.build (plan : RegistryPlan) : Registry where
  naming := plan.naming
  index := (plan.installations.filterMap (Installation.post? plan.codecs)).foldl RuleIndex.add ∅

namespace Registry

/-- The rules that write the attribute of an id in a representation. -/
def lookup (registry : Registry) (attributeId : String) (target : TypeTag) : List InstalledRule :=
  match registry.naming.effectiveType? target with
  | some type => registry.index.rulesFor attributeId type
  | none => []

/-- The rules that read an attribute on the wire. -/
def lookupWire (registry : Registry) (wire : Wire) : List InstalledRule :=
  match registry.naming.canonicalName? wire with
  | some (type, name) => registry.index.rulesFor name type
  | none => []

/-- What a rule writes for an attribute, if it holds and succeeds. -/
def encodeWith? (request : Request) (attr : Attribute) (installed : InstalledRule) : Option Wire :=
  if installed.rule.isActive request then
    (installed.codec.encode request attr installed.rule).toOption.join
  else none

/-- What a rule reads from an attribute on the wire, if it holds and succeeds. -/
def decodeWith? (request : Request) (wire : Wire) (installed : InstalledRule) : Option Attribute :=
  if installed.rule.isActive request then
    (installed.codec.decode request wire installed.rule).toOption.join
  else none

/-- Writes an attribute in a representation by every rule for it. -/
def encode (registry : Registry) (request : Request) (attr : Attribute) (target : TypeTag) :
    List Wire :=
  (registry.lookup attr.id target).filterMap (encodeWith? request attr)

/-- Reads an attribute on the wire by every rule for it. -/
def decode (registry : Registry) (request : Request) (wire : Wire) : List Attribute :=
  (registry.lookupWire wire).filterMap (decodeWith? request wire)

end Registry

end AttributeRelease.Transcoding
