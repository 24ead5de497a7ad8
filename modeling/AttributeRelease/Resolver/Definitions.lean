import AttributeRelease.Pattern.Regex
import AttributeRelease.Resolver.Basic

/-!
# Kinds of attribute definitions

Definitions merge the values of their dependencies, scope them, cut a part out of them, or map them;
others take the name of the principal or an attribute that came with the request. The attribute has
the id of its definition.
-/

namespace AttributeRelease.Resolver

variable {σ : Type}

/-- A rule that maps values. -/
structure Mapping where
  source : Pattern.Regex
  returnValue : String

/-- The text a rule maps a text to, if it applies. -/
def Mapping.apply? (mapping : Mapping) (text : String) : Option String :=
  (mapping.source.find? text).map fun found => found.expand mapping.returnValue

/-- A kind of definition. -/
inductive DefinitionKind where
  | simple
  | scoped (scope : String)
  | regexSplit (regex : Pattern.Regex)
  | mapped (mappings : List Mapping) (default : Option String) (passThrough : Bool)
  | principalName
  | contextDerived (inboundId : Option String)

/-- The values that a text is mapped to: what the rules that apply make of it, and if none does, the
text itself or the default value. -/
def mapText (mappings : List Mapping) (default : Option String) (passThrough : Bool)
    (text : String) : List Value :=
  match mappings.filterMap fun mapping => mapping.apply? text with
  | [] =>
    if passThrough then [.ofText text]
    else (default.map Value.ofText).toList
  | mapped => mapped.map Value.ofText

/-- The values that values are mapped to; without any, the default value. -/
def mapValues (mappings : List Mapping) (default : Option String) (passThrough : Bool)
    (values : List Value) : List Value :=
  (if values.isEmpty then (default.map Value.ofText).toList else []) ++
    (values.filterMap Value.text?).flatMap (mapText mappings default passThrough)

/-- The part of a text that the first group of a regular expression matches. -/
def splitText? (regex : Pattern.Regex) (text : String) : Option Value :=
  ((regex.find? text).bind fun found => found.group? 1).map Value.ofText

/-- The values of a definition, `none` if there is no attribute. -/
def DefinitionKind.values (settings : DefinitionSettings) (resolution : Resolution) :
    DefinitionKind → Except ResolutionError (Option (List Value))
  | .simple => .ok (some (merged ()))
  | .scoped scope =>
    .ok (some ((merged ()).filterMap fun value => value.text?.map (Value.ofScoped · scope)))
  | .regexSplit regex =>
    .ok (some (((merged ()).filterMap Value.text?).filterMap (splitText? regex)))
  | .mapped mappings default passThrough =>
    .ok (some (mapValues mappings default passThrough (merged ())))
  | .principalName =>
    match resolution.request.principal with
    | some principal => .ok (some [.ofText principal])
    | none => .error (.invalidInput settings.id "no authenticated principal")
  | .contextDerived inboundId =>
    .ok ((resolution.inbound.get? (inboundId.getD settings.id)).map Attribute.values)
where
  /-- The values of the dependencies. -/
  merged (_ : Unit) : List Value :=
    resolution.mergedValues settings.dependencies settings.sourceId

/-- The attribute of a definition, whose id must not be blank. -/
def DefinitionKind.compute (kind : DefinitionKind) (settings : DefinitionSettings)
    (resolution : Resolution) : Except ResolutionError (Option Attribute) := do
  match ← kind.values settings resolution with
  | none => return none
  | some values =>
    let attr ← ResolutionError.ofAttribute (Attribute.withValues? settings.id values)
    return some attr

/-- A definition of some kind. -/
def DefinitionKind.toDefinition (kind : DefinitionKind) (settings : DefinitionSettings) :
    Definition σ :=
  ⟨settings, .pure (kind.compute settings)⟩

/-- A connector that always has the same attributes. -/
def staticConnector (settings : ConnectorSettings) (attributes : AttributeMap) : Connector σ :=
  ⟨settings, .pure fun _ => .ok (some attributes)⟩

end AttributeRelease.Resolver
