import AttributeRelease.Attribute.Basic
import AttributeRelease.Attribute.Request
import AttributeRelease.Resolver.Graph

/-!
# The state of a request

A resolution holds the request, the ids asked for, the attributes that came with the request, and
the results of the plugins resolved so far, each of which is recorded once. Plugins read the values
of their dependencies from it: `mergedValues` as one list, `groupedValues` by attribute.
-/

namespace AttributeRelease.Resolver

/-- The result of an attribute definition. -/
structure DefinitionRecord where
  definitionId : String
  attr : Option Attribute
  dependencyOnly : Bool
  deriving DecidableEq

/-- The result of a data connector, and the connector it was taken from. -/
structure ConnectorRecord where
  connectorId : String
  resolvedBy : String
  attributes : Option AttributeMap
  deriving DecidableEq

namespace ConnectorRecord

/-- A result without attributes. -/
def empty (connectorId : String) : ConnectorRecord := ⟨connectorId, connectorId, none⟩

/-- Whether the result was taken from another connector. -/
def usedFailover (record : ConnectorRecord) : Bool := record.connectorId != record.resolvedBy

end ConnectorRecord

/-- The state of one request. -/
structure Resolution where
  request : Request := {}
  requestedIds : List String := []
  inbound : AttributeMap := ∅
  definitions : KeyMap DefinitionRecord := ∅
  connectors : KeyMap ConnectorRecord := ∅
  preResolved : AttributeMap := ∅
  released : AttributeMap := ∅

namespace Resolution

/-- Whether a plugin has a result. -/
def isRecorded (resolution : Resolution) : PluginRef → Bool
  | .definition id => resolution.definitions.contains id
  | .connector id => resolution.connectors.contains id

/-- The attribute of a resolved definition. -/
def definedAttribute? (resolution : Resolution) (id : String) : Option Attribute :=
  (resolution.definitions.get? id).bind DefinitionRecord.attr

/-- The attributes of a resolved connector. -/
def fetchedAttributes? (resolution : Resolution) (id : String) : Option AttributeMap :=
  (resolution.connectors.get? id).bind ConnectorRecord.attributes

/-- Records the result of a definition. -/
def recordDefinition (resolution : Resolution) (record : DefinitionRecord) : Resolution :=
  { resolution with definitions := resolution.definitions.insert record.definitionId record }

/-- Records the result of a connector. -/
def recordConnector (resolution : Resolution) (record : ConnectorRecord) : Resolution :=
  { resolution with connectors := resolution.connectors.insert record.connectorId record }

/-- Takes the released attributes out. -/
def takeReleased (resolution : Resolution) : AttributeMap × Resolution :=
  (resolution.released, { resolution with released := ∅ })

/-- The values of an attribute that may be missing. -/
def valuesOf (attr : Option Attribute) : List Value := (attr.map Attribute.values).getD []

/-- The values that a dependency on a connector merges: those of the attributes it lists, or those
of the source attribute if it lists none. -/
def connectorValues (resolution : Resolution) (sourceId : String)
    (dependency : ConnectorDependency) : List Value :=
  match resolution.fetchedAttributes? dependency.connectorId with
  | none => []
  | some attributes =>
    if dependency.attributeIds.isEmpty then valuesOf (attributes.get? sourceId)
    else dependency.attributeIds.flatMap fun id => valuesOf (attributes.get? id)

/-- The values of all dependencies in order, definitions before connectors. -/
def mergedValues (resolution : Resolution) (dependencies : Dependencies) (sourceId : String) :
    List Value :=
  (dependencies.attributes.flatMap fun id => valuesOf (resolution.definedAttribute? id)) ++
    dependencies.connectors.flatMap (resolution.connectorValues sourceId)

/-- Adds values to those of a group. -/
def addValues (groups : KeyMap (List Value)) (key : String) (values : List Value) :
    KeyMap (List Value) :=
  groups.insert key ((groups.get? key).getD [] ++ values)

/-- Adds the values of a definition, under the id of its attribute. -/
def addDefinition (resolution : Resolution) (groups : KeyMap (List Value)) (id : String) :
    KeyMap (List Value) :=
  match resolution.definedAttribute? id with
  | some attr => addValues groups attr.id attr.values
  | none => groups

/-- Whether a dependency on a connector takes an attribute. -/
def takes (dependency : ConnectorDependency) (attributeId : String) : Bool :=
  dependency.attributeIds.isEmpty || dependency.attributeIds.contains attributeId

/-- Adds the values of a connector, each under the key it has there. -/
def addConnector (resolution : Resolution) (groups : KeyMap (List Value))
    (dependency : ConnectorDependency) : KeyMap (List Value) :=
  match resolution.fetchedAttributes? dependency.connectorId with
  | some attributes =>
    (attributes.entries.filter fun entry => takes dependency entry.1).foldl
      (fun groups entry => addValues groups entry.1 entry.2.values) groups
  | none => groups

/-- The values of all dependencies by attribute. -/
def groupedValues (resolution : Resolution) (dependencies : Dependencies) : KeyMap (List Value) :=
  dependencies.connectors.foldl resolution.addConnector
    (dependencies.attributes.foldl resolution.addDefinition ∅)

end Resolution

end AttributeRelease.Resolver
