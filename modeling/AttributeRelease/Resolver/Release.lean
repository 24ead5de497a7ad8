import AttributeRelease.Resolver.Walk

/-!
# Releasing what was resolved

At the end the attributes of the recorded definitions are released, and after them those that
connectors export, which never replace one of a definition. A released attribute has at least one
value and no value twice.
-/

namespace AttributeRelease.Resolver

variable {σ : Type}

/-- The values of a list without repetitions, each where it stands first. -/
def distinctValues : (seen : List Value) → List Value → List Value
  | _, [] => []
  | seen, value :: rest =>
    if value ∈ seen then distinctValues seen rest
    else value :: distinctValues (value :: seen) rest

/-- The values that are released, without placeholders if these are stripped. -/
def releasableValues (stripNulls : Bool) (values : List Value) : List Value :=
  distinctValues [] (values.filter fun value => !(stripNulls && value.isEmpty))

/-- An attribute with the values that are released, if there are any. -/
def releasable? (stripNulls : Bool) (attr : Attribute) : Option Attribute :=
  match releasableValues stripNulls attr.values with
  | [] => none
  | values => some { attr with values }

/-- An attribute with display texts in place of its own, where there are any. -/
def withDisplay (attr : Attribute) (names descriptions : Option (KeyMap String)) : Attribute :=
  { attr with
    displayNames := names.getD attr.displayNames
    displayDescriptions := descriptions.getD attr.displayDescriptions }

/-- Texts that are not empty. -/
def unlessEmpty (texts : KeyMap String) : Option (KeyMap String) :=
  if texts.isEmpty then none else some texts

/-- The attribute that a recorded definition contributes. -/
def contributed? (resolver : Resolver σ) (includeDependencyOnly : Bool)
    (record : DefinitionRecord) : Option Attribute := do
  let attr ← record.attr
  if record.dependencyOnly && !includeDependencyOnly then none
  let attr ← releasable? resolver.stripNulls attr
  if resolver.suppressDisplay then return attr
  match resolver.definitions.get? record.definitionId with
  | some definition =>
    return withDisplay attr (unlessEmpty definition.settings.displayNames)
      (unlessEmpty definition.settings.displayDescriptions)
  | none => return attr

/-- The attributes of the recorded definitions by their ids; of two with one id the later counts. -/
def definedAttributes (resolver : Resolver σ) (includeDependencyOnly : Bool)
    (resolution : Resolution) : AttributeMap :=
  .ofList ((resolution.definitions.values.filterMap
    (contributed? resolver includeDependencyOnly)).map fun attr => (attr.id, attr))

/-- The attribute that a connector exports under a key. -/
def exported? (resolver : Resolver σ) (settings : ConnectorSettings) (key : String)
    (attr : Attribute) : Option Attribute := do
  if !settings.exported.exports key then none
  let attr ← releasable? resolver.stripNulls attr
  if resolver.suppressDisplay then return attr
  return withDisplay attr (settings.displayNames.get? key) (settings.displayDescriptions.get? key)

/-- Adds an attribute that a connector exports, unless there is one under its key. -/
def addExported (resolver : Resolver σ) (settings : ConnectorSettings) (released : AttributeMap)
    (entry : String × Attribute) : AttributeMap :=
  if released.contains entry.1 then released
  else
    match exported? resolver settings entry.1 entry.2 with
    | some attr => released.insert entry.1 attr
    | none => released

/-- Adds the attributes that a connector exports. -/
def addExports (resolver : Resolver σ) (resolution : Resolution) (released : AttributeMap)
    (connector : Connector σ) : AttributeMap :=
  if connector.settings.exported.isExporting then
    match resolution.fetchedAttributes? connector.settings.id with
    | some attributes =>
      attributes.entries.foldl (addExported resolver connector.settings) released
    | none => released
  else released

/-- The attributes that a resolution releases. -/
def releasedAttributes (resolver : Resolver σ) (resolution : Resolution) : AttributeMap :=
  resolver.connectors.values.foldl (addExports resolver resolution)
    (definedAttributes resolver false resolution)

/-- The definitions that are resolved before all else. -/
def preRequestedIds (resolver : Resolver σ) : List String :=
  (resolver.definitions.values.filter fun d => d.settings.preRequested).map fun d => d.settings.id

/-- The connectors that export attributes. -/
def exportingIds (resolver : Resolver σ) : List String :=
  (resolver.connectors.values.filter fun c => c.settings.exported.isExporting).map
    fun c => c.settings.id

/-- The definitions asked for; asking for none asks for all. -/
def requestedIds (resolver : Resolver σ) (resolution : Resolution) : List String :=
  if resolution.requestedIds.isEmpty then resolver.definitions.keys else resolution.requestedIds

/-- Visits several plugins from outside the graph. -/
def visitAll (resolver : Resolver σ) (clock : σ → Instant × σ) (refs : List PluginRef) : Step σ :=
  let depth := (graphOf resolver.definitions resolver.connectors).plugins.length
  Step.forEach (visit resolver clock depth []) refs

/-- Resolves what is needed before all else and keeps its attributes for other plugins. -/
def preResolve (resolver : Resolver σ) (clock : σ → Instant × σ) : Step σ := fun progress =>
  match preRequestedIds resolver with
  | [] => (.ok (), progress)
  | ids =>
    Step.andThen (visitAll resolver clock (ids.map .definition))
      (fun progress =>
        let resolution := progress.resolution
        let preResolved := definedAttributes resolver true resolution
        (.ok (), { progress with resolution := { resolution with preResolved } }))
      progress

/-- Sets the attributes that are released. -/
def setReleased (resolver : Resolver σ) : Step σ := fun progress =>
  let resolution := progress.resolution
  let released := releasedAttributes resolver resolution
  (.ok (), { progress with resolution := { resolution with released } })

/-- Resolves a request: first the definitions that come before all else, then the connectors that
export, then the definitions asked for. -/
def resolve (resolver : Resolver σ) (clock : σ → Instant × σ) : Step σ :=
  Step.andThen (preResolve resolver clock) <|
  Step.andThen (visitAll resolver clock ((exportingIds resolver).map .connector)) <|
  Step.andThen
    (fun progress => visitAll resolver clock
      ((requestedIds resolver progress.resolution).map .definition) progress)
    (setReleased resolver)

end AttributeRelease.Resolver
