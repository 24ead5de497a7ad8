import AttributeRelease.Resolver.Basic
import AttributeRelease.Resolver.Query.Cache
import AttributeRelease.Resolver.Query.Template
import AttributeRelease.Text.Lowercase

/-!
# Connectors that query a source

A query connector renders its template, asks its source unless the cache knows the answer, and turns
the reply into attributes. Directories reply with entries of named values, databases with rows of
columns. A reply without entries is no result; what cannot be used is not kept in the cache.
-/

namespace AttributeRelease.Resolver.Query

variable {σ ρ : Type}

/-- Values gathered under the ids of attributes: several lists for one id are joined in order. An id
must not be blank. -/
def gather (attributes : AttributeMap) :
    List (String × List Value) → Except AttributeError AttributeMap
  | [] => .ok attributes
  | (id, values) :: rest =>
    match attributes.get? id with
    | some attr => gather (attributes.insert id { attr with values := attr.values ++ values }) rest
    | none => do
      let attr ← Attribute.withValues? id values
      gather (attributes.insert id attr) rest

/-- A source of replies and what is made of them. -/
structure Source (σ ρ : Type) where
  /-- Asks the source a query. -/
  ask : String → σ → Except String ρ × σ
  /-- The attributes of a reply, none if there is nothing in it. -/
  interpret : ρ → Except ResolutionError (Option AttributeMap)

/-- A connector that queries a source. -/
structure QueryConnector (σ ρ : Type) where
  settings : ConnectorSettings
  template : Template
  escape : String → String
  source : Source σ ρ
  cache : Option (CacheSlot σ) := none
  /-- What is said when the source fails. -/
  failure : String

namespace QueryConnector

/-- The answer that the cache has for a query. -/
def cached? (connector : QueryConnector σ ρ) (query : String) (world : σ) : Option AttributeMap :=
  connector.cache.bind fun slot => (slot.read world).get? query

/-- Keeps an answer in the cache. -/
def store (connector : QueryConnector σ ρ) (query : String) (attributes : AttributeMap)
    (world : σ) : σ :=
  match connector.cache with
  | some slot => slot.write ((slot.read world).insert query attributes) world
  | none => world

/-- Asks the source a query. -/
def ask (connector : QueryConnector σ ρ) (query : String) (world : σ) :
    Except ResolutionError (Option AttributeMap) × σ :=
  let (reply, world) := connector.source.ask query world
  match reply with
  | .error cause =>
    (.error (.failed connector.settings.id connector.failure (some cause)), world)
  | .ok reply =>
    match connector.source.interpret reply with
    | .ok (some attributes) => (.ok (some attributes), connector.store query attributes world)
    | outcome => (outcome, world)

/-- Renders the query and answers it from the cache or the source. -/
def fetch (connector : QueryConnector σ ρ) : Action σ (Option AttributeMap) :=
  fun resolution world =>
    let sources := Sources.of resolution connector.settings.dependencies
    match connector.template.render connector.settings.id sources connector.escape with
    | .error error => (.error error, world)
    | .ok query =>
      match connector.cached? query world with
      | some attributes => (.ok (some attributes), world)
      | none => connector.ask query world

/-- The connector as a plugin. -/
def toConnector (connector : QueryConnector σ ρ) : Connector σ :=
  ⟨connector.settings, connector.fetch⟩

end QueryConnector

/-! ## Directories -/

/-- An entry of a directory: values by name. -/
abbrev Entry := KeyMap (List String)

/-- The values of an entry under the ids of attributes. -/
def entryValues (renames : KeyMap String) (entry : Entry) : List (String × List Value) :=
  entry.entries.map fun (name, values) => ((renames.get? name).getD name, values.map Value.ofText)

/-- The attributes of entries. -/
def entryAttributes (renames : KeyMap String) (entries : List Entry) :
    Except AttributeError AttributeMap :=
  gather ∅ (entries.flatMap (entryValues renames))

/-- What a directory connector makes of the entries it finds; more than one may be an error. -/
def interpretEntries (pluginId : String) (renames : KeyMap String) (multiple : Bool)
    (entries : List Entry) : Except ResolutionError (Option AttributeMap) := do
  if entries.isEmpty then return none
  if 1 < entries.length && !multiple then
    throw (.invalidInput pluginId
      ("search returned " ++ toString entries.length ++ " entries, expected one"))
  let attributes ← ResolutionError.ofAttribute (entryAttributes renames entries)
  return some attributes

/-- A connector to a directory. -/
def directory (settings : ConnectorSettings) (template : Template) (renames : KeyMap String)
    (multiple : Bool) (cache : Option (CacheSlot σ))
    (search : String → σ → Except String (List Entry) × σ) : QueryConnector σ (List Entry) where
  settings := settings
  template := template
  escape := escapeLdap
  source := ⟨search, interpretEntries settings.id renames multiple⟩
  cache := cache
  failure := "directory search failed"

/-- Prepares a connector to a directory. -/
def directory? (settings : ConnectorSettings) (filter : String) (renames : KeyMap String)
    (multiple : Bool) (cache : Option (CacheSlot σ))
    (search : String → σ → Except String (List Entry) × σ) :
    Except ConfigError (Connector σ) := do
  let template ← Template.forPlugin settings.id filter
  return (directory settings template renames multiple cache search).toConnector

/-! ## Databases -/

/-- A row of a table: texts by column, some of which may be missing. -/
abbrev Row := KeyMap (Option String)

/-- The value of a column. -/
def columnValue : Option String → Value
  | some text => .ofText text
  | none => .null

/-- Names that replace those of columns, under the columns in lower case. -/
def columnRenames (renames : List (String × String)) : KeyMap String :=
  .ofList (renames.map fun (column, name) => (Text.lowercase column, name))

/-- The values of a row under the ids of attributes, the columns taken in lower case. -/
def rowValues (renames : KeyMap String) (row : Row) : List (String × List Value) :=
  row.entries.map fun (column, value) =>
    let column := Text.lowercase column
    ((renames.get? column).getD column, [columnValue value])

/-- The attributes of rows. -/
def rowAttributes (renames : KeyMap String) (rows : List Row) :
    Except AttributeError AttributeMap :=
  gather ∅ (rows.flatMap (rowValues renames))

/-- What a database connector makes of the rows it finds. -/
def interpretRows (renames : KeyMap String) (rows : List Row) :
    Except ResolutionError (Option AttributeMap) := do
  if rows.isEmpty then return none
  let attributes ← ResolutionError.ofAttribute (rowAttributes renames rows)
  return some attributes

/-- A connector to a database. -/
def relational (settings : ConnectorSettings) (template : Template)
    (renames : List (String × String)) (cache : Option (CacheSlot σ))
    (run : String → σ → Except String (List Row) × σ) : QueryConnector σ (List Row) where
  settings := settings
  template := template
  escape := escapeSql
  source := ⟨run, interpretRows (columnRenames renames)⟩
  cache := cache
  failure := "query failed"

/-- Prepares a connector to a database. -/
def relational? (settings : ConnectorSettings) (query : String)
    (renames : List (String × String)) (cache : Option (CacheSlot σ))
    (run : String → σ → Except String (List Row) × σ) : Except ConfigError (Connector σ) := do
  let template ← Template.forPlugin settings.id query
  return (relational settings template renames cache run).toConnector

end AttributeRelease.Resolver.Query
