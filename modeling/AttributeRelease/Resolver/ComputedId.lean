import AttributeRelease.Bytes.Base64
import AttributeRelease.Bytes.Sha1
import AttributeRelease.Resolver.Basic

/-!
# Computed identifiers

A computed id is the digest of a relying party, a value of the subject and a secret salt. It stays
the same for one subject at one relying party and differs between relying parties.
-/

namespace AttributeRelease.Resolver

variable {σ : Type}

/-- The shortest salt, in bytes. -/
def minSaltLength : Nat := 16

/-- The settings of a connector that computes ids. -/
structure ComputedId where
  settings : ConnectorSettings
  sourceId : String
  generatedId : String
  salt : List UInt8

namespace ComputedId

/-- The bytes of a text in UTF-8. -/
def utf8 (text : String) : List UInt8 := text.toUTF8.data.toList

/-- Checks the salt, then the source attribute. The id is generated under the connector's own id
unless another one is given. -/
def new? (settings : ConnectorSettings) (sourceId : String) (salt : List UInt8)
    (generatedId : Option String) : Except ConfigError ComputedId := do
  if salt.length < minSaltLength then
    throw (.invalidPlugin settings.id
      ("salt must be at least " ++ toString minSaltLength ++ " bytes"))
  if Text.isBlank sourceId then
    throw (.invalidPlugin settings.id "source attribute id is required")
  return { settings, sourceId, generatedId := generatedId.getD settings.id, salt }

/-- The bytes that an id is the digest of. -/
def preimage (connector : ComputedId) (requester value : String) : List UInt8 :=
  utf8 requester ++ utf8 "!" ++ utf8 value ++ utf8 "!" ++ connector.salt

/-- The id of a subject at a relying party. -/
def compute (connector : ComputedId) (requester value : String) : String :=
  Bytes.Base64.encode (Bytes.Sha1.digest (connector.preimage requester value))

/-- Computes the id of the request's subject from the first text among the dependencies' values. -/
def fetch (connector : ComputedId) (resolution : Resolution) :
    Except ResolutionError (Option AttributeMap) := do
  let some requester := resolution.request.requester
    | throw (.invalidInput connector.settings.id "no requester to compute an id for")
  let values := resolution.mergedValues connector.settings.dependencies connector.sourceId
  match values.findSome? Value.text? with
  | none => return none
  | some value =>
    let id := Value.ofText (connector.compute requester value)
    let attr ← ResolutionError.ofAttribute (Attribute.withValues? connector.generatedId [id])
    return some (KeyMap.empty.insert connector.generatedId attr)

/-- A resolution in which the connector computes an id: its relying party, and the value of the
subject that the connector finds. -/
structure ComputesFor (connector : ComputedId) (resolution : Resolution)
    (requester value : String) : Prop where
  requester_eq : resolution.request.requester = some requester
  value_eq : (resolution.mergedValues connector.settings.dependencies
    connector.sourceId).findSome? Value.text? = some value

/-- The connector answers with one attribute that has the id it has computed, if that can be the id
of an attribute. -/
theorem fetch_eq_some_iff {connector : ComputedId} {resolution : Resolution}
    {attributes : AttributeMap} :
    connector.fetch resolution = .ok (some attributes) ↔
      Text.isBlank connector.generatedId = false ∧
        ∃ requester value, connector.ComputesFor resolution requester value ∧
          attributes = KeyMap.empty.insert connector.generatedId
            { id := connector.generatedId
              values := [.ofText (connector.compute requester value)] } := by
  constructor
  · intro fetched
    unfold fetch at fetched
    split at fetched
    · rename_i requester requested
      simp only at fetched
      split at fetched
      · cases fetched
      · rename_i value found
        obtain ⟨attr, made, last⟩ := exists_of_bind_eq_ok fetched
        cases last
        have made := ResolutionError.eq_ok_of_ofAttribute made
        obtain ⟨named, rfl⟩ := Attribute.withValues?_eq_ok_iff.mp made
        exact ⟨named, requester, value, ⟨requested, found⟩, rfl⟩
    · cases fetched
  · rintro ⟨named, requester, value, computes, rfl⟩
    have made (id : Value) : Attribute.withValues? connector.generatedId [id] =
        .ok { id := connector.generatedId, values := [id] } :=
      Attribute.withValues?_eq_ok_iff.mpr ⟨named, rfl⟩
    simp only [fetch, computes.requester_eq, computes.value_eq, made]
    rfl

/-- The connector as a plugin. -/
def toConnector (connector : ComputedId) : Connector σ :=
  ⟨connector.settings, .pure connector.fetch⟩

end ComputedId

end AttributeRelease.Resolver
