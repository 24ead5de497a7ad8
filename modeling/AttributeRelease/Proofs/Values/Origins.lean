import AttributeRelease.Proofs.Transcoding.Index
import AttributeRelease.Resolver.Config.Basic
import AttributeRelease.Resolver.Query.Connector

/-!
# Where values come from

Definitions, connectors and codecs make a value by `Value.ofText`, `Value.ofScoped` or
`Value.ofBytes`, or copy one that they are shown. So from normalised attributes they make normalised
ones, whatever is configured, whatever a source replies and whatever arrives on the wire.
-/

namespace AttributeRelease

/-- Each value of the attribute has content or is a placeholder. -/
def Attribute.Normalised (attr : Attribute) : Prop := ∀ value ∈ attr.values, value.Normalised

/-- Each attribute of the map is normalised. -/
def AttributeMap.Normalised (attributes : AttributeMap) : Prop :=
  ∀ key attr, attributes.get? key = some attr → attr.Normalised

theorem AttributeMap.normalised_empty : AttributeMap.Normalised ∅ := by
  intro key attr found
  cases found

theorem AttributeMap.Normalised.insert {attributes : AttributeMap}
    (normalised : attributes.Normalised) {key : String} {attr : Attribute} (own : attr.Normalised) :
    AttributeMap.Normalised (KeyMap.insert attributes key attr) :=
  KeyMap.holds_of_get?_insert own normalised

/-- An attribute is as normalised as the values that it is made of. -/
theorem Attribute.normalised_of_withValues? {id : String} {values : List Value} {attr : Attribute}
    (made : withValues? id values = .ok attr) (normalised : ∀ value ∈ values, value.Normalised) :
    attr.Normalised := by
  cases eq_of_withValues? made
  exact normalised

/-- Values that are made of texts are normalised whatever the texts, empty ones included. -/
theorem Value.normalised_texts (texts : List String) :
    ∀ value ∈ texts.map ofText, value.Normalised :=
  List.forall_mem_map.mpr fun text _ => normalised_ofText text

namespace Resolver

variable {σ : Type}

/-! ## Definitions -/

/-- What plugins are shown of a request is normalised: the attributes that came with it and those
that are recorded. -/
structure Resolution.ShowsNormalised (resolution : Resolution) : Prop where
  inbound : resolution.inbound.Normalised
  definitions : ∀ id record, resolution.definitions.get? id = some record →
    ∀ attr, record.attr = some attr → attr.Normalised
  connectors : ∀ id record, resolution.connectors.get? id = some record →
    ∀ attributes, record.attributes = some attributes → attributes.Normalised

namespace Resolution.ShowsNormalised

variable {resolution : Resolution}

theorem definedAttribute? (normalised : resolution.ShowsNormalised) {id : String}
    {attr : Attribute} (found : resolution.definedAttribute? id = some attr) : attr.Normalised := by
  obtain ⟨record, recorded, has⟩ := Option.bind_eq_some_iff.mp found
  exact normalised.definitions id record recorded attr has

theorem fetchedAttributes? (normalised : resolution.ShowsNormalised) {id : String}
    {attributes : AttributeMap} (found : resolution.fetchedAttributes? id = some attributes) :
    attributes.Normalised := by
  obtain ⟨record, recorded, has⟩ := Option.bind_eq_some_iff.mp found
  exact normalised.connectors id record recorded attributes has

theorem normalised_valuesOf {found : Option Attribute}
    (normalised : ∀ attr, found = some attr → attr.Normalised) :
    ∀ value ∈ valuesOf found, value.Normalised := by
  cases found with
  | none => exact fun value member => nomatch member
  | some attr => exact normalised attr rfl

/-- Values that are taken from a connector are those of attributes it has recorded. -/
theorem connectorValues (normalised : resolution.ShowsNormalised) (sourceId : String)
    (dependency : ConnectorDependency) :
    ∀ value ∈ resolution.connectorValues sourceId dependency, value.Normalised := by
  intro value member
  rw [Resolution.connectorValues] at member
  split at member
  · cases member
  · rename_i attributes found
    have listed := normalised.fetchedAttributes? found
    split at member
    · exact normalised_valuesOf (fun attr => listed sourceId attr) value member
    · obtain ⟨id, -, member⟩ := List.mem_flatMap.mp member
      exact normalised_valuesOf (fun attr => listed id attr) value member

/-- Values that are merged from dependencies are those of definitions and of connectors. -/
theorem mergedValues (normalised : resolution.ShowsNormalised) (dependencies : Dependencies)
    (sourceId : String) :
    ∀ value ∈ resolution.mergedValues dependencies sourceId, value.Normalised := by
  refine List.forall_mem_append.mpr ⟨fun value member => ?_, fun value member => ?_⟩
  · obtain ⟨id, -, member⟩ := List.mem_flatMap.mp member
    exact normalised_valuesOf (fun attr => normalised.definedAttribute?) value member
  · obtain ⟨dependency, -, member⟩ := List.mem_flatMap.mp member
    exact normalised.connectorValues sourceId dependency value member

end Resolution.ShowsNormalised

theorem normalised_default (default : Option String) :
    ∀ value ∈ (default.map Value.ofText).toList, value.Normalised := by
  cases default with
  | none => exact fun value member => nomatch member
  | some text => exact Value.normalised_texts [text]

/-- A text is mapped to values that are made of texts: those of mappings, the default or itself. -/
theorem normalised_mapText (mappings : List Mapping) (default : Option String) (passThrough : Bool)
    (text : String) : ∀ value ∈ mapText mappings default passThrough text, value.Normalised := by
  unfold mapText
  split
  · split
    · exact Value.normalised_texts [text]
    · exact normalised_default default
  · exact Value.normalised_texts _

/-- Values are mapped to values made of texts; those that are no texts are left out. -/
theorem normalised_mapValues (mappings : List Mapping) (default : Option String)
    (passThrough : Bool) (values : List Value) :
    ∀ value ∈ mapValues mappings default passThrough values, value.Normalised := by
  refine List.forall_mem_append.mpr ⟨?_, fun value member => ?_⟩
  · split
    · exact normalised_default default
    · exact fun value member => nomatch member
  · obtain ⟨text, -, member⟩ := List.mem_flatMap.mp member
    exact normalised_mapText mappings default passThrough text value member

/-- A definition of any kind makes normalised values of those that it is shown. -/
theorem DefinitionKind.normalised_values {kind : DefinitionKind} {settings : DefinitionSettings}
    {resolution : Resolution} {values : List Value} (normalised : resolution.ShowsNormalised)
    (made : kind.values settings resolution = .ok (some values)) :
    ∀ value ∈ values, value.Normalised := by
  match kind, made with
  | .simple, rfl => exact normalised.mergedValues _ _
  | .scoped scope, rfl =>
      intro value member
      obtain ⟨source, -, made⟩ := List.mem_filterMap.mp member
      obtain ⟨text, -, rfl⟩ := Option.map_eq_some_iff.mp made
      exact Value.normalised_ofScoped text scope
  | .regexSplit regex, rfl =>
      intro value member
      obtain ⟨text, -, made⟩ := List.mem_filterMap.mp member
      obtain ⟨part, -, rfl⟩ := Option.map_eq_some_iff.mp made
      exact Value.normalised_ofText part
  | .mapped mappings default passThrough, rfl =>
      exact normalised_mapValues mappings default passThrough _
  | .principalName, made =>
      rw [DefinitionKind.values] at made
      split at made
      · cases made
        exact Value.normalised_texts [_]
      · cases made
  | .contextDerived inboundId, made =>
      obtain ⟨attr, found, rfl⟩ := Option.map_eq_some_iff.mp (Except.ok.inj made)
      exact normalised.inbound _ attr found

/-- A definition of any kind computes normalised values from what it is shown. -/
theorem DefinitionKind.normalised_compute {kind : DefinitionKind} {settings : DefinitionSettings}
    {resolution : Resolution} {attr : Attribute} (normalised : resolution.ShowsNormalised)
    (made : kind.compute settings resolution = .ok (some attr)) : attr.Normalised := by
  obtain ⟨values, found, made⟩ := exists_of_bind_eq_ok made
  cases values with
  | none => cases made
  | some values =>
      obtain ⟨own, named, made⟩ := exists_of_bind_eq_ok made
      cases made
      exact Attribute.normalised_of_withValues? (ResolutionError.eq_ok_of_ofAttribute named)
        (kind.normalised_values normalised found)

/-! ## Connectors -/

/-- Fixed attributes are made of texts. -/
theorem normalised_fixedAttributes (fixed : List (String × List String)) :
    AttributeMap.Normalised ((KeyMap.ofList fixed).mapValues fixedAttribute) := by
  intro key attr found
  rw [KeyMap.get?_mapValues, Option.map_eq_some_iff] at found
  obtain ⟨texts, -, rfl⟩ := found
  exact Value.normalised_texts texts

/-- The id that is computed is the only value, and it is made of a text. -/
theorem ComputedId.normalised_fetch {connector : ComputedId} {seen : Resolution}
    {attributes : AttributeMap} (fetched : connector.fetch seen = .ok (some attributes)) :
    attributes.Normalised := by
  obtain ⟨-, _, _, -, rfl⟩ := fetch_eq_some_iff.mp fetched
  exact AttributeMap.normalised_empty.insert (Value.normalised_texts [_])

namespace Query

/-- Gathering items under their ids adds their values and no others. -/
theorem normalised_gather {attributes result : AttributeMap} {items : List (String × List Value)}
    (gathered : gather attributes items = .ok result) (normalised : attributes.Normalised)
    (each : ∀ item ∈ items, ∀ value ∈ item.2, value.Normalised) : result.Normalised := by
  induction items generalizing attributes with
  | nil =>
      cases gathered
      exact normalised
  | cons item rest ih =>
      obtain ⟨own, others⟩ := List.forall_mem_cons.mp each
      rw [gather] at gathered
      split at gathered
      · rename_i attr found
        have joined := List.forall_mem_append.mpr ⟨normalised _ attr found, own⟩
        exact ih gathered (normalised.insert joined) others
      · obtain ⟨attr, made, gathered⟩ := exists_of_bind_eq_ok gathered
        have new := Attribute.normalised_of_withValues? made own
        exact ih gathered (normalised.insert new) others

/-- A directory connector makes normalised attributes of whatever entries it finds. -/
theorem normalised_interpretEntries {pluginId : String} {renames : KeyMap String} {multiple : Bool}
    {entries : List Entry} {attributes : AttributeMap}
    (made : interpretEntries pluginId renames multiple entries = .ok (some attributes)) :
    attributes.Normalised := by
  have values : ∀ item ∈ entries.flatMap (entryValues renames), ∀ value ∈ item.2,
      value.Normalised := by
    intro item member
    obtain ⟨entry, -, member⟩ := List.mem_flatMap.mp member
    obtain ⟨⟨name, texts⟩, -, rfl⟩ := List.mem_map.mp member
    exact Value.normalised_texts texts
  unfold interpretEntries at made
  split at made
  · cases made
  · simp only at made
    split at made
    · cases made
    · obtain ⟨own, gathered, made⟩ := exists_of_bind_eq_ok made
      cases made
      exact normalised_gather (ResolutionError.eq_ok_of_ofAttribute gathered)
        AttributeMap.normalised_empty values

/-- A column of a row holds a text or NULL, and either makes a normalised value. -/
theorem normalised_columnValue (column : Option String) : (columnValue column).Normalised := by
  cases column with
  | none => trivial
  | some text => exact Value.normalised_ofText text

/-- A database connector makes normalised attributes of whatever rows it finds. -/
theorem normalised_interpretRows {renames : KeyMap String} {rows : List Row}
    {attributes : AttributeMap} (made : interpretRows renames rows = .ok (some attributes)) :
    attributes.Normalised := by
  have values : ∀ item ∈ rows.flatMap (rowValues renames), ∀ value ∈ item.2, value.Normalised := by
    intro item member
    obtain ⟨row, -, member⟩ := List.mem_flatMap.mp member
    obtain ⟨⟨column, value⟩, -, rfl⟩ := List.mem_map.mp member
    exact List.forall_mem_singleton.mpr (normalised_columnValue value)
  unfold interpretRows at made
  split at made
  · cases made
  · obtain ⟨own, gathered, made⟩ := exists_of_bind_eq_ok made
    cases made
    exact normalised_gather (ResolutionError.eq_ok_of_ofAttribute gathered)
      AttributeMap.normalised_empty values

end Query

end Resolver

/-! ## Codecs -/

namespace Transcoding

/-- The codec is one of the known ones. -/
def Codec.IsKnown (codec : Codec) : Prop := ∃ tag, Codecs.standard.get? tag = some codec

/-- Codecs end by making an attribute of the values that they read. -/
theorem normalised_of_decoded {rule : Rule} {values : List Value} {attr : Attribute}
    (normalised : ∀ value ∈ values, value.Normalised)
    (read : rule.decoded values >>= (fun own => .ok (some own)) = .ok (some attr)) :
    attr.Normalised := by
  obtain ⟨back, decoded, read⟩ := exists_of_bind_eq_ok read
  obtain ⟨own, made, decoded⟩ := exists_of_bind_eq_ok decoded
  cases read
  cases decoded
  cases Attribute.eq_of_withValues? (TranscodingError.eq_ok_of_ofAttribute made)
  exact normalised

namespace SamlValueCodec

/-- What is read value by value is normalised. -/
def ReadsNormalised (codec : SamlValueCodec) : Prop :=
  ∀ wire value, codec.decode? wire = some value → value.Normalised

/-- A plain text on the wire may be empty and is then read as a placeholder. -/
theorem plain_readsNormalised : plain.ReadsNormalised := by
  intro wire value read
  cases read
  exact Value.normalised_ofText wire.text

/-- A scoped text on the wire may lack its value or its scope and is then read without one. -/
theorem withScope_readsNormalised : withScope.ReadsNormalised := by
  intro wire value read
  simp only [withScope, Option.map_eq_some_iff] at read
  obtain ⟨⟨text, scope⟩, -, rfl⟩ := read
  exact Value.normalised_ofScoped text scope

/-- An empty text on the wire holds no bytes and is read as a placeholder. -/
theorem base64_readsNormalised : base64.ReadsNormalised := by
  intro wire value read
  simp only [base64, Option.map_eq_some_iff] at read
  obtain ⟨bytes, -, rfl⟩ := read
  exact Value.normalised_ofBytes bytes

end SamlValueCodec

/-- The attributes that a codec reads are normalised. -/
def Codec.ReadsNormalised (codec : Codec) : Prop :=
  ∀ request wire rule attr, codec.decode request wire rule = .ok (some attr) → attr.Normalised

/-- A codec that reads single values normalised reads lists of them normalised. -/
theorem normalised_of_readValues {codec : SamlValueCodec} (reads : codec.ReadsNormalised)
    (wires : List SamlValue) : ∀ value ∈ wires.filterMap codec.decode?, value.Normalised := by
  intro value member
  obtain ⟨wire, -, read⟩ := List.mem_filterMap.mp member
  exact reads wire value read

/-- The codec of SAML 2 attributes reads what its codec of values reads. -/
theorem Codec.saml2_readsNormalised {codec : SamlValueCodec} (reads : codec.ReadsNormalised) :
    (saml2 codec).ReadsNormalised := by
  intro request wire rule attr read
  cases wire with
  | saml2 own => exact normalised_of_decoded (normalised_of_readValues reads own.values) read
  | saml1 | claim | foreign => cases read

/-- The codec of SAML 1 attributes reads what its codec of values reads. -/
theorem Codec.saml1_readsNormalised {codec : SamlValueCodec} (reads : codec.ReadsNormalised) :
    (saml1 codec).ReadsNormalised := by
  intro request wire rule attr read
  cases wire with
  | saml1 own => exact normalised_of_decoded (normalised_of_readValues reads own.values) read
  | saml2 | claim | foreign => cases read

/-- A text, number or truth value in a claim is read as a text. -/
theorem normalised_of_scalarValue? {document : Json} {value : Value}
    (read : scalarValue? document = some value) : value.Normalised := by
  cases document with
  | string text =>
      cases read
      exact Value.normalised_ofText text
  | number n =>
      obtain ⟨text, -, rfl⟩ := Option.map_eq_some_iff.mp read
      exact Value.normalised_ofText text
  | bool value =>
      cases read
      exact Value.normalised_ofText _
  | _ => cases read

/-- The items of a claim are read one by one, as texts. -/
theorem normalised_of_claimValues? {document : Json} {values : List Value}
    (read : claimValues? document = some values) : ∀ value ∈ values, value.Normalised := by
  unfold claimValues? at read
  split at read
  · cases read
    intro value member
    obtain ⟨item, -, scalar⟩ := List.mem_filterMap.mp member
    exact normalised_of_scalarValue? scalar
  · cases read
    exact fun value member => nomatch member
  · obtain ⟨value, scalar, rfl⟩ := Option.map_eq_some_iff.mp read
    exact List.forall_mem_singleton.mpr (normalised_of_scalarValue? scalar)

/-- The codec of claims reads normalised values from scalars and arrays. -/
theorem Codec.claim_readsNormalised : claim.ReadsNormalised := by
  intro request wire rule attr read
  cases wire with
  | claim item =>
      simp only [claim] at read
      split at read
      · rename_i values found
        exact normalised_of_decoded (normalised_of_claimValues? found) read
      · cases read
  | saml2 | saml1 | foreign => cases read

/-- A known codec reads normalised attributes from whatever is on the wire. -/
theorem Codec.IsKnown.readsNormalised {codec : Codec} (known : codec.IsKnown) :
    codec.ReadsNormalised := by
  obtain ⟨tag, found⟩ := known
  rcases eq_of_get?_standard found with rfl | rfl | rfl | rfl | rfl
  · exact claim_readsNormalised
  · exact saml1_readsNormalised SamlValueCodec.plain_readsNormalised
  · exact saml2_readsNormalised SamlValueCodec.base64_readsNormalised
  · exact saml2_readsNormalised SamlValueCodec.withScope_readsNormalised
  · exact saml2_readsNormalised SamlValueCodec.plain_readsNormalised

/-- A registry whose rules have known codecs reads normalised attributes. -/
theorem normalised_of_mem_decode {plan : RegistryPlan}
    (known : ∀ posting ∈ plan.postings, posting.installed.codec.IsKnown) {request : Request}
    {wire : Wire} {attr : Attribute} (read : attr ∈ plan.build.decode request wire) :
    attr.Normalised := by
  obtain ⟨installed, found, decoded⟩ := List.mem_filterMap.mp read
  obtain ⟨-, decoded⟩ := Registry.decodeWith?_eq_some_iff.mp decoded
  unfold Registry.lookupWire at found
  split at found
  · obtain ⟨posting, posted, rfl, -⟩ := mem_rulesFor_build_iff.mp found
    exact (known posting posted).readsNormalised _ _ _ _ decoded
  · cases found

end Transcoding

end AttributeRelease
