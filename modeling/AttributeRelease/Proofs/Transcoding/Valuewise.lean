import AttributeRelease.Proofs.Bytes.Canonical
import AttributeRelease.Proofs.Transcoding.Scopes

/-!
# One value at a time

A known codec takes an attribute apart into its values, writes each on its own and puts together
what comes of them, and it reads in the same way (`Codec.ByValues`). So what is written of two lists
of values, one behind the other, is what is written of the first with what is written of the second
behind it, and a value that cannot be written leaves no trace (`Codec.TakesApart`). Which values
these are is the same for every rule with a name (`KnownCodec.CanWrite`, `KnownCodec.CanRead`).

The values of a claim are the items of its array. A claim that is no array has itself as its only
item, and none if it is null.
-/

namespace AttributeRelease.Transcoding

open Bytes.Base64 (IsCanonical)

/-! ## Values on the wire -/

/-- A value on the wire: one of a SAML attribute, or an item of a claim. -/
inductive WireValue where
  | saml (value : SamlValue)
  | item (document : Json)

/-- The items of a claim. -/
def claimItems : Json → List Json
  | .array items => items
  | .null => []
  | document => [document]

/-- The values of an attribute on the wire. -/
def Wire.values : Wire → List WireValue
  | .saml2 attr => attr.values.map .saml
  | .saml1 attr => attr.values.map .saml
  | .claim item => (claimItems item.value).map .item
  | .foreign _ _ => []

namespace Codec

/-- The values on the wire that a codec makes of an attribute: none if it writes nothing. -/
def written (codec : Codec) (request : Request) (attr : Attribute) (rule : Rule) :
    List WireValue :=
  (codec.encode request attr rule).toOption.join.elim [] Wire.values

/-- The values that a codec makes of an attribute on the wire: none if it reads nothing. -/
def read (codec : Codec) (request : Request) (wire : Wire) (rule : Rule) : List Value :=
  (codec.decode request wire rule).toOption.join.elim [] Attribute.values

/-- An attribute is in the representation of a codec. -/
def Accepts (codec : Codec) (wire : Wire) : Prop :=
  wire.tag = codec.encodedType ∧ wire.standardName?.isSome = true

/-- A codec takes attributes apart, and so attributes on the wire in its representation. -/
structure TakesApart (codec : Codec) (rule : Rule) (request : Request) (CanWrite : Value → Prop)
    (CanRead : WireValue → Prop) : Prop where
  /-- Writing never fails, and something is written exactly if some value can be. -/
  writes : ∀ attr, ∃ outcome, codec.encode request attr rule = .ok outcome ∧
    (outcome.isSome = true ↔ ∃ value ∈ attr.values, CanWrite value)
  /-- Lists of values are written one behind the other. -/
  written_append : ∀ (attr : Attribute) first second,
    codec.written request { attr with values := first ++ second } rule =
      codec.written request { attr with values := first } rule ++
        codec.written request { attr with values := second } rule
  written_single : ∀ (attr : Attribute) value,
    (CanWrite value →
        ∃ own, codec.written request { attr with values := [value] } rule = [own]) ∧
      (¬ CanWrite value → codec.written request { attr with values := [value] } rule = [])
  /-- Among other values, one that cannot be written might as well be missing. -/
  unwritten : ∀ (attr : Attribute) first value second, ¬ CanWrite value →
    codec.encode request { attr with values := first ++ value :: second } rule =
      codec.encode request { attr with values := first ++ second } rule
  /-- Reading fails only for an attribute without an id. -/
  reads : ∀ wire, codec.Accepts wire → Text.isBlank rule.attributeId = false →
    ∃ outcome, codec.decode request wire rule = .ok outcome
  /-- Lists of values are read one behind the other. -/
  read_append : ∀ whole first second, codec.Accepts whole → codec.Accepts first →
    codec.Accepts second → whole.values = first.values ++ second.values →
      codec.read request whole rule =
        codec.read request first rule ++ codec.read request second rule
  read_single : ∀ wire value, codec.Accepts wire → wire.values = [value] →
    Text.isBlank rule.attributeId = false →
      (CanRead value → ∃ own, codec.read request wire rule = [own]) ∧
        (¬ CanRead value → codec.read request wire rule = [])
  /-- Among other values, one that cannot be read might as well be missing. -/
  unread : ∀ whole rest first value second, codec.Accepts whole → codec.Accepts rest →
    whole.values = first ++ value :: second → rest.values = first ++ second → ¬ CanRead value →
      codec.read request whole rule = codec.read request rest rule

/-! ## Codecs that work by values -/

theorem filterMap_skip {α β : Type} {f : α → Option β} {first second : List α} {value : α}
    (skipped : ¬ (f value).isSome = true) :
    (first ++ value :: second).filterMap f = (first ++ second).filterMap f := by
  have none := Option.not_isSome_iff_eq_none.mp skipped
  rw [List.filterMap_append, List.filterMap_cons_none none, List.filterMap_append]

theorem map_filterMap_single {α β γ : Type} (f : α → Option β) (g : β → γ) (value : α) :
    ((f value).isSome = true → ∃ own, ([value].filterMap f).map g = [own]) ∧
      (¬ (f value).isSome = true → ([value].filterMap f).map g = []) := by
  cases made : f value with
  | none => simp [made]
  | some own => simp [made]

/-- With a rule, a codec writes what it builds of the items it picks, one for a value, as long as
there are any, and reads a value at a time. -/
structure ByValues {ι : Type} (codec : Codec) (rule : Rule) (pick : Value → Option ι)
    (wrap : ι → WireValue) (build : List ι → Wire) (readOne : WireValue → Option Value) :
    Prop where
  encode_of_nil : ∀ request attr, attr.values.filterMap pick = [] →
    codec.encode request attr rule = .ok none
  encode_of_ne_nil : ∀ request attr, attr.values.filterMap pick ≠ [] →
    codec.encode request attr rule = .ok (some (build (attr.values.filterMap pick)))
  values_build : ∀ items, (build items).values = items.map wrap
  decode : ∀ request wire, codec.Accepts wire → Text.isBlank rule.attributeId = false →
    ∃ outcome, codec.decode request wire rule = .ok outcome ∧
      outcome.elim [] Attribute.values = wire.values.filterMap readOne
  unidentified : ∀ request wire, Text.isBlank rule.attributeId = true →
    codec.read request wire rule = []

namespace ByValues

variable {ι : Type} {codec : Codec} {rule : Rule} {pick : Value → Option ι} {wrap : ι → WireValue}
  {build : List ι → Wire} {readOne : WireValue → Option Value}

/-- What is written depends only on the items that are picked from the values. -/
theorem encode_congr (byValues : codec.ByValues rule pick wrap build readOne) {request : Request}
    {one other : Attribute} (alike : one.values.filterMap pick = other.values.filterMap pick) :
    codec.encode request one rule = codec.encode request other rule := by
  by_cases nothing : one.values.filterMap pick = []
  · rw [byValues.encode_of_nil request one nothing,
      byValues.encode_of_nil request other (alike ▸ nothing)]
  · rw [byValues.encode_of_ne_nil request one nothing,
      byValues.encode_of_ne_nil request other (alike ▸ nothing), alike]

/-- The values on the wire are the items that are picked, each as it stands on the wire. -/
theorem written_eq (byValues : codec.ByValues rule pick wrap build readOne) (request : Request)
    (attr : Attribute) :
    codec.written request attr rule = (attr.values.filterMap pick).map wrap := by
  by_cases nothing : attr.values.filterMap pick = []
  · rw [written, byValues.encode_of_nil request attr nothing, nothing]
    rfl
  · rw [written, byValues.encode_of_ne_nil request attr nothing]
    exact byValues.values_build _

/-- The values that are read are those read one by one, in order. -/
theorem read_eq (byValues : codec.ByValues rule pick wrap build readOne)
    (identified : Text.isBlank rule.attributeId = false) {request : Request} {wire : Wire}
    (accepted : codec.Accepts wire) :
    codec.read request wire rule = wire.values.filterMap readOne := by
  obtain ⟨outcome, decoded, values⟩ := byValues.decode request wire accepted identified
  rw [read, decoded]
  exact values

/-- A codec that works by values takes attributes apart. -/
theorem takesApart (byValues : codec.ByValues rule pick wrap build readOne) (request : Request) :
    codec.TakesApart rule request (fun value => (pick value).isSome = true)
      (fun value => (readOne value).isSome = true) where
  writes attr := by
    by_cases nothing : attr.values.filterMap pick = []
    · refine ⟨none, byValues.encode_of_nil request attr nothing, ?_⟩
      rw [List.filterMap_eq_nil_iff] at nothing
      simpa using nothing
    · refine ⟨some _, byValues.encode_of_ne_nil request attr nothing, ?_⟩
      rw [List.filterMap_eq_nil_iff] at nothing
      simpa [Option.isSome_iff_ne_none] using nothing
  written_append attr first second := by
    simp only [byValues.written_eq, List.filterMap_append, List.map_append]
  written_single attr value := by
    simp only [byValues.written_eq]
    exact map_filterMap_single pick wrap value
  unwritten attr first value second unable := byValues.encode_congr (filterMap_skip unable)
  reads wire accepted identified := by
    obtain ⟨outcome, decoded, -⟩ := byValues.decode request wire accepted identified
    exact ⟨outcome, decoded⟩
  read_append whole first second accepted one other values := by
    cases blank : Text.isBlank rule.attributeId with
    | false =>
        rw [byValues.read_eq blank accepted, byValues.read_eq blank one,
          byValues.read_eq blank other, values, List.filterMap_append]
    | true => simp only [byValues.unidentified _ _ blank, List.append_nil]
  read_single wire value accepted values identified := by
    rw [byValues.read_eq identified accepted, values]
    have single := map_filterMap_single readOne id value
    rwa [List.map_id] at single
  unread whole rest first value second accepted other values others unable := by
    cases blank : Text.isBlank rule.attributeId with
    | false =>
        rw [byValues.read_eq blank accepted, byValues.read_eq blank other, values, others]
        exact filterMap_skip unable
    | true => rw [byValues.unidentified _ _ blank, byValues.unidentified _ _ blank]

end ByValues

/-- What stands for the values that a codec can write, and can read, may be replaced by what holds
of the same. -/
theorem TakesApart.congr {codec : Codec} {rule : Rule} {request : Request}
    {CanWrite CanWrite' : Value → Prop} {CanRead CanRead' : WireValue → Prop}
    (apart : codec.TakesApart rule request CanWrite CanRead)
    (writing : ∀ value, CanWrite value ↔ CanWrite' value)
    (reading : ∀ value, CanRead value ↔ CanRead' value) :
    codec.TakesApart rule request CanWrite' CanRead' := by
  obtain rfl : CanWrite = CanWrite' := funext fun value => propext (writing value)
  obtain rfl : CanRead = CanRead' := funext fun value => propext (reading value)
  exact apart

end Codec

/-! ## The known codecs -/

/-- The tags of the known representations differ. -/
theorem TypeTag.distinct :
    TypeTag.saml1 ≠ TypeTag.saml2 ∧ TypeTag.claim ≠ TypeTag.saml2 ∧
      TypeTag.claim ≠ TypeTag.saml1 := by
  decide

namespace Codec

namespace Accepts

variable {codec : SamlValueCodec} {wire : Wire}

theorem exists_saml2 (accepted : (Codec.saml2 codec).Accepts wire) :
    ∃ attr, wire = .saml2 attr := by
  obtain ⟨tagged, known⟩ := accepted
  cases wire with
  | saml2 attr => exact ⟨attr, rfl⟩
  | saml1 attr => exact absurd tagged TypeTag.distinct.1
  | claim item => exact absurd tagged TypeTag.distinct.2.1
  | foreign tag name => cases known

theorem exists_saml1 (accepted : (Codec.saml1 codec).Accepts wire) :
    ∃ attr, wire = .saml1 attr := by
  obtain ⟨tagged, known⟩ := accepted
  cases wire with
  | saml2 attr => exact absurd tagged TypeTag.distinct.1.symm
  | saml1 attr => exact ⟨attr, rfl⟩
  | claim item => exact absurd tagged TypeTag.distinct.2.2
  | foreign tag name => cases known

theorem exists_claim (accepted : Codec.claim.Accepts wire) : ∃ item, wire = .claim item := by
  obtain ⟨tagged, known⟩ := accepted
  cases wire with
  | saml2 attr => exact absurd tagged TypeTag.distinct.2.1.symm
  | saml1 attr => exact absurd tagged TypeTag.distinct.2.2.symm
  | claim item => exact ⟨item, rfl⟩
  | foreign tag name => cases known

end Accepts

/-- What is decoded for an attribute with an id. -/
theorem exists_decoded {rule : Rule} (identified : Text.isBlank rule.attributeId = false)
    (values : List Value) :
    ∃ outcome : Option Attribute,
      (do return some (← rule.decoded values) : Except TranscodingError (Option Attribute)) =
        .ok outcome ∧ outcome.elim [] Attribute.values = values := by
  obtain ⟨back, decoded, -, same⟩ := decoded_ok identified values
  refine ⟨some back, ?_, same⟩
  rw [decoded]
  rfl

/-- A rule without an id makes no attribute of any values. -/
theorem decoded_of_isBlank {rule : Rule} (blank : Text.isBlank rule.attributeId = true)
    (values : List Value) :
    rule.decoded values = .error (.attributeError (.blankId rule.attributeId)) := by
  rw [Rule.decoded, Attribute.withValues?_of_isBlank blank]
  rfl

/-- What a codec for SAML attributes reads of a value on the wire. -/
def readSaml (codec : SamlValueCodec) : WireValue → Option Value
  | .saml value => codec.decode? value
  | .item _ => none

/-- What the codec for claims reads of a value on the wire. -/
def readItem : WireValue → Option Value
  | .saml _ => none
  | .item document => scalarValue? document

theorem filterMap_readSaml (codec : SamlValueCodec) (values : List SamlValue) :
    (values.map .saml).filterMap (readSaml codec) = values.filterMap codec.decode? :=
  List.filterMap_map

variable {codec : SamlValueCodec} {rule : Rule} {name : String}

/-- SAML 2 attributes are written and read value by value, with the format of the name that the rule
gives. -/
theorem saml2_byValues (named : rule.name = some name) :
    (Codec.saml2 codec).ByValues rule (codec.encode? rule) .saml
      (fun values => .saml2 {
        name, values
        nameFormat := some (saml2NameFormat rule)
        friendlyName := rule.friendlyName })
      (readSaml codec) where
  encode_of_nil request attr nothing := by simp only [Codec.saml2, nothing]
  encode_of_ne_nil request attr something := by
    obtain ⟨value, rest, values⟩ := List.exists_cons_of_ne_nil something
    simp only [Codec.saml2, values, Rule.requiredName, named]
    rfl
  values_build items := rfl
  decode request wire accepted identified := by
    obtain ⟨attr, rfl⟩ := accepted.exists_saml2
    rw [Wire.values, filterMap_readSaml]
    exact exists_decoded identified _
  unidentified request wire blank := by
    cases wire with
    | saml2 attr => simp only [read, Codec.saml2, decoded_of_isBlank blank]; rfl
    | saml1 attr => rfl
    | claim item => rfl
    | foreign tag name => rfl

/-- SAML 1 attributes are written and read value by value, with the namespace that the rule
gives. -/
theorem saml1_byValues (named : rule.name = some name) :
    (Codec.saml1 codec).ByValues rule (codec.encode? rule) .saml
      (fun values => .saml1 { name, values, nameSpace := saml1Namespace rule })
      (readSaml codec) where
  encode_of_nil request attr nothing := by simp only [Codec.saml1, nothing]
  encode_of_ne_nil request attr something := by
    obtain ⟨value, rest, values⟩ := List.exists_cons_of_ne_nil something
    simp only [Codec.saml1, values, Rule.requiredName, named]
    rfl
  values_build items := rfl
  decode request wire accepted identified := by
    obtain ⟨attr, rfl⟩ := accepted.exists_saml1
    rw [Wire.values, filterMap_readSaml]
    exact exists_decoded identified _
  unidentified request wire blank := by
    cases wire with
    | saml2 attr => rfl
    | saml1 attr => simp only [read, Codec.saml1, decoded_of_isBlank blank]; rfl
    | claim item => rfl
    | foreign tag name => rfl

/-! ### Claims -/

/-- A claim has the texts it is made of as its items, whether or not a single one stands in an
array. -/
theorem claimItems_claimOfTexts (asArray : Bool) (texts : List String) :
    claimItems (claimOfTexts asArray texts) = texts.map .string := by
  unfold claimOfTexts
  split
  · cases asArray <;> rfl
  · rfl

/-- A claim says nothing, or has the values of its items. -/
theorem claimValues?_getD (document : Json) :
    (claimValues? document).getD [] = (claimItems document).filterMap scalarValue? := by
  cases document with
  | array items => rfl
  | null => rfl
  | object fields => rfl
  | unreadable => rfl
  | string text => rfl
  | bool value => rfl
  | number n => cases shown : n.text? <;> simp [claimValues?, claimItems, scalarValue?, shown]

/-- Claims are written and read item by item. -/
theorem claim_byValues (named : rule.name = some name) :
    Codec.claim.ByValues rule plainText? (.item ∘ .string)
      (fun texts => .claim ⟨name, claimOfTexts rule.asArray texts⟩) readItem where
  encode_of_nil request attr nothing := by
    simp only [Codec.claim, Rule.requiredName, named, nothing]
    rfl
  encode_of_ne_nil request attr something := by
    obtain ⟨text, rest, texts⟩ := List.exists_cons_of_ne_nil something
    simp only [Codec.claim, Rule.requiredName, named, texts]
    rfl
  values_build texts := by
    rw [Wire.values, claimItems_claimOfTexts, List.map_map]
  decode request wire accepted identified := by
    obtain ⟨item, rfl⟩ := accepted.exists_claim
    have values : (Wire.claim item).values.filterMap readItem =
        (claimValues? item.value).getD [] := by
      rw [claimValues?_getD, Wire.values, List.filterMap_map]
      rfl
    rw [values]
    cases said : claimValues? item.value with
    | none => exact ⟨none, by simp only [Codec.claim, said], rfl⟩
    | some own =>
        simp only [Codec.claim, said]
        exact exists_decoded identified own
  unidentified request wire blank := by
    cases wire with
    | saml2 attr => rfl
    | saml1 attr => rfl
    | claim item =>
        cases said : claimValues? item.value with
        | none => simp only [read, Codec.claim, said]; rfl
        | some own => simp only [read, Codec.claim, said, decoded_of_isBlank blank]; rfl
    | foreign tag name => rfl

end Codec

/-- A document that is neither an array nor an object and says something: a string, a number within
range or a truth value. -/
inductive IsScalar : Json → Prop where
  | string (text : String) : IsScalar (.string text)
  | number {n : Json.Number} {text : String} (shown : n.text? = some text) : IsScalar (.number n)
  | bool (value : Bool) : IsScalar (.bool value)

/-- Texts, numbers and truth values are what is read as a single value. -/
theorem isScalar_iff {document : Json} :
    IsScalar document ↔ (scalarValue? document).isSome = true := by
  constructor
  · intro scalar
    cases scalar with
    | string text => rfl
    | number shown => simp [scalarValue?, shown]
    | bool value => rfl
  · intro read
    cases document with
    | string text => exact .string text
    | bool value => exact .bool value
    | number n =>
        rw [scalarValue?, Option.isSome_map] at read
        obtain ⟨text, shown⟩ := Option.isSome_iff_exists.mp read
        exact .number shown
    | null => cases read
    | array items => cases read
    | object fields => cases read
    | unreadable => cases read

/-- The codecs that are known by tags. -/
inductive KnownCodec where
  | saml2Texts
  | saml2Scoped
  | saml2Bytes
  | saml1Texts
  | claims

namespace KnownCodec

/-- The tag of a codec. -/
def tag : KnownCodec → String
  | .saml2Texts => "saml2_string"
  | .saml2Scoped => "saml2_scoped"
  | .saml2Bytes => "saml2_base64"
  | .saml1Texts => "saml1_string"
  | .claims => "oidc_string"

/-- The codec itself. -/
def codec : KnownCodec → Codec
  | .saml2Texts => .saml2 .plain
  | .saml2Scoped => .saml2 .withScope
  | .saml2Bytes => .saml2 .base64
  | .saml1Texts => .saml1 .plain
  | .claims => .claim

/-- The values that a codec can write: texts with a scope, bytes, or else everything that has a text
with content. -/
def CanWrite : KnownCodec → Value → Prop
  | .saml2Scoped, value => ∃ content, value = .scoped content
  | .saml2Bytes, value => ∃ bytes, value = .bytes bytes ∧ bytes ≠ []
  | _, value => ∃ text, value.text? = some text ∧ text ≠ ""

/-- The values on the wire that a codec can read: every text, texts with a scope beside them or
behind a mark, the texts of bytes with any space around them, or the documents that say something
as the items of claims. -/
def CanRead : KnownCodec → WireValue → Prop
  | .saml2Texts, .saml _ => True
  | .saml2Scoped, .saml value =>
    value.scope ≠ none ∨ SamlValueCodec.scopeMark ∈ value.text.toList
  | .saml2Bytes, .saml value => IsCanonical (Text.trim value.text).toList
  | .saml1Texts, .saml _ => True
  | .claims, .item document => IsScalar document
  | _, _ => False

/-- Under a tag of the library there is one of the five codecs, under any other none. -/
theorem get?_standard_iff {tag : String} {codec : Codec} :
    Codecs.standard.get? tag = some codec ↔
      ∃ known : KnownCodec, known.tag = tag ∧ known.codec = codec := by
  constructor
  · intro found
    have member := (KeyMap.mem_entries_iff Codecs.standard tag codec).mpr found
    rw [Codecs.entries_standard] at member
    simp only [List.mem_cons, Prod.mk.injEq, List.not_mem_nil, or_false] at member
    rcases member with ⟨rfl, rfl⟩ | ⟨rfl, rfl⟩ | ⟨rfl, rfl⟩ | ⟨rfl, rfl⟩ | ⟨rfl, rfl⟩
    · exact ⟨claims, rfl, rfl⟩
    · exact ⟨saml1Texts, rfl, rfl⟩
    · exact ⟨saml2Bytes, rfl, rfl⟩
    · exact ⟨saml2Scoped, rfl, rfl⟩
    · exact ⟨saml2Texts, rfl, rfl⟩
  · intro ⟨known, named, own⟩
    subst named own
    cases known <;> rfl

/-! ### Values that can be written -/

theorem isSome_plainText?_iff {value : Value} :
    (plainText? value).isSome = true ↔ ∃ text, value.text? = some text ∧ text ≠ "" := by
  rw [plainText?, Option.isSome_iff_exists]
  simp [Option.filter_eq_some_iff]

theorem isSome_encode?_plain_iff {rule : Rule} {value : Value} :
    (SamlValueCodec.plain.encode? rule value).isSome = true ↔
      ∃ text, value.text? = some text ∧ text ≠ "" := by
  simp only [SamlValueCodec.plain, Option.isSome_map, isSome_plainText?_iff]

/-- Only scoped values are written with a scope. -/
theorem isSome_encode?_withScope_iff {rule : Rule} {value : Value} :
    (SamlValueCodec.withScope.encode? rule value).isSome = true ↔
      ∃ content, value = .scoped content := by
  cases value <;> simp [SamlValueCodec.withScope]

/-- Only bytes are written in Base64, and only if there are any. -/
theorem isSome_encode?_base64_iff {rule : Rule} {value : Value} :
    (SamlValueCodec.base64.encode? rule value).isSome = true ↔
      ∃ bytes, value = .bytes bytes ∧ bytes ≠ [] := by
  cases value <;> simp [SamlValueCodec.base64, Value.bytes?]

/-! ### Values that can be read -/

/-- A scoped value is read where the scope is given beside the text or marked in it. -/
theorem isSome_decode?_withScope_iff {value : SamlValue} :
    (SamlValueCodec.withScope.decode? value).isSome = true ↔
      value.scope ≠ none ∨ SamlValueCodec.scopeMark ∈ value.text.toList := by
  simp only [SamlValueCodec.withScope, Option.isSome_map, Option.isSome_iff_ne_none, ne_eq,
    SamlValueCodec.readScoped?_eq_none_iff]
  rw [Decidable.not_and_iff_not_or_not, Decidable.not_not]

/-- Bytes are read from canonical texts, blanks around them aside. -/
theorem isSome_decode?_base64_iff {value : SamlValue} :
    (SamlValueCodec.base64.decode? value).isSome = true ↔
      IsCanonical (Text.trim value.text).toList := by
  simp only [SamlValueCodec.base64, Option.isSome_map]
  exact Bytes.Base64.isSome_decodeChars?_iff

/-- A codec for SAML attributes can read what its way to read values can, and nothing else. -/
theorem isSome_readSaml_iff {codec : SamlValueCodec} {CanRead : WireValue → Prop}
    (saml : ∀ value, (codec.decode? value).isSome = true ↔ CanRead (.saml value))
    (item : ∀ document, ¬ CanRead (.item document)) (value : WireValue) :
    (Codec.readSaml codec value).isSome = true ↔ CanRead value := by
  cases value with
  | saml value => exact saml value
  | item document => exact iff_of_false Bool.false_ne_true (item document)

/-- Each known codec takes attributes apart with a rule that has a name. -/
theorem takesApart {rule : Rule} {name : String} (named : rule.name = some name)
    (request : Request) (known : KnownCodec) :
    known.codec.TakesApart rule request known.CanWrite known.CanRead := by
  cases known with
  | saml2Texts =>
      apply ((Codec.saml2_byValues named).takesApart request).congr
      · exact fun value => isSome_encode?_plain_iff
      · exact isSome_readSaml_iff (fun value => iff_of_true rfl trivial) (fun _ => id)
  | saml2Scoped =>
      apply ((Codec.saml2_byValues named).takesApart request).congr
      · exact fun value => isSome_encode?_withScope_iff
      · exact isSome_readSaml_iff (fun value => isSome_decode?_withScope_iff) (fun _ => id)
  | saml2Bytes =>
      apply ((Codec.saml2_byValues named).takesApart request).congr
      · exact fun value => isSome_encode?_base64_iff
      · exact isSome_readSaml_iff (fun value => isSome_decode?_base64_iff) (fun _ => id)
  | saml1Texts =>
      apply ((Codec.saml1_byValues named).takesApart request).congr
      · exact fun value => isSome_encode?_plain_iff
      · exact isSome_readSaml_iff (fun value => iff_of_true rfl trivial) (fun _ => id)
  | claims =>
      apply ((Codec.claim_byValues named).takesApart request).congr
      · exact fun value => isSome_plainText?_iff
      · intro value
        cases value with
        | saml value => exact iff_of_false Bool.false_ne_true id
        | item document => exact isScalar_iff.symm

end KnownCodec

/-- A document that says something has the same values on its own as in an array. -/
theorem claimValues?_singleton {document : Json} (scalar : IsScalar document) :
    claimValues? document = claimValues? (.array [document]) := by
  obtain ⟨value, read⟩ := Option.isSome_iff_exists.mp (isScalar_iff.mp scalar)
  have alone : claimValues? document = (scalarValue? document).map ([·]) := by
    cases scalar <;> rfl
  rw [alone, read, claimValues?, List.filterMap_cons_some read]
  rfl

/-- The codecs that tags name are five. With a rule that has a name, each writes an attribute and
reads it one value at a time. A string, a number or a truth value is read the same as a claim of its
own and as the only item of an array, and null the same as an array without items. -/
theorem known_codecs_take_apart {rule : Rule} {name : String} (named : rule.name = some name)
    (request : Request) :
    (∀ tag codec, Codecs.standard.get? tag = some codec ↔
        ∃ known : KnownCodec, known.tag = tag ∧ known.codec = codec) ∧
      (∀ known : KnownCodec,
        known.codec.TakesApart rule request known.CanWrite known.CanRead) ∧
      (∀ title document, IsScalar document →
        Codec.claim.decode request (.claim ⟨title, document⟩) rule =
          Codec.claim.decode request (.claim ⟨title, .array [document]⟩) rule) ∧
      ∀ title, Codec.claim.decode request (.claim ⟨title, .null⟩) rule =
        Codec.claim.decode request (.claim ⟨title, .array []⟩) rule := by
  refine ⟨fun tag codec => KnownCodec.get?_standard_iff, KnownCodec.takesApart named request,
    fun title document scalar => ?_, fun title => rfl⟩
  simp only [Codec.claim, claimValues?_singleton scalar]

def badgeRule : Rule := Rule.install { name := some "badges" } "badge"

/-- A claim with badges. -/
def badgeClaim (document : Json) : Wire := .claim ⟨"badges", document⟩

/-- Of badges those are left out that are bytes or an object, and the others stay as they are. -/
theorem known_codecs_take_apart_badges :
    badgeRule.name = some "badges" ∧
      Codec.claim.encode {} ⟨"badge", [.text "blue", .bytes [1, 2], .text "green"], ∅, ∅⟩ badgeRule =
        Codec.claim.encode {} ⟨"badge", [.text "blue", .text "green"], ∅, ∅⟩ badgeRule ∧
      Codec.claim.read {} (badgeClaim (.array [.bool true, .object [], .string "blue"])) badgeRule =
        Codec.claim.read {} (badgeClaim (.bool true)) badgeRule ++
          Codec.claim.read {} (badgeClaim (.string "blue")) badgeRule ∧
      Codec.claim.decode {} (badgeClaim (.bool true)) badgeRule =
        Codec.claim.decode {} (badgeClaim (.array [.bool true])) badgeRule := by
  obtain ⟨-, apart, scalar, -⟩ :=
    known_codecs_take_apart (show badgeRule.name = some "badges" from rfl) {}
  have claims := apart .claims
  have accepted (document : Json) : Codec.claim.Accepts (badgeClaim document) := ⟨rfl, rfl⟩
  refine ⟨rfl, ?_, ?_, scalar "badges" _ (.bool true)⟩
  · refine claims.unwritten ⟨"badge", [], ∅, ∅⟩ [.text "blue"] (.bytes [1, 2]) [.text "green"] ?_
    rintro ⟨text, texted, -⟩
    cases texted
  · have skipped := claims.unread (badgeClaim (.array [.bool true, .object [], .string "blue"]))
      (badgeClaim (.array [.bool true, .string "blue"])) [.item (.bool true)] (.item (.object []))
      [.item (.string "blue")] (accepted _) (accepted _) rfl rfl (fun scalar => by cases scalar)
    have parts := claims.read_append (badgeClaim (.array [.bool true, .string "blue"]))
      (badgeClaim (.bool true)) (badgeClaim (.string "blue")) (accepted _) (accepted _)
      (accepted _) rfl
    exact skipped.trans parts

end AttributeRelease.Transcoding
