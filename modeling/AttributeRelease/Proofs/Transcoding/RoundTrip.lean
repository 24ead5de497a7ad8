import AttributeRelease.Proofs.Bytes.Base64
import AttributeRelease.Proofs.Transcoding.Index

/-!
# What is written is read back

When each value of an attribute is of the kind that a codec carries (`Codec.Carries`), what the
codec writes is named as its rule says, and the same rule reads the values back in their order
(`Codec.RoundTrips`). The registry finds that rule again by the name (`decode_encode_of_carries`).
-/

namespace AttributeRelease.Transcoding

theorem plainText?_text {text : String} (nonempty : text ≠ "") :
    plainText? (.text text) = some text := by
  simp [plainText?, Value.text?, Option.filter, nonempty]

/-! ## Values of SAML attributes -/

namespace SamlValueCodec

/-- A value is written and read back. -/
def Keeps (codec : SamlValueCodec) (rule : Rule) (value : Value) : Prop :=
  ∃ wire, codec.encode? rule value = some wire ∧ codec.decode? wire = some value

/-- Values that a codec keeps come back in their order, none lost and none added. -/
theorem filterMap_decode_encode {codec : SamlValueCodec} {rule : Rule} {values : List Value}
    (keeps : ∀ value ∈ values, codec.Keeps rule value) :
    (values.filterMap (codec.encode? rule)).filterMap codec.decode? = values := by
  induction values with
  | nil => rfl
  | cons value rest ih =>
      obtain ⟨⟨wire, written, read⟩, others⟩ := List.forall_mem_cons.mp keeps
      rw [List.filterMap_cons_some written, List.filterMap_cons_some read, ih others]

/-- The plain codec keeps texts that are not empty. -/
theorem plain_keeps (rule : Rule) {text : String} (nonempty : text ≠ "") :
    plain.Keeps rule (.text text) := by
  refine ⟨typed rule textType text, ?_, ?_⟩
  · simp [plain, plainText?_text nonempty]
  · simp [plain, typed, Value.ofText, nonempty]

/-- The codec of bytes keeps bytes, if there are any. -/
theorem base64_keeps (rule : Rule) {bytes : List UInt8} (nonempty : bytes ≠ []) :
    base64.Keeps rule (.bytes bytes) := by
  have full : (Value.bytes bytes).bytes?.filter (· ≠ []) = some bytes := by
    simp [Value.bytes?, Option.filter, nonempty]
  refine ⟨typed rule bytesType (Bytes.Base64.encode bytes), ?_, ?_⟩
  · simp only [base64, full, Option.map_some]
  · simp [base64, typed, Bytes.Base64.trim_encode, Bytes.Base64.decode?_encode, Value.ofBytes,
      nonempty]

theorem splitLast?_eq_none {mark : Char} {chars : List Char} (absent : mark ∉ chars) :
    splitLast? mark chars = none := by
  induction chars with
  | nil => rfl
  | cons c rest ih =>
      rw [List.mem_cons, not_or] at absent
      rw [splitLast?, ih absent.2]
      exact if_neg (Ne.symm absent.1)

/-- A text is split at the last mark: none stands behind it. -/
theorem splitLast?_append {mark : Char} (before : List Char) {behind : List Char}
    (absent : mark ∉ behind) :
    splitLast? mark (before ++ mark :: behind) = some (before, behind) := by
  induction before with
  | nil =>
      rw [List.nil_append, splitLast?, splitLast?_eq_none absent]
      exact if_pos rfl
  | cons c rest ih => rw [List.cons_append, splitLast?, ih]

theorem ofScoped_eq {value scope : String} (valued : value ≠ "") (qualified : scope ≠ "") :
    Value.ofScoped value scope = .scoped ⟨value, scope⟩ := by
  simp [Value.ofScoped, ScopedText.new?, valued, qualified]

/-- A scoped value is read back if its scope stands apart or has no mark in it. -/
theorem readScoped?_writeScoped {rule : Rule} {content : ScopedText}
    (unmarked : rule.scopeEncoding = .inline → scopeMark ∉ content.scope.toList) :
    readScoped? (writeScoped rule content) = some (content.value, content.scope) := by
  unfold writeScoped
  cases encoding : rule.scopeEncoding with
  | separate => rfl
  | inline =>
      have split := splitLast?_append content.value.toList (unmarked encoding)
      simp [readScoped?, typed, String.toList_append, split]

/-- The codec of scoped values keeps those that it can tell apart again. -/
theorem withScope_keeps {rule : Rule} {value scope : String} (valued : value ≠ "")
    (qualified : scope ≠ "")
    (unmarked : rule.scopeEncoding = .inline → scopeMark ∉ scope.toList) :
    withScope.Keeps rule (.scoped ⟨value, scope⟩) := by
  have read : readScoped? (writeScoped rule ⟨value, scope⟩) = some (value, scope) :=
    readScoped?_writeScoped unmarked
  refine ⟨writeScoped rule ⟨value, scope⟩, rfl, ?_⟩
  simp [withScope, read, ofScoped_eq valued qualified]

end SamlValueCodec

/-! ## Claims -/

/-- Texts in a claim are read as they stand there. -/
theorem filterMap_scalarValue? (texts : List String) :
    (texts.map Json.string).filterMap scalarValue? = texts.map Value.ofText := by
  rw [List.filterMap_map]
  change texts.filterMap (some ∘ Value.ofText) = _
  rw [List.filterMap_eq_map]

/-- However texts become a claim, the claim has them as values. -/
theorem claimValues?_claimOfTexts (asArray : Bool) (texts : List String) :
    claimValues? (claimOfTexts asArray texts) = some (texts.map Value.ofText) := by
  unfold claimOfTexts
  split
  · cases asArray <;> rfl
  · simp only [claimValues?, filterMap_scalarValue?]

/-! ## Codecs -/

/-- A text with content. -/
inductive IsText : Value → Prop
  | intro {text : String} (nonempty : text ≠ "") : IsText (.text text)

/-- A text with content and a scope. When the scope is written behind the text, the mark between
them must not stand in it. -/
inductive IsScoped (encoding : ScopeEncoding) : Value → Prop
  | intro {value scope : String} (valued : value ≠ "") (qualified : scope ≠ "")
      (unmarked : encoding = .inline → SamlValueCodec.scopeMark ∉ scope.toList) :
      IsScoped encoding (.scoped ⟨value, scope⟩)

/-- Some bytes. -/
inductive IsBytes : Value → Prop
  | intro {bytes : List UInt8} (nonempty : bytes ≠ []) : IsBytes (.bytes bytes)

/-- All values are of the kind that one of the known codecs carries. -/
inductive Codec.Carries (rule : Rule) (values : List Value) : Codec → Prop
  | saml2Texts (each : ∀ value ∈ values, IsText value) : Carries rule values (.saml2 .plain)
  | saml2Scoped (each : ∀ value ∈ values, IsScoped rule.scopeEncoding value) :
      Carries rule values (.saml2 .withScope)
  | saml2Bytes (each : ∀ value ∈ values, IsBytes value) : Carries rule values (.saml2 .base64)
  | saml1Texts (each : ∀ value ∈ values, IsText value) : Carries rule values (.saml1 .plain)
  | claimTexts (each : ∀ value ∈ values, IsText value) : Carries rule values .claim

/-- What a codec wrote is named as the rule says, and the rule reads the attribute's values from it
under the id that it is for. -/
structure Codec.RoundTrips (codec : Codec) (request : Request) (attr : Attribute) (rule : Rule)
    (wire : Wire) : Prop where
  named : Naming.standard.canonicalName? wire =
    (codec.encodedName? rule).map (codec.encodedType, ·)
  read : Text.isBlank rule.attributeId = false →
    ∃ back, codec.decode request wire rule = .ok (some back) ∧ back.id = rule.attributeId ∧
      back.values = attr.values

/-- With the standard naming, each attribute on the wire has its standard name. -/
theorem canonicalName?_standard (wire : Wire) :
    Naming.standard.canonicalName? wire = wire.standardName?.map (wire.tag, ·) := by
  cases wire with
  | saml2 attr => rfl
  | saml1 attr => rfl
  | claim item => rfl
  | foreign tag name =>
      have unnamed : ∀ entry ∈ Naming.standard.entries, entry.name? (.foreign tag name) = none := by
        simp [Naming.standard]
      unfold Naming.canonicalName?
      simp only [Wire.standardName?, Option.map_none, Option.bind_eq_bind, Option.bind_eq_none_iff]
      intro effective _ entry found
      have member := List.mem_of_find?_eq_some found
      rw [unnamed entry member]
      intro _ impossible
      cases impossible

/-- A rule with an id makes an attribute of any values. -/
theorem decoded_ok {rule : Rule} (identified : Text.isBlank rule.attributeId = false)
    (values : List Value) :
    ∃ back, rule.decoded values = .ok back ∧ back.id = rule.attributeId ∧ back.values = values := by
  have bound : Attribute.withValues? rule.attributeId values =
      .ok ⟨rule.attributeId, values, ∅, ∅⟩ :=
    Attribute.withValues?_eq_ok_iff.mpr ⟨identified, rfl⟩
  refine ⟨⟨rule.attributeId, values, rule.displayNames, rule.displayDescriptions⟩, ?_, rfl, rfl⟩
  rw [Rule.decoded, bound]
  rfl

/-- A codec goes round trip when it writes the name that the rule says in its own representation,
and reads the values back. -/
theorem Codec.RoundTrips.of_read {codec : Codec} {request : Request} {attr : Attribute}
    {rule : Rule} {wire : Wire} (tagged : wire.tag = codec.encodedType)
    (named : wire.standardName? = codec.encodedName? rule)
    (read : codec.decode request wire rule = return some (← rule.decoded attr.values)) :
    codec.RoundTrips request attr rule wire where
  named := by rw [canonicalName?_standard, tagged, named]
  read identified := by
    obtain ⟨back, decoded, same⟩ := decoded_ok identified attr.values
    refine ⟨back, ?_, same⟩
    rw [read, decoded]
    rfl

/-- A codec that writes something has been given a name. -/
theorem named_of_written {rule : Rule} {build : String → Wire} {wire : Wire}
    (written : (do let name ← rule.requiredName; return some (build name)) =
      (.ok (some wire) : Except TranscodingError (Option Wire))) :
    ∃ name, rule.name = some name ∧ wire = build name := by
  unfold Rule.requiredName at written
  cases named : rule.name with
  | none =>
      rw [named] at written
      cases written
  | some name =>
      rw [named] at written
      cases written
      exact ⟨name, rfl, rfl⟩

/-- What a codec of values keeps comes back in a SAML 2 attribute. -/
theorem saml2_roundTrips {codec : SamlValueCodec} {request : Request} {attr : Attribute}
    {rule : Rule} {wire : Wire} (keeps : ∀ value ∈ attr.values, codec.Keeps rule value)
    (written : (Codec.saml2 codec).encode request attr rule = .ok (some wire)) :
    (Codec.saml2 codec).RoundTrips request attr rule wire := by
  have values := SamlValueCodec.filterMap_decode_encode keeps
  simp only [Codec.saml2] at written
  split at written
  · cases written
  · obtain ⟨name, named, rfl⟩ := named_of_written written
    apply Codec.RoundTrips.of_read
    · rfl
    · simp [Codec.saml2, named, Wire.standardName?]
    · simp only [Codec.saml2, values]

/-- What a codec of values keeps comes back in a SAML 1 attribute. -/
theorem saml1_roundTrips {codec : SamlValueCodec} {request : Request} {attr : Attribute}
    {rule : Rule} {wire : Wire} (keeps : ∀ value ∈ attr.values, codec.Keeps rule value)
    (written : (Codec.saml1 codec).encode request attr rule = .ok (some wire)) :
    (Codec.saml1 codec).RoundTrips request attr rule wire := by
  have values := SamlValueCodec.filterMap_decode_encode keeps
  simp only [Codec.saml1] at written
  split at written
  · cases written
  · obtain ⟨name, named, rfl⟩ := named_of_written written
    apply Codec.RoundTrips.of_read
    · rfl
    · simp [Codec.saml1, named, Wire.standardName?]
    · simp only [Codec.saml1, values]

/-- Texts that are not empty are written plainly without loss. -/
theorem plainTexts_ofText {values : List Value} (each : ∀ value ∈ values, IsText value) :
    (values.filterMap plainText?).map Value.ofText = values := by
  induction values with
  | nil => rfl
  | cons value rest ih =>
      obtain ⟨⟨nonempty⟩, others⟩ := List.forall_mem_cons.mp each
      rw [List.filterMap_cons_some (plainText?_text nonempty), List.map_cons, ih others,
        Value.ofText, if_neg nonempty]

/-- Texts that are not empty come back in a claim, in an array or as the only one. -/
theorem claim_roundTrips {request : Request} {attr : Attribute} {rule : Rule} {wire : Wire}
    (each : ∀ value ∈ attr.values, IsText value)
    (written : Codec.claim.encode request attr rule = .ok (some wire)) :
    Codec.claim.RoundTrips request attr rule wire := by
  have values := plainTexts_ofText each
  cases named : rule.name with
  | none =>
      simp only [Codec.claim, Rule.requiredName, named] at written
      cases written
  | some name =>
      simp only [Codec.claim, Rule.requiredName, named] at written
      have wrote : wire = .claim ⟨name,
          claimOfTexts rule.asArray (attr.values.filterMap plainText?)⟩ := by
        cases texts : attr.values.filterMap plainText? with
        | nil =>
            rw [texts] at written
            cases written
        | cons text rest =>
            rw [texts] at written
            cases written
            rfl
      subst wrote
      apply Codec.RoundTrips.of_read
      · rfl
      · simp [Codec.claim, named, Wire.standardName?]
      · simp only [Codec.claim, claimValues?_claimOfTexts, values]

/-- What carries its values goes round trip. -/
theorem Codec.Carries.roundTrips {codec : Codec} {request : Request} {attr : Attribute}
    {rule : Rule} {wire : Wire} (carries : codec.Carries rule attr.values)
    (written : codec.encode request attr rule = .ok (some wire)) :
    codec.RoundTrips request attr rule wire := by
  cases carries with
  | saml2Texts each =>
      refine saml2_roundTrips (fun value member => ?_) written
      obtain ⟨nonempty⟩ := each value member
      exact SamlValueCodec.plain_keeps rule nonempty
  | saml2Scoped each =>
      refine saml2_roundTrips (fun value member => ?_) written
      obtain ⟨valued, qualified, unmarked⟩ := each value member
      exact SamlValueCodec.withScope_keeps valued qualified unmarked
  | saml2Bytes each =>
      refine saml2_roundTrips (fun value member => ?_) written
      obtain ⟨nonempty⟩ := each value member
      exact SamlValueCodec.base64_keeps rule nonempty
  | saml1Texts each =>
      refine saml1_roundTrips (fun value member => ?_) written
      obtain ⟨nonempty⟩ := each value member
      exact SamlValueCodec.plain_keeps rule nonempty
  | claimTexts each => exact claim_roundTrips each written

theorem Codec.Carries.isStandard {codec : Codec} {rule : Rule} {values : List Value}
    (carries : codec.Carries rule values) : codec.IsStandard := by
  cases carries <;> constructor

/-! ## Both ways through a registry -/

/-- What a rule writes has the name that the rule is filed under. -/
theorem canonicalName?_of_posting {plan : RegistryPlan} {posting : Posting} {request : Request}
    {attr : Attribute} {wire : Wire} (posted : posting ∈ plan.postings)
    (carries : posting.installed.codec.Carries posting.installed.rule attr.values)
    (roundTrips : posting.installed.codec.RoundTrips request attr posting.installed.rule wire) :
    Naming.standard.canonicalName? wire =
      some (posting.installed.codec.encodedType, posting.encodedName) := by
  rw [roundTrips.named, carries.isStandard.encodedName?_installed posted, Option.map_some]

/-- When an active rule whose codec carries the values of an attribute writes something, that has
the name under which the rule is kept, and reading it by the registry gives the attribute of the
rule with the same values. -/
theorem decode_encode_of_carries {plan : RegistryPlan} (standard : plan.naming = .standard)
    {request : Request} {attr : Attribute} {target : TypeTag} {installed : InstalledRule}
    (found : installed ∈ plan.build.lookup attr.id target) {wire : Wire}
    (written : Registry.encodeWith? request attr installed = some wire)
    (carries : installed.codec.Carries installed.rule attr.values) :
    wire ∈ plan.build.encode request attr target ∧
      (∃ posting ∈ plan.postings, posting.installed = installed) ∧
      (∀ posting ∈ plan.postings, posting.installed = installed →
        plan.build.naming.canonicalName? wire =
          some (installed.codec.encodedType, posting.encodedName)) ∧
      ∃ back ∈ plan.build.decode request wire,
        back.id = installed.rule.attributeId ∧ back.values = attr.values := by
  obtain ⟨active, encoded⟩ := Registry.encodeWith?_eq_some_iff.mp written
  have roundTrips := carries.roundTrips encoded
  have filed : ∃ posting ∈ plan.postings, posting.installed = installed := by
    unfold Registry.lookup at found
    split at found
    · obtain ⟨posting, posted, same, -⟩ := mem_rulesFor_build_iff.mp found
      exact ⟨posting, posted, same⟩
    · cases found
  have named : ∀ posting ∈ plan.postings, posting.installed = installed →
      plan.build.naming.canonicalName? wire =
        some (installed.codec.encodedType, posting.encodedName) := by
    rintro posting posted rfl
    change plan.naming.canonicalName? wire = _
    rw [standard]
    exact canonicalName?_of_posting posted carries roundTrips
  refine ⟨List.mem_filterMap.mpr ⟨installed, found, written⟩, filed, named, ?_⟩
  obtain ⟨posting, posted, rfl⟩ := filed
  obtain ⟨installation, -, post⟩ := List.mem_filterMap.mp posted
  obtain ⟨back, decoded, same⟩ := roundTrips.read (Installation.post?_eq_some post).1
  refine ⟨back, List.mem_filterMap.mpr ⟨posting.installed, ?_, ?_⟩, same⟩
  · -- The rule is found again by the name of what it wrote.
    rw [Registry.lookupWire, named posting posted rfl]
    exact mem_rulesFor_build_iff.mpr ⟨posting, posted, rfl, .inr rfl, rfl⟩
  · rw [Registry.decodeWith?, if_pos active, decoded]
    rfl

/-- How an affiliation is written for a partner. -/
def affiliationRule : Rule where
  name := some "urn:oid:1.3.6.1.4.1.5923.1.1.1.9"
  scopeEncoding := .inline
  relyingParties := .ofMembers ["https://partner.example"]

/-- Affiliations are written with their scope behind them for a partner, and as claims for all. -/
def partnerPlan : RegistryPlan where
  installations := [
    ⟨" affiliation ", .tagged "saml2_scoped", affiliationRule⟩,
    ⟨"affiliation", .tagged "oidc_string", { name := some "affiliation" }⟩]

/-- The rule for the partner as it is kept. -/
def partnerRule : InstalledRule :=
  ⟨.saml2 .withScope, affiliationRule.install "affiliation"⟩

def partnerRequest : Request where
  requester := some "https://partner.example"

/-- Two affiliations. The mark stands within the first, before its scope. -/
def affiliations : Attribute where
  id := "affiliation"
  values := [.scoped ⟨"staff@library", "north.example"⟩, .scoped ⟨"member", "south.example"⟩]

/-- The affiliations as they are written for the partner. -/
def partnerWire : Wire :=
  .saml2 {
    name := "urn:oid:1.3.6.1.4.1.5923.1.1.1.9"
    nameFormat := some uriNameFormat
    values := [{ text := "staff@library@north.example", xsiType := some "xsd:string" },
      { text := "member@south.example", xsiType := some "xsd:string" }] }

/-- A partner reads the affiliations that were written for it. -/
theorem decode_encode_of_carries_partner :
    partnerRule ∈ partnerPlan.build.lookup affiliations.id TypeTag.saml2 ∧
      partnerWire ∈ partnerPlan.build.encode partnerRequest affiliations TypeTag.saml2 ∧
      (∃ posting ∈ partnerPlan.postings, posting.installed = partnerRule ∧
        partnerPlan.build.naming.canonicalName? partnerWire =
          some (TypeTag.saml2, posting.encodedName)) ∧
      ∃ back ∈ partnerPlan.build.decode partnerRequest partnerWire,
        back.id = "affiliation" ∧ back.values = affiliations.values := by
  have kept : partnerPlan.build.lookup affiliations.id TypeTag.saml2 = [partnerRule] := by rfl
  have found : partnerRule ∈ partnerPlan.build.lookup affiliations.id TypeTag.saml2 := by
    rw [kept]
    exact List.mem_singleton_self partnerRule
  have written :
      Registry.encodeWith? partnerRequest affiliations partnerRule = some partnerWire := by
    rfl
  have carries : partnerRule.codec.Carries partnerRule.rule affiliations.values := by
    apply Codec.Carries.saml2Scoped
    intro value member
    obtain rfl | rfl : value = .scoped ⟨"staff@library", "north.example"⟩ ∨
        value = .scoped ⟨"member", "south.example"⟩ := by
      simpa [affiliations] using member
    · exact .intro (by decide) (by decide) (fun _ => by decide)
    · exact .intro (by decide) (by decide) (fun _ => by decide)
  obtain ⟨encoded, ⟨posting, posted, same⟩, named, back⟩ :=
    decode_encode_of_carries rfl found written carries
  exact ⟨found, encoded, ⟨posting, posted, same, named posting posted same⟩, back⟩

end AttributeRelease.Transcoding
