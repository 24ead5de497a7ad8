import AttributeRelease.Proofs.Transcoding.Valuewise

/-!
# Bytes on the wire

Bytes stand on the wire as texts in Base64, with any space around them. A rule reads a text exactly
if it is canonical without that space, and writes the bytes as that text again, so an attribute that
is read and written comes back with its canonical texts, and nothing comes of any other
(`canonical_texts_return`).
-/

namespace AttributeRelease.Transcoding

open Bytes.Base64 (IsCanonical alphabet)

namespace SamlValueCodec

/-- A text stands for some bytes. -/
def StandsForBytes (text : String) : Prop := text ≠ "" ∧ IsCanonical text.toList

instance : DecidablePred StandsForBytes :=
  fun text => inferInstanceAs (Decidable (text ≠ "" ∧ IsCanonical text.toList))

/-- The texts of values on the wire that stand for bytes once they are trimmed, in order. -/
def byteTexts (wires : List SamlValue) : List String :=
  (wires.map fun wire => Text.trim wire.text).filter (StandsForBytes ·)

/-- The text of bytes stands for bytes unless there are none. -/
theorem standsForBytes_encode_iff {bytes : List UInt8} :
    StandsForBytes (Bytes.Base64.encode bytes) ↔ bytes ≠ [] := by
  have canonical : IsCanonical (Bytes.Base64.encode bytes).toList := by
    rw [Bytes.Base64.encode, String.toList_ofList]
    exact Bytes.Base64.isCanonical_iff.mpr ⟨bytes, rfl⟩
  exact (and_iff_left canonical).trans (not_congr Bytes.Base64.encode_eq_empty_iff)

/-- A text that is not decoded stands for no bytes. -/
theorem not_standsForBytes_of_decode? {text : String}
    (unread : Bytes.Base64.decode? text = none) : ¬ StandsForBytes text := by
  rintro ⟨-, canonical⟩
  have read := Bytes.Base64.isSome_decodeChars?_iff.mpr canonical
  rw [Bytes.Base64.decode?] at unread
  rw [unread] at read
  cases read

/-- What is written of what was read: the trimmed text if it stands for bytes. -/
theorem encode?_decode?_base64 (rule : Rule) (wire : SamlValue) :
    (base64.decode? wire).bind (base64.encode? rule) =
      if StandsForBytes (Text.trim wire.text) then
        some (typed rule bytesType (Text.trim wire.text))
      else none := by
  simp only [base64]
  cases read : Bytes.Base64.decode? (Text.trim wire.text) with
  | none => rw [if_neg (not_standsForBytes_of_decode? read)]; rfl
  | some bytes =>
    rw [← Bytes.Base64.decode?_eq_some_iff.mp read]
    by_cases nothing : bytes = []
    · rw [if_neg fun stands => standsForBytes_encode_iff.mp stands nothing, nothing]
      rfl
    · rw [if_pos (standsForBytes_encode_iff.mpr nothing)]
      simp [Value.ofBytes, Value.bytes?, nothing, Option.filter]

/-- What is written of the values that were read: the texts that stand for bytes. -/
theorem filterMap_encode?_decode?_base64 (rule : Rule) (wires : List SamlValue) :
    (wires.filterMap base64.decode?).filterMap (base64.encode? rule) =
      (byteTexts wires).map (typed rule bytesType) := by
  rw [List.filterMap_filterMap, byteTexts]
  induction wires with
  | nil => rfl
  | cons wire rest ih =>
    have own := encode?_decode?_base64 rule wire
    by_cases stands : StandsForBytes (Text.trim wire.text)
    · rw [if_pos stands] at own
      rw [List.map_cons, List.filter_cons, if_pos (decide_eq_true stands), List.map_cons, ← ih,
        List.filterMap_cons]
      simp only [own]
    · rw [if_neg stands] at own
      rw [List.map_cons, List.filter_cons, if_neg (mt of_decide_eq_true stands), ← ih,
        List.filterMap_cons]
      simp only [own]

/-- The same bytes are read of one trimmed text only. -/
theorem trim_eq_of_decode?_base64 {first second : SamlValue} {bytes : List UInt8}
    (one : base64.decode? first = some (.bytes bytes))
    (other : base64.decode? second = some (.bytes bytes)) :
    Text.trim first.text = Text.trim second.text := by
  have written {wire : SamlValue} (read : base64.decode? wire = some (.bytes bytes)) :
      Bytes.Base64.encode bytes = Text.trim wire.text := by
    simp only [base64, Option.map_eq_some_iff] at read
    obtain ⟨own, decoded, made⟩ := read
    rw [Value.ofBytes] at made
    split at made
    · cases made
    · cases made
      exact Bytes.Base64.decode?_eq_some_iff.mp decoded
  exact (written one).symm.trans (written other)

/-- A text that stands for bytes has digits and at most two paddings, in groups of four. -/
theorem exists_digits_of_mem_byteTexts {wires : List SamlValue} {text : String}
    (listed : text ∈ byteTexts wires) :
    ∃ digits padding, text.toList = digits ++ List.replicate padding '=' ∧
      (∀ c ∈ digits, c ∈ alphabet) ∧ padding ≤ 2 ∧ (digits.length + padding) % 4 = 0 := by
  obtain ⟨-, stands⟩ := List.mem_filter.mp listed
  exact (of_decide_eq_true stands).2.exists_digits

end SamlValueCodec

open SamlValueCodec

/-- Let a rule for bytes have a name. What it reads of an attribute on the wire and writes again are
the texts that are canonical and not empty without the space around them, in order, and nothing
comes of any other value: nothing is written if there is no such text. A canonical text has digits
of the standard alphabet, at most two equals signs behind them and whole groups, and no bytes are
read of two texts that differ in more than the space around them. For an attribute without an id
nothing is read at all. -/
theorem canonical_texts_return {rule : Rule} {name : String} (named : rule.name = some name)
    (request : Request) (attr : Saml2Attribute) :
    (Text.isBlank rule.attributeId = true →
        (Codec.saml2 .base64).decode request (.saml2 attr) rule =
          .error (.attributeError (.blankId rule.attributeId))) ∧
      (Text.isBlank rule.attributeId = false → ∃ back,
        (Codec.saml2 .base64).decode request (.saml2 attr) rule = .ok (some back) ∧
          (byteTexts attr.values = [] →
            (Codec.saml2 .base64).encode request back rule = .ok none) ∧
          (byteTexts attr.values ≠ [] →
            (Codec.saml2 .base64).encode request back rule = .ok (some (.saml2 {
              name
              nameFormat := some (Codec.saml2NameFormat rule)
              friendlyName := rule.friendlyName
              values := (byteTexts attr.values).map (typed rule bytesType) })))) ∧
      (∀ text ∈ byteTexts attr.values, ∃ digits padding,
        text.toList = digits ++ List.replicate padding '=' ∧ (∀ c ∈ digits, c ∈ alphabet) ∧
          padding ≤ 2 ∧ (digits.length + padding) % 4 = 0) ∧
      ∀ first second bytes, base64.decode? first = some (.bytes bytes) →
        base64.decode? second = some (.bytes bytes) →
          Text.trim first.text = Text.trim second.text := by
  refine ⟨fun blank => ?_, fun identified => ?_, fun text => exists_digits_of_mem_byteTexts,
    fun first second bytes => trim_eq_of_decode?_base64⟩
  · simp only [Codec.saml2, Codec.decoded_of_isBlank blank]
    rfl
  · obtain ⟨back, decoded, -, values⟩ :=
      decoded_ok identified (attr.values.filterMap base64.decode?)
    have written : back.values.filterMap (base64.encode? rule) =
        (byteTexts attr.values).map (typed rule bytesType) := by
      rw [values, filterMap_encode?_decode?_base64]
    have byValues := @Codec.saml2_byValues base64 rule name named
    refine ⟨back, ?_, fun nothing => ?_, fun something => ?_⟩
    · simp only [Codec.saml2, decoded]
      rfl
    · apply byValues.encode_of_nil
      rw [written, nothing, List.map_nil]
    · rw [byValues.encode_of_ne_nil request back, written]
      rw [written, ne_eq, List.map_eq_nil_iff]
      exact something

/-- The certificates of a person: two with space around them, and others that have space within
them, bits left over, an equals sign too few or too many, a digit of another alphabet or nothing at
all. -/
def certificates : Saml2Attribute where
  name := "urn:oid:2.5.4.36"
  values := [{ text := " QUI=\n" }, { text := "QU I=" }, { text := "QUJ=" }, { text := "QUI" },
    { text := "QUJD" }, { text := "QUJD=" }, { text := "QU-_" }, { text := " " }]

def certificateRule : Rule where
  name := some "urn:oid:2.5.4.36"
  encodeType := false

/-- Of a person's certificates two come back. -/
theorem canonical_texts_return_certificates :
    certificateRule.name = some "urn:oid:2.5.4.36" ∧
      ∃ back,
        (Codec.saml2 .base64).decode {} (.saml2 certificates)
            (certificateRule.install "certificate") = .ok (some back) ∧
          (Codec.saml2 .base64).encode {} back (certificateRule.install "certificate") =
            .ok (some (.saml2 {
              name := "urn:oid:2.5.4.36"
              nameFormat := some uriNameFormat
              values := [{ text := "QUI=" }, { text := "QUJD" }] })) := by
  have named : (certificateRule.install "certificate").name = some "urn:oid:2.5.4.36" := rfl
  have texts : byteTexts certificates.values = ["QUI=", "QUJD"] := by decide +kernel
  have something : byteTexts certificates.values ≠ [] := texts ▸ List.cons_ne_nil _ _
  obtain ⟨-, read, -⟩ := canonical_texts_return named {} certificates
  obtain ⟨back, decoded, -, written⟩ := read rfl
  refine ⟨rfl, back, decoded, (written something).trans ?_⟩
  rw [texts]
  rfl

end AttributeRelease.Transcoding
