import AttributeRelease.Attribute.Basic
import AttributeRelease.Attribute.Request
import AttributeRelease.Proofs.Documents.Records

/-!
# Attributes and requests read back

Attributes of any form and requests are read back from their texts as they were
(`attributes_and_requests_read_back`): no value is normalised on the way, not even one that no
constructor makes.
-/

namespace AttributeRelease

open Json

/-! ## Values -/

namespace Value

/-- A value of any form can be written as text. -/
theorem hasText_toJson : (value : Value) → value.toJson.HasText
  | .text content => by simp [toJson]
  | .scoped content => by simp [toJson]
  | .bytes content => by
    have small : ∀ byte ∈ content, (nat byte.toNat).HasText := fun byte _ =>
      hasText_nat (Nat.lt_trans byte.toNat_lt (by decide))
    simpa [toJson] using small
  | .empty absence => by cases absence <;> simp [toJson]
  | .structured typeName content => by simp [toJson]

/-- The numbers of bytes are read back. -/
theorem list?_bytes (bytes : List UInt8) :
    (Json.array (bytes.map fun byte => nat byte.toNat)).list? (natBelow? 256) =
      some (bytes.map UInt8.toNat) := by
  have each (byte : UInt8) : natBelow? 256 (nat byte.toNat) = some byte.toNat := by
    have small : byte.toNat < 256 := byte.toNat_lt
    simp [natBelow?, nat, Number.toNat?, Option.filter, small]
  rw [list?]
  induction bytes with
  | nil => rfl
  | cons byte rest ih => simp [List.mapM_cons, each, ih]

/-- A value of any form is read back, whatever the budget. -/
theorem ofJson?_toJson (budget : Nat) : (value : Value) → ofJson? budget value.toJson = some value
  | .text content => rfl
  | .scoped content => rfl
  | .bytes content => by
    have read : ofContent? .direct "bytes" (.array (content.map fun byte => nat byte.toNat)) =
        some (.bytes content) := by
      simp [ofContent?, list?_bytes, Function.comp_def]
    exact read
  | .empty .null => rfl
  | .empty .zeroLength => rfl
  | .structured typeName content => rfl

theorem isCodec (budget : Nat) : IsCodec toJson (ofJson? budget) :=
  ⟨hasText_toJson, ofJson?_toJson budget⟩

end Value

/-! ## Attributes -/

/-- An attribute is read back with its names and descriptions, which are left out if there are
none. -/
theorem Attribute.isCodec (budget : Nat) : IsCodec toJson (ofJson? budget) where
  hasText attr := by
    have values := (Value.isCodec budget).list.hasText attr.values
    simp only [toJson, hasText_object_iff, List.forall_mem_append, List.forall_mem_cons,
      forall_mem_fieldUnless]
    simp [values, isCodec_texts.hasText]
  reads attr := by
    have values := (Value.isCodec (budget - 2)).list.reads attr.values
    rw [ofJson?, toJson, record?_object]
    · simp [values]
    · refine List.Nodup.sublist (?_ : List.Sublist _
        ["id", "values", "display_names", "display_descriptions"]) (by decide)
      rw [List.map_append, List.map_append]
      exact ((List.Sublist.refl _).append (keys_fieldUnless _ _ _)).append (keys_fieldUnless _ _ _)

/-- A map is read back with every attribute under its own key, whatever the id of the attribute. -/
theorem AttributeMap.isCodec (budget : Nat) : IsCodec toJson (ofJson? budget) :=
  (Attribute.isCodec (budget - 1)).map

/-! ## Requests -/

/-- A request is read back with the parties that are known. -/
theorem Request.isCodec : IsCodec toJson ofJson? where
  hasText request := by
    simp only [toJson, hasText_object_iff, List.forall_mem_append, forall_mem_fieldUnless]
    simp
  reads request := by
    rw [ofJson?, toJson, record?_object]
    · simp
    · refine List.Nodup.sublist
        (?_ : List.Sublist _ ["requester_id", "issuer_id", "principal_name"]) (by decide)
      rw [List.map_append, List.map_append]
      exact ((keys_fieldUnless _ _ _).append (keys_fieldUnless _ _ _)).append
        (keys_fieldUnless _ _ _)

/-! ## Texts -/

/-- Every map of attributes and every request is read back from its text as it was. -/
theorem attributes_and_requests_read_back :
    (∀ attributes : AttributeMap,
      (parse? attributes.toJson.print).bind (AttributeMap.ofJson? nestingLimit) =
        some attributes) ∧
      ∀ request : Request, (parse? request.toJson.print).bind Request.ofJson? = some request :=
  ⟨(AttributeMap.isCodec nestingLimit).parse?_print, Request.isCodec.parse?_print⟩

end AttributeRelease
