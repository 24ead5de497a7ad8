import AttributeRelease.Proofs.Documents.Records
import AttributeRelease.Resolver.Config.Document

/-!
# Configurations of resolvers read back

Definitions and connectors of every kind are read back from documents in which the fields of the
kind stand among those that all kinds have: the names of the two sorts differ, so that what is left
over when the common fields are taken out is the kind (`splitFields?_among`). A configuration of a
resolver is read back from its text (`ResolverConfig.isCodec`).
-/

namespace AttributeRelease.Resolver

open Json

/-! ## Fields of a kind among others -/

section Among

variable {names kindNames : List String} {before kind after : List (String × Json)}
  (own : ((before ++ after).map Prod.fst).Sublist names)
  (special : (kind.map Prod.fst).Sublist kindNames)
  (apart : (names ++ kindNames).Nodup)

include own special apart

/-- The fields of the kind do not repeat a name that all kinds have. -/
theorem nodup_among : ((before ++ (kind ++ after)).map Prod.fst).Nodup := by
  have together : ((before ++ after) ++ kind).map Prod.fst |>.Nodup := by
    rw [List.map_append]
    exact (own.append special).nodup apart
  refine ((List.Perm.map Prod.fst ?_).nodup_iff).mp together
  rw [List.append_assoc]
  exact List.perm_append_comm.append_left before

/-- The fields that all kinds have are told by their names from those of the kind, which are then
read as a whole. -/
theorem splitFields?_among {budget : Nat}
    (readable : ∀ field ∈ kind, field.2.HasText ∧ field.2.depth ≤ budget - 1) :
    splitFields? budget names (.object (before ++ (kind ++ after))) =
      some (names.map fun name => (before ++ after).lookup name, .object kind) := by
  have disjoint := (List.nodup_append.mp apart).2.2
  have left : (before ++ (kind ++ after)).filter (fun field => field.1 ∉ names) = kind := by
    have common : ∀ field ∈ before ++ after, field.1 ∈ names := fun field member =>
      own.subset (List.mem_map_of_mem member)
    have foreign : ∀ field ∈ kind, field.1 ∉ names := fun field member inside =>
      disjoint _ inside _ (special.subset (List.mem_map_of_mem member)) rfl
    simp only [List.forall_mem_append] at common
    rw [List.filter_append, List.filter_append,
      List.filter_eq_nil_iff.mpr fun field member => by simpa using common.1 field member,
      List.filter_eq_self.mpr fun field member => by simpa using foreign field member,
      List.filter_eq_nil_iff.mpr fun field member => by simpa using common.2 field member]
    simp
  have found : names.mapM (field? (before ++ (kind ++ after))) =
      some (names.map fun name => (before ++ after).lookup name) := by
    refine (record?_object (nodup_among own special apart) names).trans (congrArg some ?_)
    refine List.map_congr_left fun name member => ?_
    have none : kind.lookup name = none := by
      refine List.lookup_eq_none_iff.mpr fun field inside => bne_iff_ne.mpr ?_
      exact disjoint _ member _ (special.subset (List.mem_map_of_mem inside))
    simp only [List.lookup_append, none, Option.none_or]
  have passed : (guard (fieldsReadable (budget - 1) kind = true) : Option Unit) = some () := by
    rw [fieldsReadable_iff.mpr fun field member =>
      (readable field member).1.isReadable_iff.mpr (readable field member).2]
    rfl
  rw [splitFields?, left, found]
  exact congrArg (Option.bind · _) passed

end Among

/-! ## Dependencies -/

/-- A dependency on a connector is read back with the attributes that are taken from it. -/
theorem ConnectorDependency.isCodec : IsCodec toJson ofJson? where
  hasText dependency := by simp [toJson, isCodec_string.list.hasText]
  reads dependency := by
    rw [ofJson?, toJson, record?_object (by simp)]
    simp [isCodec_string.list.reads]

/-- The dependencies of a plugin are read back, those that are left out as none. -/
theorem Dependencies.isCodec : IsCodec toJson ofJson? where
  hasText dependencies := by
    simp [toJson, isCodec_string.list.hasText, ConnectorDependency.isCodec.list.hasText]
  reads dependencies := by
    rw [ofJson?, toJson, record?_object (by simp)]
    simp [isCodec_string.list.reads, ConnectorDependency.isCodec.list.reads]

/-! ## Definitions -/

/-- A mapping is read back with its source, its value and the way in which texts are compared. -/
theorem MappingConfig.isCodec : IsCodec toJson ofJson? where
  hasText config := by simp [toJson]
  reads config := by
    rw [ofJson?, toJson, record?_object (by simp)]
    simp

namespace DefinitionSpec

/-- The names of the fields that some kind of definition has. -/
def fieldNames : List String :=
  ["type", "scope", "regex", "case_sensitive", "mappings", "default_value", "pass_through",
    "inbound_attribute_id"]

/-- A definition of any kind is written with fields of its kind only, each at most once. -/
theorem keys_fields (spec : DefinitionSpec) : (spec.fields.map Prod.fst).Sublist fieldNames := by
  cases spec <;> exact List.isSublist_iff_sublist.mp rfl

theorem hasText_fields (spec : DefinitionSpec) : ∀ field ∈ spec.fields, field.2.HasText := by
  cases spec <;> simp [fields, MappingConfig.isCodec.list.hasText]

/-- Mappings are the deepest part of a definition: a list of records of texts. -/
theorem depth_fields_le (spec : DefinitionSpec) : ∀ field ∈ spec.fields, field.2.depth ≤ 2 := by
  cases spec with
  | mapped mappings default passThrough =>
    have shallow (mapping : MappingConfig) : mapping.toJson.depth ≤ 1 := by
      simp [MappingConfig.toJson, depth_object_le_iff]
    simp [fields, depth_ofList_le mappings shallow]
  | _ => simp [fields]

/-- The fields of a kind are read back as the kind whose tag stands among them. -/
theorem ofJson?_fields (spec : DefinitionSpec) : ofJson? (.object spec.fields) = some spec := by
  cases spec <;> rw [ofJson?, fields, tagged?_object (by decide) (by simp)] <;>
    simp [unit?, record?_object, MappingConfig.isCodec.list.reads]

end DefinitionSpec

/-- A definition of any kind is read back where nesting is allowed three deep. -/
theorem DefinitionConfig.isCodec {budget : Nat} (enough : 3 ≤ budget) :
    IsCodec toJson (ofJson? budget) where
  hasText config := by
    simp only [toJson, hasText_object_iff, List.forall_mem_append, forall_mem_fieldUnless]
    simp only [List.forall_mem_cons]
    simpa [Dependencies.isCodec.hasText, isCodec_texts.hasText] using
      fun name value => config.kind.hasText_fields (name, value)
  reads config := by
    have readable : ∀ field ∈ config.kind.fields,
        field.2.HasText ∧ field.2.depth ≤ budget - 1 := fun field member =>
      ⟨config.kind.hasText_fields field member,
        Nat.le_trans (config.kind.depth_fields_le field member) (by omega)⟩
    simp only [ofJson?, toJson, List.append_assoc]
    rw [splitFields?_among ?_ config.kind.keys_fields (by decide) readable]
    · simp [Dependencies.isCodec.reads, DefinitionSpec.ofJson?_fields]
    · simp only [List.map_append]
      exact (List.Sublist.refl ["id"]).append <|
        (List.Sublist.refl ["dependencies", "dependency_only", "pre_requested"]).append <|
        (keys_fieldUnless _ _ _).append ((keys_fieldUnless _ _ _).append (keys_fieldUnless _ _ _))

/-! ## Connectors -/

/-- A fixed attribute is read back with its id and its values, in their order. -/
theorem isCodec_fixed : IsCodec fixedToJson fixedOfJson? where
  hasText attr := by simp [fixedToJson, isCodec_string.list.hasText]
  reads attr := by
    rw [fixedOfJson?, fixedToJson, record?_object (by simp)]
    simp [isCodec_string.list.reads]

namespace ConnectorSpec

/-- The names of the fields that some kind of connector has. -/
def fieldNames : List String :=
  ["type", "attributes", "source_attribute_id", "salt", "generated_attribute_id"]

/-- A connector of any kind is written with fields of its kind only, each at most once. -/
theorem keys_fields (spec : ConnectorSpec) : (spec.fields.map Prod.fst).Sublist fieldNames := by
  cases spec <;> exact List.isSublist_iff_sublist.mp rfl

theorem hasText_fields (spec : ConnectorSpec) : ∀ field ∈ spec.fields, field.2.HasText := by
  cases spec <;> simp [fields, isCodec_fixed.list.hasText]

/-- Fixed attributes are the deepest part of a connector: a list of records that hold lists. -/
theorem depth_fields_le (spec : ConnectorSpec) : ∀ field ∈ spec.fields, field.2.depth ≤ 3 := by
  cases spec with
  | fixed attributes =>
    have shallow (attr : String × List String) : (fixedToJson attr).depth ≤ 2 := by
      have texts := depth_ofList_le attr.2 fun text => Nat.le_of_eq (depth_string text)
      simpa [fixedToJson, depth_object_le_iff] using texts
    simp [fields, depth_ofList_le attributes shallow]
  | computedId sourceId salt generatedId => simp [fields]

/-- The fields of a kind are read back as the kind whose tag stands among them. -/
theorem ofJson?_fields (spec : ConnectorSpec) : ofJson? (.object spec.fields) = some spec := by
  cases spec <;> rw [ofJson?, fields, tagged?_object (by decide) (by simp)] <;>
    simp [record?_object, isCodec_fixed.list.reads]

end ConnectorSpec

/-- A connector of any kind is read back where nesting is allowed four deep. -/
theorem ConnectorConfig.isCodec {budget : Nat} (enough : 4 ≤ budget) :
    IsCodec toJson (ofJson? budget) where
  hasText config := by
    simp only [toJson, hasText_object_iff, List.forall_mem_append, forall_mem_fieldUnless]
    simp only [List.forall_mem_cons]
    simpa [Dependencies.isCodec.hasText, isCodec_texts.map.hasText, isCodec_string.list.hasText,
      isCodec_word.hasText] using fun name value => config.kind.hasText_fields (name, value)
  reads config := by
    have readable : ∀ field ∈ config.kind.fields,
        field.2.HasText ∧ field.2.depth ≤ budget - 1 := fun field member =>
      ⟨config.kind.hasText_fields field member,
        Nat.le_trans (config.kind.depth_fields_le field member) (by omega)⟩
    simp only [ofJson?, toJson, List.append_assoc]
    rw [splitFields?_among ?_ config.kind.keys_fields (by decide) readable]
    · simp [Dependencies.isCodec.reads, ConnectorSpec.ofJson?_fields, isCodec_word.reads,
        isCodec_string.orNil, isCodec_texts.orEmpty]
    · simp only [List.map_append]
      exact (List.Sublist.refl ["id"]).append <|
        (List.Sublist.refl ["dependencies"]).append <| (keys_fieldUnless _ _ _).append <|
        (List.Sublist.refl
          ["no_retry_delay_ms", "propagate_errors", "no_result_is_error", "export_all"]).append <|
        (keys_fieldUnless _ _ _).append ((keys_fieldUnless _ _ _).append (keys_fieldUnless _ _ _))

/-! ## Resolvers -/

/-- Nesting in the configuration of a resolver has a bound, so it is always read back. -/
theorem ResolverConfig.isCodec : IsCodec toJson ofJson? where
  hasText config := by
    simp [toJson, (DefinitionConfig.isCodec (Nat.le_refl 3)).list.hasText,
      (ConnectorConfig.isCodec (Nat.le_refl 4)).list.hasText]
  reads config := by
    have definitions := DefinitionConfig.isCodec (show 3 ≤ nestingLimit - 2 by decide)
    have connectors := ConnectorConfig.isCodec (show 4 ≤ nestingLimit - 2 by decide)
    rw [ofJson?, toJson, record?_object (by simp)]
    simp [definitions.list.reads, connectors.list.reads]

end AttributeRelease.Resolver
