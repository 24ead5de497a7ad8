import AttributeRelease.Filter.Config
import AttributeRelease.Proofs.Documents.Records

/-!
# Configurations of filters read back

A configuration of a filter is read back from its text as long as its matchers and requirements are
not nested too deep, and is refused otherwise (`FilterConfig.parse?_print`).
-/

namespace AttributeRelease.Filter

open Json

/-! ## Matchers -/

namespace Comparison.Spec

theorem hasText_fields (spec : Spec) : ∀ field ∈ spec.fields, field.2.HasText := by
  simp [fields]

/-- A comparison is read back from its fields; those that have their default were left out. -/
theorem ofJson?_fields (stage : Stage) (spec : Spec) :
    ofJson? stage (.object spec.fields) = some spec := by
  have mode : name? stage Mode.names (.string spec.mode.name) = some spec.mode := by
    cases spec.mode <;> rfl
  rw [ofJson?, fields, record?_object (by simp)]
  simp [mode]

end Comparison.Spec

namespace Matcher

/-- The members of a matcher are written each by itself. -/
theorem toJsonEach_eq_map (members : List (Matcher Comparison.Spec)) :
    toJsonEach members = members.map toJson := by
  induction members with
  | nil => rfl
  | cons member rest ih => rw [toJsonEach, ih, List.map_cons]

/-- A matcher can be written as text, however its members are nested. -/
theorem hasText_toJson (matcher : Matcher Comparison.Spec) : matcher.toJson.HasText := by
  induction matcher with
  | any => simp [toJson]
  | value spec | scope spec | party who spec =>
    rw [toJson, hasText_object_iff]
    exact List.forall_mem_cons.mpr ⟨.string _, spec.hasText_fields⟩
  | all members ih | either members ih => simpa [toJson, toJsonEach_eq_map] using ih
  | not member ih => simpa [toJson] using ih

theorem tagged?_spec (stage : Stage) {kind : String} (known : kind ∈ kinds)
    (spec : Comparison.Spec) :
    tagged? stage kinds (.object (("type", .string kind) :: spec.fields)) =
      some (kind, .object spec.fields) :=
  tagged?_object known (by simp [Comparison.Spec.fields])

/-- A matcher is read back out of a document when its own is not nested deeper than the budget. -/
theorem read?_toJson {matcher : Matcher Comparison.Spec} {stage : Stage} {depth : Nat}
    (within : matcher.toJson.depth ≤ depth) : read? stage depth matcher.toJson = some matcher := by
  induction matcher generalizing stage depth with
  | any =>
    obtain ⟨inner, rfl, -⟩ := depth_object_le_iff.mp within
    rw [read?, toJson, tagged?_object (by decide) (by simp)]
    simp [unit?]
  | value spec | scope spec =>
    obtain ⟨inner, rfl, -⟩ := depth_object_le_iff.mp within
    rw [read?, toJson, tagged?_spec stage (by decide)]
    simp [Comparison.Spec.ofJson?_fields]
  | party who spec =>
    obtain ⟨inner, rfl, -⟩ := depth_object_le_iff.mp within
    rw [read?, toJson, tagged?_spec stage (by cases who <;> decide)]
    cases who <;> simp [Request.Party.name, Comparison.Spec.ofJson?_fields]
  | all members ih | either members ih =>
    rw [toJson, toJsonEach_eq_map] at within ⊢
    obtain ⟨inner, rfl, members⟩ := exists_list?_of_depth_le (read? .buffered) within
      fun member inside => ih member inside
    rw [read?, tagged?_object (by decide) (by simp)]
    simp [record?_object, members]
  | not member ih =>
    obtain ⟨inner, rfl, fields⟩ := depth_object_le_iff.mp within
    have member : read? .buffered inner member.toJson = some member :=
      ih (fields ("matcher", member.toJson) (by simp))
    rw [read?, toJson, tagged?_object (by decide) (by simp)]
    simp [record?_object, member]

/-- A matcher is read back out of a text exactly when it is not nested too deep. -/
theorem ofJson?_toJson (budget : Nat) (matcher : Matcher Comparison.Spec) :
    ofJson? budget matcher.toJson =
      if matcher.toJson.depth ≤ budget then some matcher else none :=
  guard_isReadable_bind matcher.hasText_toJson read?_toJson

/-- A matcher is written as an object, so members take at least one level of nesting. -/
theorem depth_toJson_pos (matcher : Matcher Comparison.Spec) : 0 < matcher.toJson.depth := by
  cases matcher <;> exact depth_object_pos _

end Matcher

/-! ## Requirements -/

namespace Requirement

/-- The members of a requirement are written each by itself. -/
theorem toJsonEach_eq_map (members : List (Requirement Comparison.Spec)) :
    toJsonEach members = members.map toJson := by
  induction members with
  | nil => rfl
  | cons member rest ih => rw [toJsonEach, ih, List.map_cons]

/-- A requirement can be written as text, however its members are nested. -/
theorem hasText_toJson (requirement : Requirement Comparison.Spec) :
    requirement.toJson.HasText := by
  induction requirement with
  | any => simp [toJson]
  | party who spec =>
    rw [toJson, hasText_object_iff]
    exact List.forall_mem_cons.mpr ⟨.string _, spec.hasText_fields⟩
  | attributeValue id matcher => simp [toJson, matcher.hasText_toJson]
  | all members ih | either members ih => simpa [toJson, toJsonEach_eq_map] using ih
  | not member ih => simpa [toJson] using ih

/-- A requirement is read back out of a document when its own is not nested deeper than the
budget. -/
theorem read?_toJson {requirement : Requirement Comparison.Spec} {stage : Stage} {depth : Nat}
    (within : requirement.toJson.depth ≤ depth) :
    read? stage depth requirement.toJson = some requirement := by
  induction requirement generalizing stage depth with
  | any =>
    obtain ⟨inner, rfl, -⟩ := depth_object_le_iff.mp within
    rw [read?, toJson, tagged?_object (by decide) (by simp)]
    simp [unit?]
  | party who spec =>
    obtain ⟨inner, rfl, -⟩ := depth_object_le_iff.mp within
    rw [read?, toJson,
      tagged?_object (by cases who <;> decide) (by simp [Comparison.Spec.fields])]
    cases who <;> simp [Request.Party.name, Comparison.Spec.ofJson?_fields]
  | attributeValue id matcher =>
    obtain ⟨inner, rfl, fields⟩ := depth_object_le_iff.mp within
    have read : Matcher.read? .buffered inner matcher.toJson = some matcher :=
      Matcher.read?_toJson (fields ("matcher", matcher.toJson) (by simp))
    rw [read?, toJson, tagged?_object (by decide) (by simp)]
    simp [record?_object, read]
  | all members ih | either members ih =>
    rw [toJson, toJsonEach_eq_map] at within ⊢
    obtain ⟨inner, rfl, members⟩ := exists_list?_of_depth_le (read? .buffered) within
      fun member inside => ih member inside
    rw [read?, tagged?_object (by decide) (by simp)]
    simp [record?_object, members]
  | not member ih =>
    obtain ⟨inner, rfl, fields⟩ := depth_object_le_iff.mp within
    have member : read? .buffered inner member.toJson = some member :=
      ih (fields ("rule", member.toJson) (by simp))
    rw [read?, toJson, tagged?_object (by decide) (by simp)]
    simp [record?_object, member]

/-- A requirement is read back out of a text exactly when it is not nested too deep. -/
theorem ofJson?_toJson (budget : Nat) (requirement : Requirement Comparison.Spec) :
    ofJson? budget requirement.toJson =
      if requirement.toJson.depth ≤ budget then some requirement else none :=
  guard_isReadable_bind requirement.hasText_toJson read?_toJson

/-- A requirement is written as an object, so members take at least one level of nesting. -/
theorem depth_toJson_pos (requirement : Requirement Comparison.Spec) :
    0 < requirement.toJson.depth := by
  cases requirement <;> exact depth_object_pos _

end Requirement

/-! ## Rules and policies -/

/-- A rule is read back exactly when it is not nested too deep. -/
theorem RuleConfig.ofJson?_toJson (budget : Nat) (config : RuleConfig) :
    ofJson? budget config.toJson =
      if config.toJson.depth ≤ budget then some config else none := by
  have depth : config.toJson.depth ≤ budget ↔ config.matcher.toJson.depth ≤ budget - 1 := by
    have positive := config.matcher.depth_toJson_pos
    simp only [toJson, depth_object_le_iff, List.forall_mem_cons, depth_ofOption,
      depth_string, depth_bool]
    constructor
    · rintro ⟨inner, rfl, -, -, -, within, -⟩
      exact within
    · intro within
      refine ⟨budget - 1, by omega, ?_⟩
      simp [within]
  have read : ofJson? budget config.toJson =
      if config.matcher.toJson.depth ≤ budget - 1 then some config else none := by
    rw [ofJson?, toJson, record?_object (by simp)]
    simp only [List.map_cons, List.map_nil, lookup_field]
    simp [Matcher.ofJson?_toJson]
    split <;> rfl
  simp only [read, depth]

theorem RuleConfig.hasText_toJson (config : RuleConfig) : config.toJson.HasText := by
  simp [toJson, config.matcher.hasText_toJson]

theorem PolicyConfig.hasText_toJson (config : PolicyConfig) : config.toJson.HasText := by
  simp [toJson, Json.ofList, config.requirement.hasText_toJson, RuleConfig.hasText_toJson]

/-- A policy is read back exactly when it is not nested too deep. -/
theorem PolicyConfig.ofJson?_toJson (budget : Nat) (config : PolicyConfig) :
    ofJson? budget config.toJson =
      if config.toJson.depth ≤ budget then some config else none := by
  have rules := list?_ofList_ite (RuleConfig.ofJson?_toJson (budget - 2)) config.rules
  have depth : config.toJson.depth ≤ budget ↔
      config.requirement.toJson.depth ≤ budget - 1 ∧
        ∀ rule ∈ config.rules, rule.toJson.depth ≤ budget - 2 := by
    have positive := config.requirement.depth_toJson_pos
    simp only [toJson, Json.ofList, depth_object_le_iff, depth_array_le_iff, List.forall_mem_cons,
      depth_string, List.forall_mem_map]
    constructor
    · rintro ⟨_, rfl, -, requirement, ⟨inner, rfl, each⟩, -⟩
      exact ⟨requirement, each⟩
    · rintro ⟨requirement, each⟩
      refine ⟨budget - 1, by omega, Nat.zero_le _, requirement, ⟨budget - 2, by omega, each⟩, ?_⟩
      simp
  have read : ofJson? budget config.toJson =
      if config.requirement.toJson.depth ≤ budget - 1 ∧
        ∀ rule ∈ config.rules, rule.toJson.depth ≤ budget - 2 then some config else none := by
    rw [ofJson?, toJson, record?_object (by simp)]
    simp only [List.map_cons, List.map_nil, lookup_field]
    by_cases requirement : config.requirement.toJson.depth ≤ budget - 1
    · by_cases each : ∀ rule ∈ config.rules, rule.toJson.depth ≤ budget - 2
      · rw [if_pos each] at rules
        rw [if_pos (And.intro requirement each)]
        simp [Requirement.ofJson?_toJson, requirement, rules]
      · rw [if_neg each] at rules
        rw [if_neg (not_and_of_not_right _ each)]
        simp [Requirement.ofJson?_toJson, requirement, rules]
    · rw [if_neg (not_and_of_not_left _ requirement)]
      simp [Requirement.ofJson?_toJson, requirement]
  simp only [read, depth]

/-- The configuration of a filter is read back from its text exactly when it is not nested deeper
than documents may be. -/
theorem FilterConfig.parse?_print (config : FilterConfig) :
    parse? config.toJson.print =
      if config.toJson.depth ≤ nestingLimit then some config else none := by
  have policies := list?_ofList_ite (PolicyConfig.ofJson?_toJson (nestingLimit - 2)) config.policies
  have depth : config.toJson.depth ≤ nestingLimit ↔
      ∀ policy ∈ config.policies, policy.toJson.depth ≤ nestingLimit - 2 := by
    simp only [toJson, Json.ofList, depth_object_le_iff, depth_array_le_iff, List.forall_mem_cons,
      List.forall_mem_map]
    constructor
    · rintro ⟨outer, limit, ⟨inner, rfl, each⟩, -⟩
      rwa [limit]
    · intro each
      refine ⟨nestingLimit - 1, by decide, ⟨nestingLimit - 2, by decide, each⟩, ?_⟩
      simp
  have hasText : config.toJson.HasText := by
    simp [toJson, Json.ofList, PolicyConfig.hasText_toJson]
  rw [parse?, hasText.parse?_print, Option.bind_eq_bind, Option.bind_some, ofJson?, toJson,
    record?_object (by simp)]
  simp only [List.map_cons, List.map_nil, lookup_field]
  by_cases each : ∀ policy ∈ config.policies, policy.toJson.depth ≤ nestingLimit - 2
  · rw [if_pos each] at policies
    rw [← toJson, if_pos (depth.mpr each)]
    simp [policies]
  · rw [if_neg each] at policies
    rw [← toJson, if_neg fun within => each (depth.mp within)]
    simp [policies]

end AttributeRelease.Filter
