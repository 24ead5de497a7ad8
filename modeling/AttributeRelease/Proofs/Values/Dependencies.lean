import AttributeRelease.Proofs.Query.Gathering
import AttributeRelease.Proofs.Query.Templates

/-!
# The values of dependencies

Plugins see the values of their dependencies as one list or by attribute. Both are made of what the
dependencies supply (`contributions`), each as often as it is declared. By attribute, all of it is
there; the one list has no other values, and has all of them if every dependency on a connector
lists attributes, and none of them twice (`merged_values_regrouped`).
-/

namespace AttributeRelease.Resolver.Resolution

open Query (valuesUnder perm_flatMap_valuesUnder group group_addValues group_foldl
  flatMap_entries_key flatMap_filter)

/-- What a dependency on a connector supplies: the values of the attributes that it takes, under the
keys that these have there. -/
def taken (resolution : Resolution) (dependency : ConnectorDependency) :
    List (String × List Value) :=
  match resolution.fetchedAttributes? dependency.connectorId with
  | some attributes =>
    (attributes.entries.filter fun entry => takes dependency entry.1).map fun entry =>
      (entry.1, entry.2.values)
  | none => []

/-- What a dependency on a definition supplies: the values of its attribute, under the id of that. -/
def defined (resolution : Resolution) (id : String) : List (String × List Value) :=
  (resolution.definedAttribute? id).toList.map fun attr => (attr.id, attr.values)

/-- What dependencies supply, in the order in which they are declared and as often. -/
def contributions (resolution : Resolution) (dependencies : Dependencies) :
    List (String × List Value) :=
  dependencies.attributes.flatMap resolution.defined ++
    dependencies.connectors.flatMap resolution.taken

variable {resolution : Resolution} {dependencies : Dependencies} {sourceId : String}
  {dependency : ConnectorDependency} {groups : KeyMap (List Value)}
  {parts : List (String × List Value)}

/-! ## By attribute -/

/-- Adds lists of values to the groups that they belong to. -/
def addAll (groups : KeyMap (List Value)) (parts : List (String × List Value)) :
    KeyMap (List Value) :=
  parts.foldl (fun groups part => addValues groups part.1 part.2) groups

theorem addDefinition_eq (groups : KeyMap (List Value)) (id : String) :
    resolution.addDefinition groups id = addAll groups (resolution.defined id) := by
  rw [addDefinition, defined]
  cases resolution.definedAttribute? id <;> rfl

theorem addConnector_eq (groups : KeyMap (List Value)) (dependency : ConnectorDependency) :
    resolution.addConnector groups dependency = addAll groups (resolution.taken dependency) := by
  rw [addConnector, taken]
  cases resolution.fetchedAttributes? dependency.connectorId with
  | none => rfl
  | some attributes => simp only [addAll, List.foldl_map]

/-- Grouping the values of dependencies adds their contributions one by one, in order. -/
theorem groupedValues_eq (resolution : Resolution) (dependencies : Dependencies) :
    resolution.groupedValues dependencies =
      addAll ∅ (resolution.contributions dependencies) := by
  have definitions : resolution.addDefinition = fun groups id =>
      addAll groups (resolution.defined id) :=
    funext fun groups => funext fun id => addDefinition_eq groups id
  have connectors : resolution.addConnector = fun groups dependency =>
      addAll groups (resolution.taken dependency) :=
    funext fun groups => funext fun dependency => addConnector_eq groups dependency
  rw [groupedValues, definitions, connectors, contributions]
  unfold addAll
  rw [List.foldl_append, List.foldl_flatMap, List.foldl_flatMap]

/-- The group of an attribute has what is contributed under its id, in order. -/
theorem group_addAll (parts : List (String × List Value)) (id : String) :
    group (addAll ∅ parts) id = valuesUnder id parts := by
  have step (groups : KeyMap (List Value)) (part : String × List Value) :
      group (addValues groups part.1 part.2) id =
        group groups id ++ if part.1 = id then part.2 else [] :=
    group_addValues part.1 part.2
  have empty : group ∅ id = [] := rfl
  rw [addAll, group_foldl step, valuesUnder, flatMap_filter, empty, List.nil_append]
  simp only [decide_eq_true_eq]

/-- Adding values makes at most one new group. -/
theorem mem_keys_addValues_iff {key id : String} {values : List Value} :
    id ∈ (addValues groups key values).keys ↔ key = id ∨ id ∈ groups.keys := by
  rw [KeyMap.mem_keys_iff, KeyMap.mem_keys_iff, KeyMap.contains, addValues, KeyMap.get?_insert,
    KeyMap.contains]
  by_cases same : key = id <;> simp [same]

/-- Groups stay, and each list of values has one. -/
theorem mem_keys_addAll_iff {id : String} :
    id ∈ (addAll groups parts).keys ↔ id ∈ groups.keys ∨ id ∈ parts.map Prod.fst := by
  induction parts generalizing groups with
  | nil => simp [addAll]
  | cons part rest ih =>
    have onward : addAll groups (part :: rest) = addAll (addValues groups part.1 part.2) rest := rfl
    rw [onward, ih, mem_keys_addValues_iff, List.map_cons, List.mem_cons]
    constructor
    · intro listed
      rcases listed with (same | there) | behind
      · exact .inr (.inl same.symm)
      · exact .inl there
      · exact .inr (.inr behind)
    · intro listed
      rcases listed with there | same | behind
      · exact .inl (.inr there)
      · exact .inl (.inl same.symm)
      · exact .inr behind

/-- All grouped values are those of the groups in the order of their ids. -/
theorem values_eq_flatMap_group (groups : KeyMap (List Value)) :
    groups.values.flatten = groups.keys.flatMap (group groups) := by
  rw [KeyMap.values, KeyMap.keys, List.flatMap_map, ← List.flatMap_def]
  refine List.flatMap_congr fun entry listed => ?_
  rw [group, (groups.mem_entries_iff entry.1 entry.2).mp listed, Option.getD_some]

/-- The groups together have all values as often as the lists. -/
theorem perm_values_addAll (parts : List (String × List Value)) :
    (addAll ∅ parts).values.flatten.Perm (parts.flatMap Prod.snd) := by
  rw [values_eq_flatMap_group, List.flatMap_congr fun id _ => group_addAll parts id]
  apply perm_flatMap_valuesUnder (KeyMap.keys_nodup _)
  intro part listed
  exact mem_keys_addAll_iff.mpr (.inr (List.mem_map_of_mem listed))

/-- Grouping loses no value and repeats none. -/
theorem perm_groupedValues (resolution : Resolution) (dependencies : Dependencies) :
    (resolution.groupedValues dependencies).values.flatten.Perm
      ((resolution.contributions dependencies).flatMap Prod.snd) := by
  rw [groupedValues_eq]
  exact perm_values_addAll _

/-! ## As one list -/

/-- Merging takes from a definition all that it supplies. -/
theorem valuesOf_eq_flatMap_defined (id : String) :
    valuesOf (resolution.definedAttribute? id) = (resolution.defined id).flatMap Prod.snd := by
  rw [valuesOf, defined]
  cases resolution.definedAttribute? id <;> simp

/-- What a dependency supplies under a key that it takes is the attribute there. -/
theorem valuesUnder_taken {attributes : AttributeMap}
    (fetched : resolution.fetchedAttributes? dependency.connectorId = some attributes) {id : String}
    (takesIt : takes dependency id = true) :
    valuesUnder id (resolution.taken dependency) = valuesOf (attributes.get? id) := by
  rw [valuesUnder, taken, fetched]
  simp only [List.filter_map, List.flatMap_map, List.filter_filter, flatMap_filter]
  rw [valuesOf, ← flatMap_entries_key attributes id Attribute.values]
  refine List.flatMap_congr fun entry _ => ?_
  by_cases same : entry.1 = id
  · simp [same, takesIt]
  · simp [same]

theorem valuesUnder_subset (id : String) (parts : List (String × List Value)) :
    valuesUnder id parts ⊆ parts.flatMap Prod.snd := by
  intro value member
  obtain ⟨part, listed, own⟩ := List.mem_flatMap.mp member
  exact List.mem_flatMap.mpr ⟨part, (List.mem_filter.mp listed).1, own⟩

/-- Merging takes from a connector no more than it supplies. -/
theorem connectorValues_subset (sourceId : String) (dependency : ConnectorDependency) :
    resolution.connectorValues sourceId dependency ⊆
      (resolution.taken dependency).flatMap Prod.snd := by
  intro value member
  rw [connectorValues] at member
  split at member
  next => cases member
  next attributes fetched =>
    obtain ⟨id, takesIt, own⟩ : ∃ id, takes dependency id = true ∧
        value ∈ valuesOf (attributes.get? id) := by
      split at member
      next unlisted => exact ⟨sourceId, by simp [takes, unlisted], member⟩
      next listed =>
        obtain ⟨id, among, own⟩ := List.mem_flatMap.mp member
        exact ⟨id, by simp [takes, among], own⟩
    rw [← valuesUnder_taken fetched takesIt] at own
    exact valuesUnder_subset id _ own

/-- A dependency that lists attributes of a connector, none of them twice, merges what it
supplies. -/
theorem perm_connectorValues (sourceId : String) (listed : dependency.attributeIds ≠ [])
    (once : dependency.attributeIds.Nodup) :
    (resolution.connectorValues sourceId dependency).Perm
      ((resolution.taken dependency).flatMap Prod.snd) := by
  cases fetched : resolution.fetchedAttributes? dependency.connectorId with
  | none => simp [connectorValues, taken, fetched]
  | some attributes =>
    have own : resolution.connectorValues sourceId dependency =
        dependency.attributeIds.flatMap fun id => valuesUnder id (resolution.taken dependency) := by
      rw [connectorValues, fetched]
      simp only [List.isEmpty_iff, listed, if_false]
      refine List.flatMap_congr fun id among => (valuesUnder_taken fetched ?_).symm
      simp [takes, among]
    rw [own]
    apply perm_flatMap_valuesUnder once
    intro part supplied
    rw [taken, fetched] at supplied
    obtain ⟨entry, kept, rfl⟩ := List.mem_map.mp supplied
    have takesIt := (List.mem_filter.mp kept).2
    simpa [takes, listed] using takesIt

/-- What definitions supply is merged as it is, and then what each dependency on a connector
merges. -/
theorem mergedValues_eq (resolution : Resolution) (dependencies : Dependencies)
    (sourceId : String) :
    resolution.mergedValues dependencies sourceId =
      (dependencies.attributes.flatMap resolution.defined).flatMap Prod.snd ++
        dependencies.connectors.flatMap (resolution.connectorValues sourceId) := by
  rw [mergedValues, List.flatMap_assoc,
    List.flatMap_congr fun id _ => valuesOf_eq_flatMap_defined id]

theorem flatMap_contributions (resolution : Resolution) (dependencies : Dependencies) :
    (resolution.contributions dependencies).flatMap Prod.snd =
      (dependencies.attributes.flatMap resolution.defined).flatMap Prod.snd ++
        dependencies.connectors.flatMap fun dependency =>
          (resolution.taken dependency).flatMap Prod.snd := by
  rw [contributions, List.flatMap_append, List.flatMap_assoc (l := dependencies.connectors)]

/-- Merging takes no more from dependencies than grouping them does. -/
theorem mergedValues_subset (resolution : Resolution) (dependencies : Dependencies)
    (sourceId : String) :
    resolution.mergedValues dependencies sourceId ⊆
      (resolution.contributions dependencies).flatMap Prod.snd := by
  rw [mergedValues_eq, flatMap_contributions]
  intro value member
  rcases List.mem_append.mp member with ofDefinitions | ofConnectors
  · exact List.mem_append_left _ ofDefinitions
  · obtain ⟨dependency, declared, own⟩ := List.mem_flatMap.mp ofConnectors
    apply List.mem_append_right
    exact List.mem_flatMap.mpr ⟨dependency, declared, connectorValues_subset sourceId _ own⟩

/-- Each value of the one list is there by attribute. If every dependency on a connector lists
attributes, and none of them twice, the one list has exactly the values that are there by attribute,
in some order and each as often. By attribute there is what the dependencies supply, as often as
they are declared. -/
theorem merged_values_regrouped (resolution : Resolution) (dependencies : Dependencies)
    (sourceId : String) :
    (∀ value ∈ resolution.mergedValues dependencies sourceId,
        ∃ id values, (resolution.groupedValues dependencies).get? id = some values ∧
          value ∈ values) ∧
      ((∀ dependency ∈ dependencies.connectors,
          dependency.attributeIds ≠ [] ∧ dependency.attributeIds.Nodup) →
        (resolution.mergedValues dependencies sourceId).Perm
          (resolution.groupedValues dependencies).values.flatten) ∧
      (resolution.groupedValues dependencies).values.flatten.Perm
        ((resolution.contributions dependencies).flatMap Prod.snd) := by
  have grouped := perm_groupedValues resolution dependencies
  refine ⟨fun value member => ?_, fun listed => ?_, grouped⟩
  · have supplied := mergedValues_subset resolution dependencies sourceId member
    obtain ⟨values, there, own⟩ := List.mem_flatten.mp (grouped.mem_iff.mpr supplied)
    obtain ⟨⟨id, _⟩, entry, rfl⟩ := List.mem_map.mp there
    exact ⟨id, _, ((resolution.groupedValues dependencies).mem_entries_iff id _).mp entry, own⟩
  · refine List.Perm.trans ?_ grouped.symm
    rw [mergedValues_eq, flatMap_contributions]
    refine List.Perm.append_left _ (List.Perm.flatMap_left _ fun dependency declared => ?_)
    obtain ⟨lists, once⟩ := listed dependency declared
    exact perm_connectorValues sourceId lists once

/-- What is known of an employee: a role, and from the staff register a badge and two phones. -/
def employee : Resolution where
  definitions := KeyMap.ofList [("role", ⟨"role", some { id := "role", values := [.text "porter"] },
    true⟩)]
  connectors := KeyMap.ofList [("staff", ⟨"staff", "staff", some (KeyMap.ofList [
    ("phone", { id := "phone", values := [.text "114", .text "115"] }),
    ("badge", { id := "badge", values := [.bytes [7]] })])⟩)]

/-- Dependencies in which the role and the badge are declared twice. -/
def contactDependencies : Dependencies where
  attributes := ["role", "role"]
  connectors := [⟨"staff", ["phone", "badge"]⟩, ⟨"staff", ["badge"]⟩]

/-- What is declared twice counts twice in the one list and by attribute. -/
theorem merged_values_regrouped_employee :
    (∀ dependency ∈ contactDependencies.connectors,
        dependency.attributeIds ≠ [] ∧ dependency.attributeIds.Nodup) ∧
      employee.mergedValues contactDependencies "contact" = [.text "porter", .text "porter",
        .text "114", .text "115", .bytes [7], .bytes [7]] ∧
      (employee.groupedValues contactDependencies).entries =
        [("badge", [.bytes [7], .bytes [7]]), ("phone", [.text "114", .text "115"]),
          ("role", [.text "porter", .text "porter"])] ∧
      (employee.mergedValues contactDependencies "contact").Perm
        (employee.groupedValues contactDependencies).values.flatten := by
  have listed : ∀ dependency ∈ contactDependencies.connectors,
      dependency.attributeIds ≠ [] ∧ dependency.attributeIds.Nodup := by
    decide
  obtain ⟨-, regrouped, -⟩ := merged_values_regrouped employee contactDependencies "contact"
  exact ⟨listed, rfl, rfl, regrouped listed⟩

end AttributeRelease.Resolver.Resolution
