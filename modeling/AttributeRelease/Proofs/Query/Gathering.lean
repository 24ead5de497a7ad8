import AttributeRelease.Resolver.Query.Connector
import Mathlib.Data.List.Perm.Basic

/-!
# Values by the ids of attributes

The entries of a directory and the rows of a table become attributes by one rule: each name stands
for an id, and all that stands under one id is joined in its order. Several names may stand for the
same id, within one entry and in different ones. Every value is found again, under the id of its
name and as often as before (`values_gathered_by_id`).
-/

namespace AttributeRelease.Resolver.Query

variable {items done rest : List (String × List Value)} {attributes : AttributeMap}

/-- All values that stand under an id, one list after another. -/
def valuesUnder (id : String) (items : List (String × List Value)) : List Value :=
  (items.filter fun item => item.1 = id).flatMap Prod.snd

/-- The map has an attribute for each id of a list, with all that stands under that id, and no
others. -/
def HoldsAll (attributes : AttributeMap) (items : List (String × List Value)) : Prop :=
  ∀ id, attributes.get? id =
    if id ∈ items.map Prod.fst then some { id, values := valuesUnder id items } else none

theorem holdsAll_empty : HoldsAll ∅ [] := fun _ => rfl

theorem valuesUnder_append_self (id : String) (items : List (String × List Value))
    (values : List Value) :
    valuesUnder id (items ++ [(id, values)]) = valuesUnder id items ++ values := by
  simp [valuesUnder, List.filter_append]

theorem valuesUnder_append_of_ne {id other : String} (distinct : other ≠ id)
    (items : List (String × List Value)) (values : List Value) :
    valuesUnder id (items ++ [(other, values)]) = valuesUnder id items := by
  simp [valuesUnder, List.filter_append, distinct]

theorem valuesUnder_eq_nil {id : String} (absent : id ∉ items.map Prod.fst) :
    valuesUnder id items = [] := by
  have none : items.filter (fun item => item.1 = id) = [] := by
    refine List.filter_eq_nil_iff.mpr fun item listed => ?_
    simpa using fun same : item.1 = id => absent (same ▸ List.mem_map_of_mem listed)
  rw [valuesUnder, none, List.flatMap_nil]

/-! ## One list of values -/

/-- Whether or not an id has been seen before, the new values are added behind the old ones. -/
theorem HoldsAll.gather_cons (holds : HoldsAll attributes done) {id : String}
    (named : Text.isBlank id = false) (values : List Value) :
    gather attributes ((id, values) :: rest) =
      gather (attributes.insert id { id, values := valuesUnder id done ++ values }) rest := by
  have found := holds id
  rw [gather]
  by_cases seen : id ∈ done.map Prod.fst
  · rw [if_pos seen] at found
    simp only [found]
  · rw [if_neg seen] at found
    simp only [found, Attribute.withValues?_eq_ok_iff.mpr ⟨named, rfl⟩, valuesUnder_eq_nil seen]
    rfl

/-- Adding one list of values to a map keeps it complete and free of anything else. -/
theorem HoldsAll.insert (holds : HoldsAll attributes done) (id : String) (values : List Value) :
    HoldsAll (attributes.insert id { id, values := valuesUnder id done ++ values })
      (done ++ [(id, values)]) := by
  intro other
  rw [KeyMap.get?_insert]
  by_cases same : id = other
  · subst same
    simp [valuesUnder_append_self]
  · rw [if_neg same, holds other, valuesUnder_append_of_ne same]
    have listed : other ∈ (done ++ [(id, values)]).map Prod.fst ↔ other ∈ done.map Prod.fst := by
      simp [Ne.symm same]
    simp only [listed]

/-! ## All lists -/

/-- Values under ids that are not blank are all taken up. -/
theorem HoldsAll.exists_gather (holds : HoldsAll attributes done)
    (named : ∀ item ∈ items, Text.isBlank item.1 = false) :
    ∃ result, gather attributes items = .ok result ∧ HoldsAll result (done ++ items) := by
  induction items generalizing attributes done with
  | nil => exact ⟨attributes, rfl, (List.append_nil done).symm ▸ holds⟩
  | cons item rest ih =>
    obtain ⟨own, others⟩ := List.forall_mem_cons.mp named
    obtain ⟨result, gathered, all⟩ := ih (holds.insert item.1 item.2) others
    rw [List.append_assoc] at all
    exact ⟨result, (holds.gather_cons own item.2).trans gathered, all⟩

/-- The first blank id stops everything. It cannot have been seen before, so it is looked at. -/
theorem HoldsAll.gather_of_blank (holds : HoldsAll attributes done)
    (known : ∀ item ∈ done, Text.isBlank item.1 = false)
    (named : ∀ item ∈ items, Text.isBlank item.1 = false) {id : String}
    (blank : Text.isBlank id = true) (values : List Value) :
    gather attributes (items ++ (id, values) :: rest) = .error (.blankId id) := by
  induction items generalizing attributes done with
  | nil =>
    have unseen : id ∉ done.map Prod.fst := by
      intro seen
      obtain ⟨item, listed, rfl⟩ := List.mem_map.mp seen
      rw [known item listed] at blank
      cases blank
    have absent := holds id
    rw [if_neg unseen] at absent
    rw [List.nil_append, gather, absent]
    simp only [Attribute.withValues?, Attribute.new?, blank]
    rfl
  | cons item before ih =>
    obtain ⟨own, others⟩ := List.forall_mem_cons.mp named
    rw [List.cons_append, holds.gather_cons own item.2]
    refine ih (holds.insert item.1 item.2) (fun other listed => ?_) others
    rcases List.mem_append.mp listed with earlier | last
    · exact known other earlier
    · rw [List.mem_singleton.mp last]
      exact own

/-! ## What is in the map -/

theorem HoldsAll.mem_keys_iff (holds : HoldsAll attributes items) (id : String) :
    id ∈ attributes.keys ↔ id ∈ items.map Prod.fst := by
  rw [KeyMap.mem_keys_iff, KeyMap.contains, holds id]
  by_cases listed : id ∈ items.map Prod.fst <;> simp only [listed, if_true, if_false] <;> simp

/-- What is found under a key has that key as its id and all values that stand under it. -/
theorem HoldsAll.eq_of_get? (holds : HoldsAll attributes items) {key : String} {attr : Attribute}
    (found : attributes.get? key = some attr) :
    attr = { id := key, values := valuesUnder key items } := by
  rw [holds key] at found
  split at found
  · exact (Option.some.inj found).symm
  · cases found

/-- Lists sorted by the ids that they stand under, each id taken once, are the lists as they were
up to their order. -/
theorem perm_flatMap_valuesUnder {ids : List String} (once : ids.Nodup)
    (covered : ∀ item ∈ items, item.1 ∈ ids) :
    (ids.flatMap fun id => valuesUnder id items).Perm (items.flatMap Prod.snd) := by
  induction ids generalizing items with
  | nil =>
    have none : items = [] := List.eq_nil_iff_forall_not_mem.mpr fun item listed =>
      absurd (covered item listed) List.not_mem_nil
    rw [none]
    exact .refl _
  | cons id ids ih =>
    obtain ⟨fresh, once⟩ := List.nodup_cons.mp once
    let others := items.filter fun item => ¬ item.1 = id
    have others_covered : ∀ item ∈ others, item.1 ∈ ids := by
      intro item listed
      obtain ⟨listed, other⟩ := List.mem_filter.mp listed
      exact (List.mem_cons.mp (covered item listed)).resolve_left (of_decide_eq_true other)
    have unchanged : ∀ other ∈ ids, valuesUnder other items = valuesUnder other others := by
      intro other listed
      have distinct : other ≠ id := fun same => fresh (same ▸ listed)
      rw [valuesUnder, valuesUnder, List.filter_filter]
      refine congrArg (List.flatMap Prod.snd) (List.filter_congr fun item _ => ?_)
      by_cases same : item.1 = other
      · simp [same, distinct]
      · simp [same]
    rw [List.flatMap_cons, List.flatMap_congr unchanged]
    have parts : ((items.filter fun item => item.1 = id) ++ others).Perm items := by
      simpa [others] using List.filter_append_perm (fun item => decide (item.1 = id)) items
    refine ((ih once others_covered).append_left _).trans ?_
    rw [valuesUnder, ← List.flatMap_append]
    exact parts.flatMap_right _

/-- The attributes together have all values as often as they stand in the lists. -/
theorem HoldsAll.perm_values (holds : HoldsAll attributes items) :
    (attributes.values.flatMap Attribute.values).Perm (items.flatMap Prod.snd) := by
  have values : attributes.values.flatMap Attribute.values =
      attributes.keys.flatMap fun id => valuesUnder id items := by
    rw [KeyMap.values, KeyMap.keys, List.flatMap_map, List.flatMap_map]
    refine List.flatMap_congr fun entry listed => ?_
    have found := (attributes.mem_entries_iff entry.1 entry.2).mp listed
    rw [holds.eq_of_get? found]
  rw [values]
  exact perm_flatMap_valuesUnder attributes.keys_nodup fun item listed =>
    (holds.mem_keys_iff item.1).mpr (List.mem_map_of_mem listed)

/-! ## Entries and rows -/

/-- What values under ids lead to. -/
structure Gathers (items : List (String × List Value))
    (outcome : Except AttributeError AttributeMap) : Prop where
  /-- There are attributes just when no id is blank. -/
  succeeds_iff : (∃ attributes, outcome = .ok attributes) ↔
    ∀ item ∈ items, Text.isBlank item.1 = false
  /-- Otherwise the first blank id is complained about. -/
  complains : ∀ before id values after, items = before ++ (id, values) :: after →
    (∀ item ∈ before, Text.isBlank item.1 = false) → Text.isBlank id = true →
      outcome = .error (.blankId id)
  /-- The keys are the ids. -/
  mem_keys_iff : ∀ attributes, outcome = .ok attributes →
    ∀ id, id ∈ attributes.keys ↔ id ∈ items.map Prod.fst
  /-- Under a key is the attribute with that id, which has all that stands under the id in order. -/
  attribute_eq : ∀ attributes, outcome = .ok attributes → ∀ key attr,
    attributes.get? key = some attr → attr = { id := key, values := valuesUnder key items }
  /-- No value is lost or repeated. -/
  perm_values : ∀ attributes, outcome = .ok attributes →
    (attributes.values.flatMap Attribute.values).Perm (items.flatMap Prod.snd)

/-- Gathering fails at the first blank id and otherwise yields the complete map. -/
theorem gathers_gather (items : List (String × List Value)) : Gathers items (gather ∅ items) := by
  have complains (before : List (String × List Value)) (id : String) (values : List Value)
      (after : List (String × List Value)) (parts : items = before ++ (id, values) :: after)
      (named : ∀ item ∈ before, Text.isBlank item.1 = false) (blank : Text.isBlank id = true) :
      gather ∅ items = .error (.blankId id) := by
    rw [parts]
    exact holdsAll_empty.gather_of_blank (List.forall_mem_nil _) named blank values
  have succeeds_iff : (∃ attributes, gather ∅ items = .ok attributes) ↔
      ∀ item ∈ items, Text.isBlank item.1 = false := by
    refine ⟨fun ⟨attributes, gathered⟩ => ?_, fun named => ?_⟩
    · intro item listed
      cases first : items.find? fun item => Text.isBlank item.1 with
      | none => simpa using List.find?_eq_none.mp first item listed
      | some named =>
        obtain ⟨blank, before, after, parts, others⟩ := List.find?_eq_some_iff_append.mp first
        have stopped := complains before named.1 named.2 after parts (by simpa using others) blank
        cases gathered.symm.trans stopped
    · obtain ⟨attributes, gathered, -⟩ := holdsAll_empty.exists_gather named
      exact ⟨attributes, gathered⟩
  have holds (attributes : AttributeMap) (gathered : gather ∅ items = .ok attributes) :
      HoldsAll attributes items := by
    obtain ⟨own, same, holds⟩ := holdsAll_empty.exists_gather (succeeds_iff.mp ⟨_, gathered⟩)
    cases gathered.symm.trans same
    exact holds
  exact {
    succeeds_iff
    complains
    mem_keys_iff := fun attributes gathered => (holds attributes gathered).mem_keys_iff
    attribute_eq := fun attributes gathered _ _ => (holds attributes gathered).eq_of_get?
    perm_values := fun attributes gathered => (holds attributes gathered).perm_values }

/-- The id for a column: the last name given for the column in any letters, or else the column in
lower case. -/
def columnId (renames : List (String × String)) (column : String) : String :=
  ((renames.reverse.find? fun given => Text.lowercase given.1 = Text.lowercase column).map
    Prod.snd).getD (Text.lowercase column)

/-- A column is looked up without regard to case, and keeps its name in lower case if it has no
other. -/
theorem columnRenames_getD (renames : List (String × String)) (column : String) :
    ((columnRenames renames).get? (Text.lowercase column)).getD (Text.lowercase column) =
      columnId renames column := by
  rw [columnRenames, KeyMap.get?_ofList, columnId, ← List.map_reverse, List.findSome?_map]
  congr 1
  induction renames.reverse with
  | nil => rfl
  | cons given rest ih =>
    by_cases same : Text.lowercase given.1 = Text.lowercase column
    · simp [same]
    · simp [same, ← ih, Function.comp_def]

/-- Values are gathered by the ids that their names stand for.

A name in an entry of a directory stands for the id that it is renamed to, a column of a table for
the id that is given for it in any letters, and else each stands for itself, the column in lower
case. There are attributes unless one of these ids is blank, and then under each id the attribute
with all that stands under it: in the order of the entries or rows, in each of these in the order of
the names, and the values of a name as they are listed. A text of length zero is a value that is
missing, as is what a column does not have. -/
theorem values_gathered_by_id (renames : KeyMap String) (entries : List Entry)
    (columns : List (String × String)) (rows : List Row) :
    Gathers
        (entries.flatMap fun entry => entry.entries.map fun (name, texts) =>
          ((renames.get? name).getD name, texts.map Value.ofText))
        (entryAttributes renames entries) ∧
      Gathers
        (rows.flatMap fun row => row.entries.map fun (column, cell) =>
          (columnId columns column, [columnValue cell]))
        (rowAttributes (columnRenames columns) rows) ∧
      columnValue none = .empty .null ∧
      (∀ text, columnValue (some text) = .ofText text) ∧
      ∀ text, Value.ofText text = if text = "" then .empty .zeroLength else .text text := by
  have values : rowValues (columnRenames columns) = fun row =>
      row.entries.map fun (column, cell) => (columnId columns column, [columnValue cell]) := by
    funext row
    simp only [rowValues, columnRenames_getD]
  refine ⟨gathers_gather _, ?_, rfl, fun _ => rfl, fun _ => rfl⟩
  rw [rowAttributes, values]
  exact gathers_gather _

/-- An address under two names, one of which is renamed to the other, in two entries. -/
example : entryAttributes (.ofList [("mail", "email")])
    [.ofList [("mail", ["b", ""]), ("email", ["a"])], .ofList [("email", ["c", "a"])]] =
      .ok (.ofList [("email", { id := "email", values :=
        [.text "a", .text "b", .empty .zeroLength, .text "c", .text "a"] })]) := by
  rfl

end AttributeRelease.Resolver.Query
