import AttributeRelease.Transcoding.Naming
import Mathlib.Data.List.Basic

/-!
# Effective types

A tag that an entry has is its own effective type; any other has that of the first entry that serves
it (`Naming.IsEffective`). An effective type is registered, so it is its own, and what is registered
later stands behind what there is: a tag that has an effective type keeps it unless it gets an entry
of its own, and as long as the effective type stays, the same entry names attributes
(`effective_types_stand`).
-/

namespace AttributeRelease.Transcoding

variable {holds : NamingEntry → Prop} {entries : List NamingEntry} {entry : NamingEntry}

/-- The entry is the first one with a property. -/
def IsFirst (holds : NamingEntry → Prop) (entries : List NamingEntry) (entry : NamingEntry) : Prop :=
  holds entry ∧ ∃ before after, entries = before ++ entry :: after ∧
    ∀ earlier ∈ before, ¬ holds earlier

theorem find?_eq_some_iff_isFirst [DecidablePred holds] :
    entries.find? (fun entry => holds entry) = some entry ↔ IsFirst holds entries entry := by
  simp [List.find?_eq_some_iff_append, IsFirst]

/-- The first entry stays the first, whatever stands behind. -/
theorem IsFirst.append (first : IsFirst holds entries entry) (further : List NamingEntry) :
    IsFirst holds (entries ++ further) entry := by
  obtain ⟨own, before, after, rfl, others⟩ := first
  refine ⟨own, before, after ++ further, ?_, others⟩
  rw [List.append_assoc, List.cons_append]

namespace Naming

variable {naming : Naming} {tag type : TypeTag}

/-- A naming with more entries, registered one after the other. -/
def registerAll (naming : Naming) (entries : List NamingEntry) : Naming :=
  entries.foldl register naming

/-- Entries are kept in the order in which they are registered. -/
theorem entries_registerAll (naming : Naming) (entries : List NamingEntry) :
    (naming.registerAll entries).entries = naming.entries ++ entries := by
  induction entries generalizing naming with
  | nil => exact (List.append_nil _).symm
  | cons entry rest ih =>
    rw [registerAll, List.foldl_cons, ← registerAll, ih, register, List.append_assoc,
      List.singleton_append]

theorem mem_tags_registerAll_iff :
    tag ∈ (naming.registerAll entries).tags ↔
      tag ∈ naming.tags ∨ tag ∈ entries.map NamingEntry.tag := by
  rw [tags, entries_registerAll, List.map_append, List.mem_append, tags]

/-- The type under which attributes with a tag are known. -/
inductive IsEffective (naming : Naming) (tag : TypeTag) : TypeTag → Prop
  | own (registered : tag ∈ naming.tags) : IsEffective naming tag tag
  | served {entry : NamingEntry} (unregistered : tag ∉ naming.tags)
      (first : IsFirst (fun entry => tag ∈ entry.compatible) naming.entries entry) :
      IsEffective naming tag entry.tag

/-- The entry names attributes of a type: it is the first one for that type. -/
def NamesType (naming : Naming) (type : TypeTag) (entry : NamingEntry) : Prop :=
  IsFirst (fun entry => entry.tag = type) naming.entries entry

/-! ## Look-ups -/

theorem effectiveType?_of_mem (registered : tag ∈ naming.tags) :
    naming.effectiveType? tag = some tag :=
  if_pos registered

/-- A tag that is not registered stands for the first type that is compatible with it. -/
theorem effectiveType?_of_notMem (unregistered : tag ∉ naming.tags) :
    naming.effectiveType? tag =
      (naming.entries.find? fun entry => tag ∈ entry.compatible).map NamingEntry.tag :=
  if_neg unregistered

/-- The code finds the effective type of a tag if there is one. -/
theorem effectiveType?_eq_some_iff :
    naming.effectiveType? tag = some type ↔ naming.IsEffective tag type := by
  by_cases registered : tag ∈ naming.tags
  · rw [effectiveType?_of_mem registered, Option.some_inj]
    constructor
    · rintro rfl
      exact .own registered
    · rintro (_ | ⟨unregistered, _⟩)
      · rfl
      · exact absurd registered unregistered
  · rw [effectiveType?_of_notMem registered, Option.map_eq_some_iff]
    constructor
    · rintro ⟨entry, found, rfl⟩
      exact .served registered (find?_eq_some_iff_isFirst.mp found)
    · rintro (own | ⟨_, first⟩)
      · exact absurd own registered
      · exact ⟨_, find?_eq_some_iff_isFirst.mpr first, rfl⟩

/-- A tag has no effective type exactly if it is neither registered nor compatible with one that
is. -/
theorem effectiveType?_eq_none_iff :
    naming.effectiveType? tag = none ↔
      ∀ entry ∈ naming.entries, entry.tag ≠ tag ∧ tag ∉ entry.compatible := by
  by_cases registered : tag ∈ naming.tags
  · obtain ⟨entry, listed, own⟩ := List.mem_map.mp registered
    rw [effectiveType?_of_mem registered]
    exact iff_of_false (Option.some_ne_none tag) fun none => (none entry listed).1 own
  · have others : ∀ entry ∈ naming.entries, entry.tag ≠ tag := fun entry listed own =>
      registered (List.mem_map.mpr ⟨entry, listed, own⟩)
    rw [effectiveType?_of_notMem registered, Option.map_eq_none_iff, List.find?_eq_none]
    simp only [decide_eq_true_eq]
    exact forall₂_congr fun entry listed => (and_iff_right (others entry listed)).symm

/-- An effective type is registered. -/
theorem IsEffective.mem_tags (effective : naming.IsEffective tag type) : type ∈ naming.tags := by
  cases effective with
  | own registered => exact registered
  | served _ first =>
    obtain ⟨-, before, after, parts, -⟩ := first
    exact List.mem_map_of_mem (parts ▸ List.mem_append_right before List.mem_cons_self)

/-- The canonical name is given by the entry that names the effective type. -/
theorem canonicalName?_eq_some_iff {wire : Wire} {name : String} :
    naming.canonicalName? wire = some (type, name) ↔
      naming.IsEffective wire.tag type ∧
        ∃ entry, naming.NamesType type entry ∧ entry.name? wire = some name := by
  simp only [canonicalName?, Option.bind_eq_bind, Option.bind_eq_some_iff, Option.pure_def,
    Option.some_inj, Prod.mk.injEq, effectiveType?_eq_some_iff, beq_eq_decide,
    find?_eq_some_iff_isFirst, NamesType]
  constructor
  · rintro ⟨_, effective, entry, first, _, named, rfl, rfl⟩
    exact ⟨effective, entry, first, named⟩
  · rintro ⟨effective, entry, first, named⟩
    exact ⟨type, effective, entry, first, name, named, rfl, rfl⟩

/-! ## Later entries -/

/-- What is registered later changes the effective type of a tag only by an entry for the tag. -/
theorem IsEffective.registerAll (effective : naming.IsEffective tag type)
    (further : List NamingEntry) :
    (naming.registerAll further).IsEffective tag
      (if tag ∈ further.map NamingEntry.tag then tag else type) := by
  by_cases new : tag ∈ further.map NamingEntry.tag
  · rw [if_pos new]
    exact .own (mem_tags_registerAll_iff.mpr (.inr new))
  · rw [if_neg new]
    cases effective with
    | own registered => exact .own (mem_tags_registerAll_iff.mpr (.inl registered))
    | served unregistered first =>
      refine .served (fun later => ?_) ?_
      · exact (mem_tags_registerAll_iff.mp later).elim unregistered new
      · rw [entries_registerAll]
        exact first.append further

/-- The entry that names attributes of a registered type goes on naming them. -/
theorem namesType_registerAll_iff (registered : type ∈ naming.tags) (further : List NamingEntry)
    (entry : NamingEntry) :
    (naming.registerAll further).NamesType type entry ↔ naming.NamesType type entry := by
  obtain ⟨own, listed, tagged⟩ := List.mem_map.mp registered
  have found : (naming.entries.find? fun entry => entry.tag = type).isSome := by
    rw [List.find?_isSome]
    exact ⟨own, listed, decide_eq_true tagged⟩
  obtain ⟨first, found⟩ := Option.isSome_iff_exists.mp found
  rw [NamesType, NamesType, ← find?_eq_some_iff_isFirst, ← find?_eq_some_iff_isFirst,
    entries_registerAll, List.find?_append, found, Option.some_or]

/-- Later registrations change no canonical name as long as the effective type stays. -/
theorem canonicalName?_registerAll {wire : Wire} {further : List NamingEntry}
    (kept : (naming.registerAll further).effectiveType? wire.tag =
      naming.effectiveType? wire.tag) :
    (naming.registerAll further).canonicalName? wire = naming.canonicalName? wire := by
  have same (type : TypeTag) : (naming.registerAll further).IsEffective wire.tag type ↔
      naming.IsEffective wire.tag type := by
    rw [← effectiveType?_eq_some_iff, ← effectiveType?_eq_some_iff, kept]
  refine Option.ext fun ⟨type, name⟩ => ?_
  rw [canonicalName?_eq_some_iff, canonicalName?_eq_some_iff, same]
  refine and_congr_right fun effective => exists_congr fun entry => and_congr_left' ?_
  exact namesType_registerAll_iff effective.mem_tags further entry

/-- Let entries be registered in any order and with any tags. A tag that an entry has is its own
effective type, another has that of the first entry that serves it, and there is none just when no
entry has or serves the tag. An effective type is registered and is its own effective type. It names
an attribute as its first entry does.

Let further entries be registered then. Each tag that had an effective type keeps it unless it has
an entry among them, which makes it its own. Attributes whose effective type is what it was are
named as they were. -/
theorem effective_types_stand (entries further : List NamingEntry) :
    let naming := Naming.registerAll {} entries
    let later := naming.registerAll further
    (∀ tag type, naming.effectiveType? tag = some type ↔ naming.IsEffective tag type) ∧
      (∀ tag, naming.effectiveType? tag = none ↔
        ∀ entry ∈ entries, entry.tag ≠ tag ∧ tag ∉ entry.compatible) ∧
      (∀ wire type name, naming.canonicalName? wire = some (type, name) ↔
        naming.IsEffective wire.tag type ∧
          ∃ entry, naming.NamesType type entry ∧ entry.name? wire = some name) ∧
      (∀ tag type, naming.effectiveType? tag = some type →
        type ∈ entries.map NamingEntry.tag ∧ naming.effectiveType? type = some type ∧
          later.effectiveType? tag =
            some (if tag ∈ further.map NamingEntry.tag then tag else type)) ∧
      ∀ wire, later.effectiveType? wire.tag = naming.effectiveType? wire.tag →
        later.canonicalName? wire = naming.canonicalName? wire := by
  intro naming later
  have listed : naming.entries = entries := entries_registerAll {} entries
  refine ⟨fun tag type => effectiveType?_eq_some_iff, fun tag => ?_,
    fun wire type name => canonicalName?_eq_some_iff, fun tag type found => ?_,
    fun wire => canonicalName?_registerAll⟩
  · rw [← listed]
    exact effectiveType?_eq_none_iff
  · have effective := effectiveType?_eq_some_iff.mp found
    have registered := effective.mem_tags
    refine ⟨?_, effectiveType?_of_mem registered, ?_⟩
    · rwa [tags, listed] at registered
    · exact effectiveType?_eq_some_iff.mpr (effective.registerAll further)

/-- An entry that names what a portal and a campus hand over by the name that comes with it. -/
def handedOver (tag : TypeTag) (compatible : List TypeTag) : NamingEntry where
  tag
  compatible
  name?
    | .foreign _ name => name
    | _ => none

/-- Students of the portal could be named by either entry, guests of the campus by the second. -/
def personEntries : List NamingEntry :=
  [handedOver "portal:Person" ["portal:Student"],
    handedOver "campus:Person" ["portal:Student", "campus:Guest"]]

/-- An entry of their own is what guests go by as soon as there is one. Students of the portal are
named by the first entry that serves them, now and later. -/
theorem effective_types_stand_persons :
    let naming := Naming.registerAll {} personEntries
    let later := naming.registerAll [handedOver "campus:Guest" ["portal:Student"]]
    let student := Wire.foreign "portal:Student" (some "ada")
    naming.effectiveType? "campus:Guest" = some "campus:Person" ∧
      later.effectiveType? "campus:Guest" = some "campus:Guest" ∧
      later.effectiveType? student.tag = naming.effectiveType? student.tag ∧
      later.canonicalName? student = some ("portal:Person", "ada") := by
  intro naming later student
  obtain ⟨-, -, -, types, names⟩ :=
    effective_types_stand personEntries [handedOver "campus:Guest" ["portal:Student"]]
  have guest : naming.effectiveType? "campus:Guest" = some "campus:Person" := rfl
  have known : naming.effectiveType? student.tag = some "portal:Person" := rfl
  have kept : later.effectiveType? student.tag = naming.effectiveType? student.tag :=
    (types student.tag "portal:Person" known).2.2.trans known.symm
  exact ⟨guest, (types _ _ guest).2.2, kept, names student kept⟩

end Naming

end AttributeRelease.Transcoding
