import AttributeRelease.Json.Reader
import AttributeRelease.Proofs.Documents.Text

/-!
# Records read back

What a record is written as is read back field by field: each field stands in the document at most
once, under its own name (`record?_object`), and one that was left out reads as its default. A pair
of a writer and a reader that undoes it is a codec (`IsCodec`); codecs of parts make codecs of lists
and maps.
-/

namespace AttributeRelease.Json

/-! ## Fields -/

/-- In an object without repeated names a field is what is found under its name. -/
theorem field?_of_nodup {fields : List (String × Json)} (nodup : (fields.map Prod.fst).Nodup)
    (name : String) : field? fields name = some (fields.lookup name) := by
  induction fields with
  | nil => rfl
  | cons field rest ih =>
    obtain ⟨fresh, nodup⟩ := List.nodup_cons.mp nodup
    by_cases same : field.1 = name
    · have none : rest.filter (fun field => field.1 == name) = [] := by
        refine List.filter_eq_nil_iff.mpr fun other member equal => fresh ?_
        exact List.mem_map.mpr ⟨other, member, (beq_iff_eq.mp equal).trans same.symm⟩
      have found : (field :: rest).lookup name = some field.2 := by
        rw [← same, List.lookup_cons_self]
      rw [field?, List.filter_cons_of_pos (by simp [same]), none, found]
    · have passed : (field :: rest).lookup name = rest.lookup name := by
        rw [List.lookup_cons, beq_eq_false_iff_ne.mpr (Ne.symm same)]
      rw [field?, List.filter_cons_of_neg (by simp [same]), passed]
      exact ih nodup

/-- A record without repeated names has the fields that are found under their names. -/
theorem record?_object {fields : List (String × Json)} (nodup : (fields.map Prod.fst).Nodup)
    (names : List String) :
    record? names (.object fields) = some (names.map fun name => fields.lookup name) := by
  have each : field? fields = fun name => some (fields.lookup name) :=
    funext (field?_of_nodup nodup)
  rw [record?, each]
  exact List.mapM_pure

/-- A field hides those of the same name behind it. -/
@[simp] theorem lookup_field (key : String) (value : Json) (rest : List (String × Json))
    (name : String) :
    ((key, value) :: rest).lookup name = if name = key then some value else rest.lookup name := by
  by_cases same : name = key
  · simp [same]
  · simp [List.lookup_cons, beq_eq_false_iff_ne.mpr same, same]

/-- A field that may be left out hides none of the others. -/
@[simp] theorem lookup_fieldUnless_append (omitted : Bool) (key : String) (value : Json)
    (rest : List (String × Json)) (name : String) :
    (fieldUnless omitted key value ++ rest).lookup name =
      if name = key ∧ omitted = false then some value else rest.lookup name := by
  cases omitted <;> simp [fieldUnless]

@[simp] theorem lookup_fieldUnless (omitted : Bool) (key : String) (value : Json)
    (name : String) :
    (fieldUnless omitted key value).lookup name =
      if name = key ∧ omitted = false then some value else none := by
  cases omitted <;> simp [fieldUnless]

/-- The name of a field that may be left out is among those of all fields at most once. -/
theorem keys_fieldUnless (omitted : Bool) (key : String) (value : Json) :
    ((fieldUnless omitted key value).map Prod.fst).Sublist [key] := by
  cases omitted <;> simp [fieldUnless]

/-- What is asked of all fields is asked of one that may be left out only if it is there. -/
@[simp] theorem forall_mem_fieldUnless {holds : String × Json → Prop} (omitted : Bool)
    (key : String) (value : Json) :
    (∀ field ∈ fieldUnless omitted key value, holds field) ↔
      (omitted = false → holds (key, value)) := by
  cases omitted <;> simp [fieldUnless]

/-- A variant that is written with its tag in front of its own fields is told by the tag. -/
theorem tagged?_object {stage : Stage} {names : List String} {tag : String}
    (known : tag ∈ names) {rest : List (String × Json)} (apart : "type" ∉ rest.map Prod.fst) :
    tagged? stage names (.object (("type", .string tag) :: rest)) = some (tag, .object rest) := by
  have others (field : String × Json) (member : field ∈ rest) : field.1 ≠ "type" :=
    fun same => apart (List.mem_map.mpr ⟨field, member, same⟩)
  have none : rest.filter (fun field => field.1 == "type") = [] :=
    List.filter_eq_nil_iff.mpr fun field member => by simp [others field member]
  have all : rest.filter (fun field => field.1 != "type") = rest :=
    List.filter_eq_self.mpr fun field member => by simp [others field member]
  simp [tagged?, field?, none, all, tag?, known]

/-! ## Codecs -/

/-- A reader that undoes a writer of documents, each of which has a text. -/
structure IsCodec {α : Type} (write : α → Json) (read : Json → Option α) : Prop where
  hasText : ∀ value, (write value).HasText
  reads : ∀ value, read (write value) = some value

@[simp] theorem hasText_string (text : String) : HasText (.string text) := .string text

@[simp] theorem hasText_bool (value : Bool) : HasText (.bool value) := .bool value

@[simp] theorem hasText_array_iff {items : List Json} :
    HasText (.array items) ↔ ∀ item ∈ items, item.HasText := by
  constructor
  · rintro (_ | _ | _ | _ | each)
    exact each
  · exact .array

@[simp] theorem hasText_object_iff {fields : List (String × Json)} :
    HasText (.object fields) ↔ ∀ field ∈ fields, field.2.HasText := by
  constructor
  · rintro (_ | _ | _ | _ | _ | each)
    exact each
  · exact .object

theorem isCodec_string : IsCodec .string text? := ⟨.string, fun _ => rfl⟩

/-- A natural number within 64 bits has a text. -/
theorem hasText_nat {n : Nat} (small : n < Number.wordBound) : (nat n).HasText :=
  .number (by simp [Number.text?, small])

/-- Words are read back from their decimal digits. -/
theorem isCodec_word : IsCodec (fun word : UInt64 => nat word.toNat) word? where
  hasText word := hasText_nat word.toNat_lt
  reads word := by
    have small : word.toNat < Number.wordBound := word.toNat_lt
    simp [word?, natBelow?, nat, Number.toNat?, Option.filter, small]

variable {α : Type} {write : α → Json} {read : Json → Option α}

/-- A list is read back when its members are. -/
theorem list?_of_each {items : List α} (each : ∀ item ∈ items, read (write item) = some item) :
    list? read (.array (items.map write)) = some items := by
  rw [list?]
  induction items with
  | nil => rfl
  | cons item rest ih =>
    obtain ⟨first, others⟩ := List.forall_mem_cons.mp each
    simp [List.mapM_cons, first, ih others]

/-- A list is nested one level deeper than its items. -/
theorem depth_ofList_le (items : List α) {bound : Nat}
    (each : ∀ item, (write item).depth ≤ bound) : (ofList write items).depth ≤ bound + 1 :=
  depth_array_le_iff.mpr ⟨bound, rfl, List.forall_mem_map.mpr fun item _ => each item⟩

/-- A list of which some members are refused is refused. -/
theorem list?_ofList_ite {accepts : α → Prop} [DecidablePred accepts]
    (each : ∀ item, read (write item) = if accepts item then some item else none)
    (items : List α) :
    list? read (ofList write items) =
      if ∀ item ∈ items, accepts item then some items else none := by
  rw [ofList, list?]
  induction items with
  | nil => rfl
  | cons item rest ih =>
    by_cases first : accepts item
    · by_cases others : ∀ item ∈ rest, accepts item
      · rw [if_pos others] at ih
        rw [if_pos (List.forall_mem_cons.mpr ⟨first, others⟩)]
        simp [List.mapM_cons, each, ih, first]
      · rw [if_neg others] at ih
        rw [if_neg fun all => others (List.forall_mem_cons.mp all).2]
        simp [List.mapM_cons, each, ih, first]
    · simp [List.mapM_cons, each, first]

/-- Where a document is read as a whole first, it is read back exactly when it is not nested too
deep. -/
theorem guard_isReadable_bind {document : Json} (has : document.HasText) {budget : Nat} {value : α}
    (reads : document.depth ≤ budget → read document = some value) :
    (do guard (document.isReadable budget = true); read document) =
      if document.depth ≤ budget then some value else none := by
  cases readable : document.isReadable budget with
  | true =>
    have within := has.isReadable_iff.mp readable
    rw [if_pos within]
    exact reads within
  | false =>
    have beyond : ¬ document.depth ≤ budget := fun within =>
      Bool.false_ne_true (readable.symm.trans (has.isReadable_iff.mpr within))
    rw [if_neg beyond]
    rfl

/-- The members of a list in an object are read back with less of a budget. -/
theorem exists_list?_of_depth_le {write : α → Json} (read : Nat → Json → Option α)
    {first : String × Json} {name : String} {items : List α} {bound : Nat}
    (within : (Json.object [first, (name, .array (items.map write))]).depth ≤ bound)
    (each : ∀ item ∈ items, ∀ {budget}, (write item).depth ≤ budget →
      read budget (write item) = some item) :
    ∃ inner, bound = inner + 1 ∧ list? (read inner) (.array (items.map write)) = some items := by
  obtain ⟨inner, rfl, depths⟩ := exists_of_depth_members_le within
  exact ⟨inner, rfl, list?_of_each fun item member =>
    each item member (depths _ (List.mem_map_of_mem member))⟩

/-- What a codec writes is read back from its text. -/
theorem IsCodec.parse?_print (codec : IsCodec write read) (value : α) :
    (parse? (write value).print).bind read = some value := by
  rw [(codec.hasText value).parse?_print, Option.bind_some, codec.reads]

theorem IsCodec.list (codec : IsCodec write read) : IsCodec (ofList write) (list? read) where
  hasText items := by simp [ofList, codec.hasText]
  reads items := list?_of_each fun item _ => codec.reads item

/-- Maps are read back if their values are, in the order of their keys. -/
theorem IsCodec.map (codec : IsCodec write read) : IsCodec (ofMap write) (map? read) := by
  constructor
  · intro map
    rw [ofMap, hasText_object_iff]
    exact List.forall_mem_map.mpr fun entry _ => codec.hasText entry.2
  · intro map
    have entries : ((map.entries.map fun entry => (entry.1, write entry.2)).mapM
        fun field => (read field.2).map (field.1, ·)) = some map.entries := by
      induction map.entries with
      | nil => rfl
      | cons entry rest ih => simp [List.mapM_cons, codec.reads, ih]
    simp [ofMap, map?, entries]

theorem isCodec_texts : IsCodec ofTexts texts? := isCodec_string.map

/-! ## Readers of fields -/

@[simp] theorem required_some (document : Json) : required read (some document) = read document :=
  rfl

@[simp] theorem orDefault_some (default : α) (document : Json) :
    orDefault default read (some document) = read document := rfl

@[simp] theorem text?_string (text : String) : text? (.string text) = some text := rfl

@[simp] theorem bool?_bool (value : Bool) : bool? (.bool value) = some value := rfl

@[simp] theorem hasText_ofOption (text : Option String) : (ofOption .string text).HasText := by
  cases text with
  | none => exact .null
  | some text => exact .string text

@[simp] theorem depth_ofOption (text : Option String) : (ofOption .string text).depth = 0 := by
  cases text <;> rfl

@[simp] theorem nullable_ofOption (text : Option String) :
    nullable text? (some (ofOption .string text)) = some text := by
  cases text <;> rfl

/-- A text that is left out if there is none is read back. -/
@[simp] theorem nullable_unless (text : Option String) :
    nullable text? (if text.isSome = true then some (ofOption .string text) else none) =
      some text := by
  cases text <;> rfl

/-- A field that is left out for its default is read back. -/
theorem IsCodec.orDefault_unless (codec : IsCodec write read) {default value : α} {omitted : Bool}
    (same : omitted = true → value = default) :
    orDefault default read (if omitted = false then some (write value) else none) =
      some value := by
  cases omitted with
  | false => exact codec.reads value
  | true => exact congrArg some (same rfl).symm

/-- A map that is left out if it is empty is read back. -/
theorem IsCodec.orEmpty (codec : IsCodec write read) (map : KeyMap α) :
    orDefault ∅ (map? read) (if map.isEmpty = false then some (ofMap write map) else none) =
      some map := by
  refine codec.map.orDefault_unless fun empty => ?_
  obtain ⟨entries, sorted⟩ := map
  cases List.isEmpty_iff.mp empty
  rfl

/-- A list that is left out if it is empty is read back. -/
theorem IsCodec.orNil (codec : IsCodec write read) (items : List α) :
    orDefault [] (list? read) (if items = [] then none else some (ofList write items)) =
      some items := by
  cases items with
  | nil => rfl
  | cons item rest => exact codec.list.reads (item :: rest)

/-- Texts that are left out if there are none are read back. -/
@[simp] theorem orTexts_unless (map : KeyMap String) :
    orDefault ∅ texts? (if map.isEmpty = false then some (ofTexts map) else none) = some map :=
  isCodec_string.orEmpty map

end AttributeRelease.Json
