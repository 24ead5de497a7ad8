/-!
# Maps and sets of texts in key order

A `KeyMap` is a finite map from texts, held as its entries in strictly increasing key order. Keys
are ordered by code point, which is also the order of their UTF-8 bytes. Since each map has exactly
one list of entries, two maps with the same answers are equal (`KeyMap.ext_get?`). A `KeySet` is a
map to the unit type.
-/

namespace AttributeRelease

/-- A finite map from texts, its entries in increasing key order. -/
structure KeyMap (α : Type) where
  entries : List (String × α)
  sorted : entries.Pairwise (fun first second => first.1 < second.1)

namespace KeyMap

variable {α β : Type}

instance [DecidableEq α] : DecidableEq (KeyMap α) := fun first second =>
  if same : first.entries = second.entries then
    .isTrue (by cases first; cases second; cases same; rfl)
  else .isFalse (fun equal => same (congrArg entries equal))

/-- The map without entries. -/
def empty : KeyMap α := ⟨[], .nil⟩

instance : EmptyCollection (KeyMap α) := ⟨empty⟩

instance : Inhabited (KeyMap α) := ⟨empty⟩

/-- The keys in order. -/
def keys (map : KeyMap α) : List String := map.entries.map Prod.fst

/-- The values in the order of their keys. -/
def values (map : KeyMap α) : List α := map.entries.map Prod.snd

/-- The value of the first entry with a key. -/
def lookupEntry (key : String) : List (String × α) → Option α
  | [] => none
  | entry :: rest => if entry.1 = key then some entry.2 else lookupEntry key rest

/-- The value under a key. -/
def get? (map : KeyMap α) (key : String) : Option α := lookupEntry key map.entries

/-- Whether a key has a value. -/
def contains (map : KeyMap α) (key : String) : Bool := (map.get? key).isSome

/-- Whether the map has no entries. -/
def isEmpty (map : KeyMap α) : Bool := map.entries.isEmpty

/-- Puts an entry in its place, in place of an earlier one with the same key. -/
def insertEntry (key : String) (value : α) : List (String × α) → List (String × α)
  | [] => [(key, value)]
  | entry :: rest =>
    if key < entry.1 then (key, value) :: entry :: rest
    else if entry.1 < key then entry :: insertEntry key value rest
    else (key, value) :: rest

theorem mem_insertEntry {key : String} {value : α} {list : List (String × α)} {entry : String × α}
    (member : entry ∈ insertEntry key value list) : entry = (key, value) ∨ entry ∈ list := by
  induction list with
  | nil => simpa [insertEntry] using member
  | cons head rest ih =>
    simp only [insertEntry] at member
    split at member
    · simpa using member
    · split at member
      · rcases List.mem_cons.1 member with rfl | inside
        · simp
        · rcases ih inside with found | found <;> simp [found]
      · rcases List.mem_cons.1 member with rfl | inside <;> simp [*]

/-- An insertion keeps the entries in order, each key once. -/
theorem insertEntry_sorted {key : String} {value : α} {list : List (String × α)}
    (sorted : list.Pairwise (fun first second => first.1 < second.1)) :
    (insertEntry key value list).Pairwise (fun first second => first.1 < second.1) := by
  induction list with
  | nil => simp [insertEntry]
  | cons head rest ih =>
    obtain ⟨above, tail⟩ := List.pairwise_cons.1 sorted
    simp only [insertEntry]
    split
    · rename_i before
      refine List.pairwise_cons.2 ⟨fun entry member => ?_, sorted⟩
      rcases List.mem_cons.1 member with rfl | inside
      · exact before
      · exact String.lt_trans before (above entry inside)
    · rename_i notBefore
      split
      · rename_i after
        refine List.pairwise_cons.2 ⟨fun entry member => ?_, ih tail⟩
        rcases mem_insertEntry member with rfl | inside
        · exact after
        · exact above entry inside
      · rename_i notAfter
        have same : head.1 = key :=
          String.le_antisymm (String.not_lt.1 notBefore) (String.not_lt.1 notAfter)
        exact List.pairwise_cons.2 ⟨fun entry member => same ▸ above entry member, tail⟩

/-- The map with a value put under a key, in place of an earlier one. -/
def insert (map : KeyMap α) (key : String) (value : α) : KeyMap α :=
  ⟨insertEntry key value map.entries, insertEntry_sorted map.sorted⟩

/-- The map with the value under a key changed, if there is one. -/
def modify (map : KeyMap α) (key : String) (change : α → α) : KeyMap α :=
  match map.get? key with
  | some value => map.insert key (change value)
  | none => map

/-- The map of a list of entries; of several entries for one key the last counts. -/
def ofList (list : List (String × α)) : KeyMap α :=
  list.foldl (fun map entry => map.insert entry.1 entry.2) empty

/-- The map with each value replaced, keys kept. -/
def mapValues (f : String → α → β) (map : KeyMap α) : KeyMap β :=
  ⟨map.entries.map (fun entry => (entry.1, f entry.1 entry.2)),
    List.pairwise_map.2 map.sorted⟩

/-- Replaces the values for which the function has an answer and drops the others, keys kept. -/
def filterMap (f : String → α → Option β) (map : KeyMap α) : KeyMap β :=
  ⟨map.entries.filterMap (fun entry => (f entry.1 entry.2).map (entry.1, ·)), by
    refine List.pairwise_filterMap.2 (map.sorted.imp ?_)
    intro first second less _ fromFirst _ fromSecond
    obtain ⟨_, _, rfl⟩ := Option.map_eq_some_iff.1 fromFirst
    obtain ⟨_, _, rfl⟩ := Option.map_eq_some_iff.1 fromSecond
    exact less⟩

/-! ## Look-up laws -/

@[simp] theorem get?_empty (key : String) : (empty : KeyMap α).get? key = none := rfl

theorem lookupEntry_eq_none_of_lt {key : String} {list : List (String × α)}
    (below : ∀ entry ∈ list, key < entry.1) : lookupEntry key list = none := by
  induction list with
  | nil => rfl
  | cons head rest ih =>
    have distinct : head.1 ≠ key := fun same =>
      String.lt_irrefl key (by simpa [same] using below head (by simp))
    simp [lookupEntry, distinct, ih (fun entry member => below entry (by simp [member]))]

/-- After an insertion the key has the new value and the others have theirs. -/
theorem lookupEntry_insertEntry {key : String} {value : α} {list : List (String × α)}
    (other : String) : lookupEntry other (insertEntry key value list) =
      if key = other then some value else lookupEntry other list := by
  induction list with
  | nil => rfl
  | cons head rest ih =>
    simp only [insertEntry]
    split
    · rfl
    · rename_i notBefore
      split
      · rename_i after
        simp only [lookupEntry, ih]
        by_cases same : key = other
        · subst same
          have distinct : head.1 ≠ key := fun equal => String.lt_irrefl key (equal ▸ after)
          simp [distinct]
        · simp [same]
      · rename_i notAfter
        have equal : head.1 = key :=
          String.le_antisymm (String.not_lt.1 notBefore) (String.not_lt.1 notAfter)
        by_cases same : key = other <;> simp [lookupEntry, equal, same]

/-- After an insertion the key has the new value and all others what they had. -/
theorem get?_insert (map : KeyMap α) (key : String) (value : α) (other : String) :
    (map.insert key value).get? other = if key = other then some value else map.get? other :=
  lookupEntry_insertEntry other

/-- A change under a key leaves the others alone, and makes no new entry. -/
theorem get?_modify (map : KeyMap α) (key : String) (change : α → α) (other : String) :
    (map.modify key change).get? other =
      (map.get? other).map fun value => if key = other then change value else value := by
  rw [modify]
  by_cases same : key = other
  · subst same
    cases found : map.get? key <;> simp [get?_insert, found]
  · cases map.get? key <;> simp [get?_insert, same]

/-- What holds of a new entry and of those before it holds of all entries after an insertion. -/
theorem holds_of_get?_insert {holds : String → α → Prop} {map : KeyMap α} {key : String}
    {value : α} (new : holds key value)
    (old : ∀ other item, map.get? other = some item → holds other item) :
    ∀ other item, (map.insert key value).get? other = some item → holds other item := by
  intro other item found
  rw [get?_insert] at found
  split at found
  · rename_i same
    cases found
    exact same ▸ new
  · exact old other item found

/-- A map's answers are exactly its entries. -/
theorem mem_entries_iff (map : KeyMap α) (key : String) (value : α) :
    (key, value) ∈ map.entries ↔ map.get? key = some value := by
  obtain ⟨list, sorted⟩ := map
  simp only [get?]
  induction list with
  | nil => simp [lookupEntry]
  | cons head rest ih =>
    obtain ⟨above, tail⟩ := List.pairwise_cons.1 sorted
    rw [List.mem_cons, ih tail, lookupEntry]
    by_cases same : head.1 = key
    · have absent : lookupEntry key rest = none :=
        lookupEntry_eq_none_of_lt (same ▸ above)
      obtain ⟨_, _⟩ := head
      subst same
      simp [absent, eq_comm]
    · have distinct : (key, value) ≠ head := fun equal => same (equal ▸ rfl)
      simp [same, distinct]

/-- A map contains the keys under which it has a value. -/
theorem contains_iff (map : KeyMap α) (key : String) :
    map.contains key = true ↔ ∃ value, map.get? key = some value := by
  rw [contains, Option.isSome_iff_exists]

/-- The keys of a map are those it contains. -/
theorem mem_keys_iff (map : KeyMap α) (key : String) : key ∈ map.keys ↔ map.contains key := by
  rw [contains_iff, keys, List.mem_map]
  constructor
  · rintro ⟨⟨_, value⟩, member, rfl⟩
    exact ⟨value, (map.mem_entries_iff _ value).1 member⟩
  · rintro ⟨value, found⟩
    exact ⟨(key, value), (map.mem_entries_iff key value).2 found, rfl⟩

/-- No key stands twice. -/
theorem keys_nodup (map : KeyMap α) : map.keys.Nodup :=
  List.pairwise_map.2 (map.sorted.imp fun less => String.ne_of_lt less)

theorem lookupEntry_map (f : String → α → β) (key : String) (list : List (String × α)) :
    lookupEntry key (list.map fun entry => (entry.1, f entry.1 entry.2)) =
      (lookupEntry key list).map (f key) := by
  induction list with
  | nil => rfl
  | cons head rest ih =>
    simp only [List.map_cons, lookupEntry, ih]
    by_cases same : head.1 = key
    · simp [same]
    · simp [same]

/-- Replacing values keeps the keys and replaces what stands under them. -/
@[simp] theorem get?_mapValues (f : String → α → β) (map : KeyMap α) (key : String) :
    (map.mapValues f).get? key = (map.get? key).map (f key) :=
  lookupEntry_map f key map.entries

/-- A filtered map has under a key what the function makes of the value there. -/
theorem get?_filterMap (f : String → α → Option β) (map : KeyMap α) (key : String) :
    (map.filterMap f).get? key = (map.get? key).bind (f key) := by
  refine Option.ext fun value => ?_
  rw [← mem_entries_iff, Option.bind_eq_some_iff]
  simp only [filterMap, List.mem_filterMap, Option.map_eq_some_iff, Prod.mk.injEq]
  constructor
  · rintro ⟨⟨_, original⟩, member, _, made, rfl, rfl⟩
    exact ⟨original, (map.mem_entries_iff _ original).1 member, made⟩
  · rintro ⟨original, found, made⟩
    exact ⟨(key, original), (map.mem_entries_iff key original).2 found, value, made, rfl, rfl⟩

/-- A map of a list has under a key what stands last there. -/
theorem get?_ofList (list : List (String × α)) (key : String) :
    (ofList list).get? key =
      list.reverse.findSome? fun entry => if entry.1 = key then some entry.2 else none := by
  suffices onward : ∀ (list : List (String × α)) (map : KeyMap α),
      (list.foldl (fun map entry => map.insert entry.1 entry.2) map).get? key =
        (list.reverse.findSome? fun entry => if entry.1 = key then some entry.2 else none).or
          (map.get? key) by
    rw [ofList, onward, get?_empty, Option.or_none]
  intro list
  induction list with
  | nil => exact fun map => rfl
  | cons entry rest ih =>
    intro map
    rw [List.foldl_cons, ih, List.reverse_cons, List.findSome?_append, Option.or_assoc, get?_insert]
    by_cases same : entry.1 = key <;> simp [same]

/-- What stands under a key in a map of a list is that of the last item with the key. -/
theorem get?_ofList_eq_some_iff {list : List (String × α)} {key : String} {value : α} :
    (ofList list).get? key = some value ↔
      ∃ before after, list = before ++ (key, value) :: after ∧ ∀ later ∈ after, later.1 ≠ key := by
  simp only [get?_ofList, List.findSome?_eq_some_iff, Option.ite_none_right_eq_some,
    Option.some_inj, ite_eq_right_iff, reduceCtorEq, imp_false]
  constructor
  · rintro ⟨after, ⟨_, _⟩, before, parts, ⟨rfl, rfl⟩, others⟩
    refine ⟨before.reverse, after.reverse, ?_, fun later listed => ?_⟩
    · simpa using congrArg List.reverse parts
    · exact others later (List.mem_reverse.mp listed)
  · rintro ⟨before, after, rfl, others⟩
    refine ⟨after.reverse, (key, value), before.reverse, by simp, ⟨rfl, rfl⟩, fun later listed => ?_⟩
    exact others later (List.mem_reverse.mp listed)

/-- A map in which every listed key has the same value. -/
theorem get?_ofList_const (keys : List String) (value : α) (key : String) :
    (ofList (keys.map (·, value))).get? key = if key ∈ keys then some value else none := by
  have found (list : List String) :
      (list.findSome? fun other => if other = key then some value else none) =
        if key ∈ list then some value else none := by
    induction list with
    | nil => rfl
    | cons other rest ih =>
      by_cases same : other = key
      · simp [same]
      · simp [same, Ne.symm same, ih]
  rw [get?_ofList, ← List.map_reverse, List.findSome?_map]
  exact (found keys.reverse).trans (by simp only [List.mem_reverse])

/-- Among the entries of a map only the one under a key counts for that key. -/
theorem findSome?_entries_key (map : KeyMap α) (key : String) (find : α → Option β) :
    (map.entries.findSome? fun entry => if entry.1 = key then find entry.2 else none) =
      (map.get? key).bind find := by
  obtain ⟨list, sorted⟩ := map
  simp only [get?]
  induction list with
  | nil => rfl
  | cons head rest ih =>
    obtain ⟨above, tail⟩ := List.pairwise_cons.1 sorted
    rw [List.findSome?_cons, ih tail, lookupEntry]
    by_cases same : head.1 = key
    · have absent : lookupEntry key rest = none := lookupEntry_eq_none_of_lt (same ▸ above)
      cases found : find head.2 <;> simp [same, absent, found]
    · simp [same]

/-- Two maps with the same answers are equal. -/
theorem ext_get? {first second : KeyMap α} (same : ∀ key, first.get? key = second.get? key) :
    first = second := by
  obtain ⟨left, leftSorted⟩ := first
  obtain ⟨right, rightSorted⟩ := second
  suffices left = right by subst this; rfl
  replace same : ∀ key, lookupEntry key left = lookupEntry key right := same
  induction left generalizing right with
  | nil =>
    cases right with
    | nil => rfl
    | cons head rest => simpa [lookupEntry] using same head.1
  | cons head rest ih =>
    cases right with
    | nil => simpa [lookupEntry] using same head.1
    | cons head' rest' =>
      obtain ⟨above, tail⟩ := List.pairwise_cons.1 leftSorted
      obtain ⟨above', tail'⟩ := List.pairwise_cons.1 rightSorted
      have heads : head.1 = head'.1 := by
        refine String.le_antisymm (String.not_lt.1 fun less => ?_) (String.not_lt.1 fun less => ?_)
        · have absent : lookupEntry head'.1 (head :: rest) = none :=
            lookupEntry_eq_none_of_lt fun entry member => by
              rcases List.mem_cons.1 member with rfl | inside
              · exact less
              · exact String.lt_trans less (above entry inside)
          rw [same] at absent
          simp [lookupEntry] at absent
        · have absent : lookupEntry head.1 (head' :: rest') = none :=
            lookupEntry_eq_none_of_lt fun entry member => by
              rcases List.mem_cons.1 member with rfl | inside
              · exact less
              · exact String.lt_trans less (above' entry inside)
          rw [← same] at absent
          simp [lookupEntry] at absent
      have values : head.2 = head'.2 := by
        simpa [lookupEntry, heads] using same head.1
      have tails : rest = rest' := by
        refine ih tail rest' tail' fun key => ?_
        by_cases at_head : head.1 = key
        · subst at_head
          rw [lookupEntry_eq_none_of_lt above, heads, lookupEntry_eq_none_of_lt above']
        · have other : head'.1 ≠ key := heads ▸ at_head
          simpa [lookupEntry, at_head, other] using same key
      exact List.cons_eq_cons.2 ⟨Prod.ext heads values, tails⟩

/-- To replace the values of a list is to replace those of its map. -/
theorem ofList_map (f : String → α → β) (list : List (String × α)) :
    ofList (list.map fun entry => (entry.1, f entry.1 entry.2)) = (ofList list).mapValues f := by
  refine ext_get? fun key => ?_
  rw [get?_mapValues, get?_ofList, get?_ofList, ← List.map_reverse, List.findSome?_map]
  induction list.reverse with
  | nil => rfl
  | cons entry rest ih =>
    by_cases same : entry.1 = key
    · simp [same]
    · simp [same, ← ih, Function.comp_def]

/-- A map is the map of its entries. -/
@[simp] theorem ofList_entries (map : KeyMap α) : ofList map.entries = map := by
  refine ext_get? fun key => ?_
  obtain ⟨list, sorted⟩ := map
  rw [get?_ofList]
  simp only [get?]
  induction list with
  | nil => rfl
  | cons head rest ih =>
    obtain ⟨above, tail⟩ := List.pairwise_cons.1 sorted
    rw [List.reverse_cons, List.findSome?_append, ih tail, lookupEntry]
    by_cases same : head.1 = key
    · simp [same, lookupEntry_eq_none_of_lt (same ▸ above)]
    · simp [same]

end KeyMap

/-- A finite set of texts in order. -/
abbrev KeySet := KeyMap Unit

namespace KeySet

/-- The set of the members of a list. -/
def ofMembers (members : List String) : KeySet := KeyMap.ofList (members.map (·, ()))

/-- The members in order. -/
def members (set : KeySet) : List String := set.keys

end KeySet

end AttributeRelease
