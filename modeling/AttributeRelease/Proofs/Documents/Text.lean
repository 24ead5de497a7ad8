import AttributeRelease.Proofs.Documents.Literals

/-!
# Documents read back from their texts

A document that holds nothing unreadable and no number beyond the range of doubles is read back from
its text (`parse?_print`), however deep it is nested. Readers limit the nesting: they read such a
document as a whole exactly when its depth is within their budget (`HasText.isReadable_iff`).
-/

namespace AttributeRelease.Json

/-- A document which has a text of its own: nothing in it is unreadable, and its numbers are within
the range of doubles. -/
inductive HasText : Json → Prop
  | null : HasText .null
  | bool (value : Bool) : HasText (.bool value)
  | number {value : Number} (inRange : value.text?.isSome = true) : HasText (.number value)
  | string (text : String) : HasText (.string text)
  | array {items : List Json} (each : ∀ item ∈ items, HasText item) : HasText (.array items)
  | object {fields : List (String × Json)} (each : ∀ field ∈ fields, HasText field.2) :
      HasText (.object fields)

/-! ## Nesting -/

mutual

/-- How deep arrays and objects are nested in a document. -/
def depth : Json → Nat
  | .array items => depthEach items + 1
  | .object fields => depthFields fields + 1
  | _ => 0

/-- The depth of the deepest member of an array. -/
def depthEach : List Json → Nat
  | [] => 0
  | item :: rest => max (depth item) (depthEach rest)

/-- The depth of the deepest field of an object. -/
def depthFields : List (String × Json) → Nat
  | [] => 0
  | field :: rest => max (depth field.2) (depthFields rest)

end

theorem depthEach_le_iff {items : List Json} {bound : Nat} :
    depthEach items ≤ bound ↔ ∀ item ∈ items, item.depth ≤ bound := by
  induction items with
  | nil => simp [depthEach]
  | cons item rest ih => rw [depthEach, Nat.max_le, ih, List.forall_mem_cons]

theorem depthFields_le_iff {fields : List (String × Json)} {bound : Nat} :
    depthFields fields ≤ bound ↔ ∀ field ∈ fields, field.2.depth ≤ bound := by
  induction fields with
  | nil => simp [depthFields]
  | cons field rest ih => rw [depthFields, Nat.max_le, ih, List.forall_mem_cons]

@[simp] theorem depth_string (text : String) : (Json.string text).depth = 0 := rfl

@[simp] theorem depth_bool (value : Bool) : (Json.bool value).depth = 0 := rfl

theorem depth_object_pos (fields : List (String × Json)) : 0 < (Json.object fields).depth :=
  Nat.succ_pos _

/-- An object is within a depth when its fields are within one less. -/
theorem depth_object_le_iff {fields : List (String × Json)} {bound : Nat} :
    (Json.object fields).depth ≤ bound ↔
      ∃ inner, bound = inner + 1 ∧ ∀ field ∈ fields, field.2.depth ≤ inner := by
  cases bound with
  | zero => simp [depth]
  | succ inner => simp [depth, depthFields_le_iff]

/-- An array is within a depth when its members are within one less. -/
theorem depth_array_le_iff {items : List Json} {bound : Nat} :
    (Json.array items).depth ≤ bound ↔
      ∃ inner, bound = inner + 1 ∧ ∀ item ∈ items, item.depth ≤ inner := by
  cases bound with
  | zero => simp [depth]
  | succ inner => simp [depth, depthEach_le_iff]

/-- What stands in an array in an object is less deep than the object. -/
theorem exists_of_depth_members_le {first : String × Json} {name : String} {items : List Json}
    {bound : Nat} (within : (Json.object [first, (name, .array items)]).depth ≤ bound) :
    ∃ inner, bound = inner + 1 ∧ ∀ item ∈ items, item.depth ≤ inner := by
  obtain ⟨inner, rfl, fields⟩ := depth_object_le_iff.mp within
  obtain ⟨rest, rfl, each⟩ := depth_array_le_iff.mp (fields (name, .array items) (by simp))
  exact ⟨rest + 1, rfl, fun item member => Nat.le_succ_of_le (each item member)⟩

theorem areReadable_iff {items : List Json} {budget : Nat} :
    areReadable budget items = true ↔ ∀ item ∈ items, item.isReadable budget = true := by
  induction items with
  | nil => simp [areReadable]
  | cons item rest ih => simp [areReadable, ih]

theorem fieldsReadable_iff {fields : List (String × Json)} {budget : Nat} :
    fieldsReadable budget fields = true ↔ ∀ field ∈ fields, field.2.isReadable budget = true := by
  induction fields with
  | nil => simp [fieldsReadable]
  | cons field rest ih => simp [fieldsReadable, ih]

/-- A document with a text is read as a whole exactly when it is not nested too deep. -/
theorem HasText.isReadable_iff {document : Json} (has : document.HasText) {budget : Nat} :
    document.isReadable budget = true ↔ document.depth ≤ budget := by
  induction has generalizing budget with
  | null => simp [isReadable, depth]
  | bool value => simp [isReadable, depth]
  | number inRange => simp [isReadable, depth]
  | string text => simp [isReadable, depth]
  | array each ih =>
    cases budget with
    | zero => simp [isReadable, depth]
    | succ budget =>
      rw [isReadable, areReadable_iff, depth, Nat.add_le_add_iff_right, depthEach_le_iff]
      exact forall₂_congr fun item member => ih item member
  | object each ih =>
    cases budget with
    | zero => simp [isReadable, depth]
    | succ budget =>
      rw [isReadable, fieldsReadable_iff, depth, Nat.add_le_add_iff_right, depthFields_le_iff]
      exact forall₂_congr fun field member => ih field member

/-! ## Reading back -/

theorem skipGap_cons {c : Char} (token : isGap c = false) (input : List Char) :
    skipGap (c :: input) = c :: input := by
  simp [skipGap, token]

theorem endsNumber_cons {c : Char} (ends : c.isDigit = false ∧ c ≠ '.' ∧ c ≠ 'e' ∧ c ≠ 'E')
    (rest : List Char) : EndsNumber (c :: rest) := by
  rintro _ ⟨⟩
  exact ends

/-- A document is read from its text, whatever comes after it, with any fuel that is as much as the
text is long. -/
def ReadsBack (document : Json) : Prop :=
  ∀ fuel rest, EndsNumber rest → (render document).length ≤ fuel →
    value? fuel (render document ++ rest) = some (document, rest)

theorem isGap_of_isDigit {c : Char} (digit : c.isDigit = true) : isGap c = false := by
  have distinct (other : Char) (plain : other.isDigit = false) : (c == other) = false := by
    refine beq_eq_false_iff_ne.mpr ?_
    rintro rfl
    simp [digit] at plain
  simp [isGap, distinct ' ' rfl, distinct '\n' rfl,
    distinct '\t' rfl, distinct '\r' rfl]

/-- The literal of a number begins with a digit or a sign. -/
theorem exists_head_literal (value : Number) : ∃ c rest, value.literal = c :: rest ∧
    (c = '-' ∨ c.isDigit = true) := by
  have head (negative : Bool) (n : Nat) (rest : List Char) : ∃ c more,
      Number.literal.sign negative ++ Nat.toDigits 10 n ++ rest = c :: more ∧
        (c = '-' ∨ c.isDigit = true) := by
    obtain ⟨c, more, digits⟩ :=
      List.exists_cons_of_ne_nil (Nat.toDigits_ne_nil (n := n) (b := 10))
    cases negative with
    | false =>
      exact ⟨c, more ++ rest, by simp [Number.literal.sign, digits],
        .inr (isDigit_of_mem_toDigits (digits ▸ List.mem_cons_self))⟩
    | true => exact ⟨'-', _, rfl, .inl rfl⟩
  cases value with
  | integer negative n => simpa [Number.literal] using head negative n []
  | decimal negative n exponent => exact head negative n _

/-- No text of a document begins with a gap or with a closing bracket. -/
theorem exists_head (document : Json) : ∃ c rest, render document = c :: rest ∧
    isGap c = false ∧ c ≠ ']' := by
  cases document with
  | null => exact ⟨'n', _, rfl, rfl, by decide⟩
  | bool value => cases value with
    | false => exact ⟨'f', _, rfl, rfl, by decide⟩
    | true => exact ⟨'t', _, rfl, rfl, by decide⟩
  | number value =>
    obtain ⟨c, rest, literal, rfl | digit⟩ := exists_head_literal value
    · exact ⟨'-', rest, literal, rfl, by decide⟩
    · exact ⟨c, rest, literal, isGap_of_isDigit digit, by rintro rfl; simp at digit⟩
  | string text => exact ⟨'"', _, rfl, rfl, by decide⟩
  | array items => cases items with
    | nil => exact ⟨'[', _, rfl, rfl, by decide⟩
    | cons item rest => exact ⟨'[', _, rfl, rfl, by decide⟩
  | object fields => cases fields with
    | nil => exact ⟨'\x7b', _, rfl, rfl, by decide⟩
    | cons field rest => exact ⟨'\x7b', _, rfl, rfl, by decide⟩
  | unreadable => exact ⟨'n', _, rfl, rfl, by decide⟩

/-- An input that begins with a digit is a number. -/
theorem value?_digit {c : Char} (digit : c.isDigit = true) (fuel : Nat) (input : List Char) :
    value? (fuel + 1) (c :: input) =
      (unsigned? false (c :: input)).map fun read => (ofNumber read.1, read.2) := by
  have apart (other : Char) (plain : other.isDigit = false) : c ≠ other := by
    rintro rfl
    simp [digit] at plain
  rw [value?, skipGap_cons (isGap_of_isDigit digit)]
  simp [apart 'n' rfl, apart 't' rfl, apart 'f' rfl,
    apart '"' rfl, apart '-' rfl, apart '[' rfl,
    apart '\x7b' rfl]

theorem readsBack_number {value : Number} (inRange : value.text?.isSome = true) :
    ReadsBack (.number value) := by
  intro fuel rest ends enough
  cases fuel with
  | zero =>
    obtain ⟨c, more, literal, -⟩ := exists_head_literal value
    simp [render, literal] at enough
  | succ fuel =>
    -- behind a sign the digits are read as they stand, else the first of them tells a number
    have read (negative : Bool) (input : List Char)
        (digits : ∃ c more, input = c :: more ∧ c.isDigit = true)
        (whole : unsigned? negative input = some (value, rest)) :
        value? (fuel + 1) (Number.literal.sign negative ++ input) = some (.number value, rest) := by
      cases negative with
      | false =>
        obtain ⟨c, more, rfl, digit⟩ := digits
        simp only [Number.literal.sign, Bool.false_eq_true, if_false, List.nil_append]
        simp [value?_digit digit, whole, ofNumber, inRange]
      | true =>
        simp only [Number.literal.sign, if_true, List.cons_append, List.nil_append]
        rw [value?, skipGap_cons rfl]
        simp [whole, ofNumber, inRange]
    have digits (n : Nat) (more : List Char) :
        ∃ c rest, Nat.toDigits 10 n ++ more = c :: rest ∧ c.isDigit = true := by
      obtain ⟨c, rest, digits⟩ :=
        List.exists_cons_of_ne_nil (Nat.toDigits_ne_nil (n := n) (b := 10))
      exact ⟨c, rest ++ more, by rw [digits]; rfl,
        isDigit_of_mem_toDigits (digits ▸ List.mem_cons_self)⟩
    cases value with
    | integer negative n =>
      rw [render, Number.literal, List.append_assoc]
      exact read negative _ (digits n rest) (unsigned?_integer negative n ends)
    | decimal negative n exponent =>
      simp only [render, Number.literal, List.append_assoc, List.cons_append]
      exact read negative _ (digits n _)
        (unsigned?_decimal negative n exponent fun c first => (ends c first).1)

/-- A text is read back, with all that has to be escaped in it. -/
theorem readsBack_string (text : String) : ReadsBack (.string text) := by
  intro fuel rest ends enough
  cases fuel with
  | zero => simp [render, quote] at enough
  | succ fuel =>
    simp only [render, quote, List.cons_append, List.append_assoc, List.nil_append, value?]
    rw [skipGap_cons rfl]
    simp [stringLiteral?_quote]

/-- The members of an array are read up to its closing bracket. -/
theorem items?_render {item : Json} {more : List Json}
    (each : ∀ member ∈ item :: more, ReadsBack member) (fuel : Nat) (rest : List Char)
    (enough : (render item).length + (renderItems more).length ≤ fuel) :
    items? fuel (render item ++ (renderItems more ++ rest)) = some (item :: more, rest) := by
  induction more generalizing item fuel with
  | nil =>
    cases fuel with
    | zero => simp [renderItems] at enough
    | succ fuel =>
      have first := each item List.mem_cons_self fuel (']' :: rest)
        (endsNumber_cons (by decide) rest) (by simp [renderItems] at enough; omega)
      simp [items?, renderItems, first, skipGap_cons (c := ']') rfl]
  | cons next more ih =>
    cases fuel with
    | zero => simp [renderItems] at enough
    | succ fuel =>
      have first := each item List.mem_cons_self fuel
        (',' :: (render next ++ (renderItems more ++ rest)))
        (endsNumber_cons (by decide) _) (by simp [renderItems] at enough; omega)
      have others := ih (fun member inside => each member (.tail _ inside)) fuel
        (by simp [renderItems] at enough ⊢; omega)
      simp [items?, renderItems, first, others, skipGap_cons (c := ',') rfl]

/-- The fields of an object are read up to its closing brace. -/
theorem fields?_render {field : String × Json} {more : List (String × Json)}
    (each : ∀ member ∈ field :: more, ReadsBack member.2) (fuel : Nat) (rest : List Char)
    (enough : (render field.2).length + (renderFields more).length ≤ fuel) :
    fields? fuel (quote field.1 ++ ':' :: (render field.2 ++ (renderFields more ++ rest))) =
      some ((field :: more).map fun field => (some field.1, field.2), rest) := by
  induction more generalizing field fuel with
  | nil =>
    cases fuel with
    | zero => simp [renderFields] at enough
    | succ fuel =>
      have first := each field List.mem_cons_self fuel ('\x7d' :: rest)
        (endsNumber_cons (by decide) rest) (by simp [renderFields] at enough; omega)
      simp [fields?, quote, renderFields, first, skipGap_cons (c := '\x7d') rfl,
        skipGap_cons (c := '"') rfl, skipGap_cons (c := ':') rfl, stringLiteral?_quote]
  | cons next more ih =>
    cases fuel with
    | zero => simp [renderFields] at enough
    | succ fuel =>
      have first := each field List.mem_cons_self fuel
        (',' :: (quote next.1 ++ ':' :: (render next.2 ++ (renderFields more ++ rest))))
        (endsNumber_cons (by decide) _) (by simp [renderFields] at enough; omega)
      have others := ih (fun member inside => each member (.tail _ inside)) fuel
        (by simp [renderFields] at enough ⊢; omega)
      simp [quote] at first others
      simp [fields?, quote, renderFields, first, others, skipGap_cons (c := ',') rfl,
        skipGap_cons (c := '"') rfl, skipGap_cons (c := ':') rfl, stringLiteral?_quote]

/-- An object all of whose keys denote texts has these for its keys. -/
theorem ofFields_some (fields : List (String × Json)) :
    ofFields (fields.map fun field => (some field.1, field.2)) = .object fields := by
  have keyed : ((fields.map fun field => (some field.1, field.2)).mapM
      fun field => field.1.map (·, field.2)) = some fields := by
    induction fields with
    | nil => rfl
    | cons field rest ih => simp [List.mapM_cons, ih]
  rw [ofFields, keyed]

/-- A document with a text is read back from it, with anything that may follow it. -/
theorem HasText.readsBack {document : Json} (has : document.HasText) : ReadsBack document := by
  induction has with
  | null =>
    intro fuel rest ends enough
    cases fuel with
    | zero => simp [render] at enough
    | succ fuel => rfl
  | bool value =>
    intro fuel rest ends enough
    cases fuel with
    | zero => cases value <;> simp [render] at enough
    | succ fuel => cases value <;> rfl
  | number inRange => exact readsBack_number inRange
  | string text => exact readsBack_string text
  | array each ih =>
    rename_i items
    intro fuel rest ends enough
    cases fuel with
    | zero => cases items <;> simp [render] at enough
    | succ fuel =>
      cases items with
      | nil => rfl
      | cons item more =>
        obtain ⟨c, input, begins, token, opens⟩ := exists_head item
        have members := items?_render ih fuel rest (by simp [render] at enough; omega)
        rw [begins] at members
        simp only [List.cons_append] at members
        simp [render, value?, skipGap_cons (c := '[') rfl, begins, skipGap_cons token, opens,
          members]
  | object each ih =>
    rename_i fields
    intro fuel rest ends enough
    cases fuel with
    | zero => cases fields <;> simp [render] at enough
    | succ fuel =>
      cases fields with
      | nil => rfl
      | cons field more =>
        have members := fields?_render ih fuel rest (by simp [render] at enough; omega)
        simp only [quote, List.cons_append, List.append_assoc, List.nil_append] at members
        simp [render, value?, quote, skipGap_cons (c := '\x7b') rfl, skipGap_cons (c := '"') rfl,
          members]
        exact ofFields_some (field :: more)

/-- A document that has a text is what its text is read as. -/
theorem HasText.parse?_print {document : Json} (has : document.HasText) :
    parse? document.print = some document := by
  have read := has.readsBack (3 * (render document).length + 3) []
    (by rintro _ ⟨⟩) (by omega)
  rw [List.append_nil] at read
  have text : document.print.toList = render document := String.toList_ofList
  rw [parse?, text]
  exact congrArg (Option.bind · _) read

end AttributeRelease.Json
