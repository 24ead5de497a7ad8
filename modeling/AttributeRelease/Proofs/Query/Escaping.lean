import AttributeRelease.Json.Parser
import AttributeRelease.Proofs.Query.Caching
import AttributeRelease.Proofs.Query.Templates

/-!
# Values in the filters of directories

Parentheses and asterisks give a filter its form. An escaped value has none of them, and every
backslash in it begins an escape, which can be undone (`unescapeLdap?`). So all filters that a
directory is searched with have the form of the template, whatever the values are
(`filters_keep_form`).
-/

namespace AttributeRelease.Resolver.Query

/-- The characters that have a meaning in a filter other than the backslash. -/
def isForm (c : Char) : Bool := c == '(' || c == ')' || c == '*' || c == '\x00'

/-- Every backslash in a text is followed by two hexadecimal digits. -/
def BackslashesEscape (text : List Char) : Prop :=
  ∀ behind, '\\' :: behind <:+ text → ∃ high low rest, behind = high :: low :: rest ∧
    (Json.hexValue? high).isSome ∧ (Json.hexValue? low).isSome

/-- A text with its escapes undone; a character that has a meaning must not stand by itself. -/
def unescapeLdap? : List Char → Option (List Char)
  | [] => some []
  | '\\' :: high :: low :: rest => do
    let code := (← Json.hexValue? high) * 16 + (← Json.hexValue? low)
    return Char.ofNat code :: (← unescapeLdap? rest)
  | c :: rest => if c == '\\' || isForm c then none else (unescapeLdap? rest).map (c :: ·)

/-! ## Escaped values -/

/-- A character either has no meaning and is kept, or becomes the escape of its code. -/
theorem escapeLdapChar_cases (c : Char) :
    (c ≠ '\\' ∧ isForm c = false ∧ escapeLdapChar c = [c]) ∨
      ∃ high low first second, escapeLdapChar c = ['\\', high, low] ∧
        Json.hexValue? high = some first ∧ Json.hexValue? low = some second ∧
        c = Char.ofNat (first * 16 + second) := by
  unfold escapeLdapChar
  split
  next same => exact .inr ⟨'5', 'c', 5, 12, rfl, rfl, rfl, same⟩
  next notBackslash =>
    split
    next same => exact .inr ⟨'2', 'a', 2, 10, rfl, rfl, rfl, same⟩
    next notAsterisk =>
      split
      next same => exact .inr ⟨'2', '8', 2, 8, rfl, rfl, rfl, same⟩
      next notOpening =>
        split
        next same => exact .inr ⟨'2', '9', 2, 9, rfl, rfl, rfl, same⟩
        next notClosing =>
          split
          next same => exact .inr ⟨'0', '0', 0, 0, rfl, rfl, rfl, same⟩
          next notNull =>
            refine .inl ⟨notBackslash, ?_, rfl⟩
            simp only [isForm, beq_eq_false_iff_ne.mpr notAsterisk,
              beq_eq_false_iff_ne.mpr notOpening, beq_eq_false_iff_ne.mpr notClosing,
              beq_eq_false_iff_ne.mpr notNull, Bool.or_self]

/-- A hexadecimal digit has no meaning in a filter. -/
theorem plain_of_hexValue? {c : Char} {digit : Nat} (read : Json.hexValue? c = some digit) :
    c ≠ '\\' ∧ isForm c = false := by
  have other (special : Char) (none : Json.hexValue? special = none) : c ≠ special := by
    intro same
    rw [same, none] at read
    cases read
  refine ⟨other _ (by decide), ?_⟩
  simp only [isForm, beq_eq_false_iff_ne.mpr (other '(' (by decide)),
    beq_eq_false_iff_ne.mpr (other ')' (by decide)),
    beq_eq_false_iff_ne.mpr (other '*' (by decide)),
    beq_eq_false_iff_ne.mpr (other '\x00' (by decide)), Bool.or_self]

theorem BackslashesEscape.cons {c : Char} {text : List Char} (other : c ≠ '\\')
    (escapes : BackslashesEscape text) : BackslashesEscape (c :: text) := by
  intro behind ends
  obtain same | ends := List.suffix_cons_iff.mp ends
  · exact absurd (List.cons.inj same).1 (Ne.symm other)
  · exact escapes behind ends

section Escaped

variable (value : List Char)

/-- An escaped value has no characters with a meaning other than backslashes. -/
theorem isForm_of_mem_escaped {c : Char} (listed : c ∈ value.flatMap escapeLdapChar) :
    isForm c = false := by
  obtain ⟨own, _, inside⟩ := List.mem_flatMap.mp listed
  obtain ⟨_, plain, same⟩ | ⟨high, low, first, second, same, readHigh, readLow, _⟩ :=
    escapeLdapChar_cases own
  · rw [same] at inside
    cases List.mem_singleton.mp inside
    exact plain
  · rw [same] at inside
    rcases List.mem_cons.mp inside with backslash | digit
    · rw [backslash]
      decide
    · rcases List.mem_cons.mp digit with isHigh | isLow
      · rw [isHigh]
        exact (plain_of_hexValue? readHigh).2
      · rw [List.mem_singleton.mp isLow]
        exact (plain_of_hexValue? readLow).2

theorem backslashesEscape_escaped : BackslashesEscape (value.flatMap escapeLdapChar) := by
  induction value with
  | nil =>
    intro behind ends
    cases List.suffix_nil.mp ends
  | cons c rest ih =>
    rw [List.flatMap_cons]
    obtain ⟨other, _, same⟩ | ⟨high, low, first, second, same, readHigh, readLow, _⟩ :=
      escapeLdapChar_cases c
    · rw [same]
      exact ih.cons other
    · rw [same]
      intro behind ends
      obtain same | ends := List.suffix_cons_iff.mp ends
      · refine ⟨high, low, _, (List.cons.inj same).2, ?_, ?_⟩
        · rw [readHigh]
          rfl
        · rw [readLow]
          rfl
      · have digits := (ih.cons (plain_of_hexValue? readLow).1).cons (plain_of_hexValue? readHigh).1
        exact digits behind ends

/-- Undoing the escapes gives back the value. -/
theorem unescapeLdap?_escaped : unescapeLdap? (value.flatMap escapeLdapChar) = some value := by
  induction value with
  | nil => rfl
  | cons c rest ih =>
    rw [List.flatMap_cons]
    obtain ⟨other, plain, same⟩ | ⟨high, low, first, second, same, readHigh, readLow, code⟩ :=
      escapeLdapChar_cases c
    · rw [same, List.singleton_append, unescapeLdap?, beq_eq_false_iff_ne.mpr other, plain, ih]
      · rfl
      · intro _ _ _ backslash
        exact absurd backslash other
    · simp only [same, List.cons_append, List.nil_append]
      rw [unescapeLdap?, readHigh, readLow, ih, code]
      rfl

end Escaped

/-- Escaping keeps values apart. -/
theorem escapeLdap_injective : Function.Injective escapeLdap := by
  intro first second same
  have escaped : first.toList.flatMap escapeLdapChar = second.toList.flatMap escapeLdapChar :=
    String.ofList_injective same
  have undone := unescapeLdap?_escaped first.toList
  rw [escaped, unescapeLdap?_escaped] at undone
  exact String.toList_inj.mp (Option.some.inj undone).symm

/-! ## Filters -/

/-- In a filter only the literals have characters with a meaning. -/
theorem filter_isForm_filled (value? : Segment → Option String) (segments : List Segment) :
    (segments.flatMap (Segment.filled value? escapeLdap)).filter isForm =
      (segments.flatMap Segment.literalText).filter isForm := by
  rw [List.filter_flatMap, List.filter_flatMap]
  refine List.flatMap_congr fun segment _ => ?_
  have formless (own : Option String) :
      ((own.map fun value => (escapeLdap value).toList).getD []).filter isForm = [] := by
    rw [List.filter_eq_nil_iff]
    intro c listed
    cases own with
    | none => cases listed
    | some value =>
      rw [Option.map_some, Option.getD_some, escapeLdap, String.toList_ofList] at listed
      rw [isForm_of_mem_escaped _ listed]
      exact Bool.false_ne_true
  cases segment with
  | literal text => rfl
  | party who => exact formless _
  | attr id => exact formless _

/-- Filters keep the form of their template.

A filter consists of the literals of its template and of the escaped values of the placeholders. An
escaped value has no character with a meaning other than backslashes, each of which begins an
escape; undoing the escapes gives back the value, so escaping keeps values apart. Hence all filters
of a connector have the same parentheses and asterisks in the same order, those of the literals. -/
theorem filters_keep_form {σ : Type} (settings : ConnectorSettings) (template : Template)
    (renames : KeyMap String) (multiple : Bool) (cache : Option (CacheSlot σ))
    (search : String → σ → Except String (List Entry) × σ) :
    let connector := directory settings template renames multiple cache search
    (∀ resolution query, connector.query resolution = .ok query →
        let value? := placeholderValue? resolution settings.dependencies
        query.toList = template.segments.flatMap (Segment.filled value? escapeLdap) ∧
          ∀ segment ∈ template.segments, segment.isLiteral = false →
            ∃ value, value? segment = some value ∧
              segment.filled value? escapeLdap = (escapeLdap value).toList) ∧
      (∀ value, (∀ c ∈ (escapeLdap value).toList, isForm c = false) ∧
        BackslashesEscape (escapeLdap value).toList ∧
        unescapeLdap? (escapeLdap value).toList = some value.toList) ∧
      Function.Injective escapeLdap ∧
      ∀ first second query other, connector.query first = .ok query →
        connector.query second = .ok other →
          query.toList.filter isForm = other.toList.filter isForm ∧
            query.toList.filter isForm =
              (template.segments.flatMap Segment.literalText).filter isForm := by
  intro connector
  have form (resolution : Resolution) (query : String)
      (rendered : connector.query resolution = .ok query) :
      query.toList.filter isForm =
        (template.segments.flatMap Segment.literalText).filter isForm := by
    rw [(Template.of_render rendered).1]
    exact filter_isForm_filled _ _
  refine ⟨fun resolution query rendered => ?_, fun value => ?_, escapeLdap_injective,
    fun first second query other one two => ?_⟩
  · obtain ⟨filled, found⟩ := Template.of_render rendered
    refine ⟨filled, fun segment listed placeholder => ?_⟩
    obtain ⟨value, stands⟩ := found segment listed placeholder
    exact ⟨value, stands, filled_of_value? placeholder stands⟩
  · rw [escapeLdap, String.toList_ofList]
    exact ⟨fun c listed => isForm_of_mem_escaped _ listed, backslashesEscape_escaped _,
      unescapeLdap?_escaped _⟩
  · exact ⟨(form first query one).trans (form second other two).symm, form first query one⟩

/-- Whoever asks at a desk finds themselves, also under a name that looks like part of a filter. -/
theorem filters_keep_form_desk :
    let plain : Resolution := { request := { principal := some "ada" } }
    let crafted : Resolution := { request := { principal := some "*)(uid=*" } }
    Desk.connector.query plain = .ok "(uid=ada)" ∧
      Desk.connector.query crafted = .ok "(uid=\\2a\\29\\28uid=\\2a)" ∧
      "(uid=\\2a\\29\\28uid=\\2a)".toList.filter isForm = "(uid=ada)".toList.filter isForm := by
  intro plain crafted
  have rendered : Desk.connector.query plain = .ok "(uid=ada)" := by decide +kernel
  have escaped : Desk.connector.query crafted = .ok "(uid=\\2a\\29\\28uid=\\2a)" := by
    decide +kernel
  have kept := (filters_keep_form { id := "desk" } Desk.connector.template ∅ false
    (some Desk.slot) Desk.search).2.2.2
  exact ⟨rendered, escaped, (kept _ _ _ _ escaped rendered).1⟩

end AttributeRelease.Resolver.Query
