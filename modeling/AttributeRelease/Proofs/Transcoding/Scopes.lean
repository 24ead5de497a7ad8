import AttributeRelease.Proofs.Text.Marks
import AttributeRelease.Proofs.Transcoding.RoundTrip
import Mathlib.Data.List.Forall2

/-!
# Scopes on the wire

A scope stands beside a text or behind the last mark in it. What is read has both parts only where
both have content: a text whose scope is empty is read as a plain one, and an empty text as a
missing value (`scoped_values_read`). Written behind its text, a scope with a mark is cut there when
it is read, so attributes come back as they were just when no such scope is written
(`scoped_values_return_iff`).
-/

namespace AttributeRelease.Transcoding

/-- A text with a scope, both of which have content. -/
inductive IsQualified : Value → Prop
  | intro {value scope : String} (valued : value ≠ "") (qualified : scope ≠ "") :
      IsQualified (.scoped ⟨value, scope⟩)

/-- Texts are never made into scoped values, even with the mark in them. -/
theorem ofText_ne_scoped (text : String) (content : ScopedText) :
    Value.ofText text ≠ .scoped content := by
  unfold Value.ofText
  split
  · exact Value.noConfusion
  · exact Value.noConfusion

/-- Without both parts a scoped text is a plain one. -/
theorem ofScoped_eq_ofText {value scope : String} (incomplete : value = "" ∨ scope = "") :
    Value.ofScoped value scope = .ofText value := by
  simp [Value.ofScoped, ScopedText.new?, incomplete]

/-- A scoped value is made only of a value and a scope that are not empty. -/
theorem isQualified_ofScoped_iff {value scope : String} :
    IsQualified (.ofScoped value scope) ↔ value ≠ "" ∧ scope ≠ "" := by
  by_cases incomplete : value = "" ∨ scope = ""
  · rw [ofScoped_eq_ofText incomplete]
    refine iff_of_false (fun qualified => ?_) fun complete => incomplete.elim complete.1 complete.2
    generalize plain : Value.ofText value = own at qualified
    cases qualified
    exact ofText_ne_scoped value _ plain
  · obtain ⟨valued, qualified⟩ := not_or.mp incomplete
    rw [SamlValueCodec.ofScoped_eq valued qualified]
    exact iff_of_true (.intro valued qualified) ⟨valued, qualified⟩

namespace SamlValueCodec

/-! ## Parts of a value -/

theorem toList_scopeMark : "@".toList = [scopeMark] := rfl

theorem splitLast?_eq_none_iff {mark : Char} {chars : List Char} :
    splitLast? mark chars = none ↔ mark ∉ chars := by
  refine ⟨fun unsplit => ?_, splitLast?_eq_none⟩
  induction chars with
  | nil => exact List.not_mem_nil
  | cons c rest ih =>
    rw [splitLast?] at unsplit
    split at unsplit
    · cases unsplit
    · rename_i later
      split at unsplit
      · cases unsplit
      · rename_i other
        exact List.not_mem_cons_of_ne_of_not_mem (Ne.symm other) (ih later)

theorem splitLast?_eq_some_iff {mark : Char} {chars before behind : List Char} :
    splitLast? mark chars = some (before, behind) ↔
      chars = before ++ mark :: behind ∧ mark ∉ behind := by
  refine ⟨fun parts => ?_, fun ⟨parts, last⟩ => parts ▸ splitLast?_append before last⟩
  induction chars generalizing before with
  | nil => cases parts
  | cons c rest ih =>
    rw [splitLast?] at parts
    split at parts
    · rename_i later
      cases parts
      obtain ⟨parts, last⟩ := ih later
      exact ⟨congrArg (c :: ·) parts, last⟩
    · rename_i later
      split at parts
      · rename_i same
        cases parts
        exact ⟨congrArg (· :: behind) same, splitLast?_eq_none_iff.mp later⟩
      · cases parts

/-- The text and the scope of a value on the wire. The scope stands beside the text, or else behind
the last mark in it. -/
inductive HasParts (wire : SamlValue) : String → String → Prop
  | beside {scope : String} (stands : wire.scope = some scope) : HasParts wire wire.text scope
  | behind {text scope : String} (bare : wire.scope = none)
      (joined : wire.text = text ++ "@" ++ scope) (last : scopeMark ∉ scope.toList) :
      HasParts wire text scope

/-- The parts that are read are the scope beside the text, or else what stands around the last
mark. -/
theorem readScoped?_eq_some_iff {wire : SamlValue} {text scope : String} :
    readScoped? wire = some (text, scope) ↔ HasParts wire text scope := by
  constructor
  · intro read
    unfold readScoped? at read
    split at read
    · rename_i own stands
      cases read
      exact .beside stands
    · rename_i bare
      obtain ⟨⟨before, behind⟩, split, same⟩ := Option.map_eq_some_iff.mp read
      obtain ⟨parts, last⟩ := splitLast?_eq_some_iff.mp split
      cases same
      refine .behind bare (String.toList_inj.mp ?_) (by rwa [String.toList_ofList])
      rw [Text.toList_joined toList_scopeMark, String.toList_ofList, String.toList_ofList,
        parts]
  · intro parts
    cases parts with
    | beside stands => simp only [readScoped?, stands]
    | behind bare joined last =>
      have chars := Text.toList_joined toList_scopeMark text scope
      simp only [readScoped?, bare, joined, chars, splitLast?_append text.toList last]
      simp

/-- No parts are read exactly if there is neither a scope beside the text nor a mark in it. -/
theorem readScoped?_eq_none_iff {wire : SamlValue} :
    readScoped? wire = none ↔ wire.scope = none ∧ scopeMark ∉ wire.text.toList := by
  cases stands : wire.scope with
  | some scope => simp [readScoped?, stands]
  | none => simp [readScoped?, stands, splitLast?_eq_none_iff]

/-- What is read of a value on the wire: nothing if it has no scope, both parts if both have
content, and else what is left of the text. -/
inductive Reads (wire : SamlValue) : List Value → Prop
  | unscoped (bare : wire.scope = none) (unmarked : scopeMark ∉ wire.text.toList) : Reads wire []
  | complete {text scope : String} (parts : HasParts wire text scope) (valued : text ≠ "")
      (qualified : scope ≠ "") : Reads wire [.scoped ⟨text, scope⟩]
  | scopeless {text : String} (parts : HasParts wire text "") (valued : text ≠ "") :
      Reads wire [.text text]
  | textless {scope : String} (parts : HasParts wire "" scope) : Reads wire [.empty .zeroLength]

theorem decode?_eq_some_iff {wire : SamlValue} {value : Value} :
    withScope.decode? wire = some value ↔
      ∃ text scope, HasParts wire text scope ∧ value = .ofScoped text scope := by
  simp only [withScope, Option.map_eq_some_iff, Prod.exists, readScoped?_eq_some_iff]
  simp only [eq_comm]

/-- Of parts that are read one value is made. -/
theorem reads_ofScoped {wire : SamlValue} {text scope : String} (parts : HasParts wire text scope) :
    Reads wire [.ofScoped text scope] := by
  by_cases valued : text = ""
  · rw [ofScoped_eq_ofText (.inl valued), Value.ofText, if_pos valued]
    exact .textless (valued ▸ parts)
  · by_cases qualified : scope = ""
    · rw [ofScoped_eq_ofText (.inr qualified), Value.ofText, if_neg valued]
      exact .scopeless (qualified ▸ parts) valued
    · rw [ofScoped_eq valued qualified]
      exact .complete parts valued qualified

/-- The decoder reads one value or none, as the parts say. -/
theorem reads_decode? (wire : SamlValue) : Reads wire (withScope.decode? wire).toList := by
  cases read : withScope.decode? wire with
  | none =>
    have unread : readScoped? wire = none := by
      simpa only [withScope, Option.map_eq_none_iff] using read
    obtain ⟨bare, unmarked⟩ := readScoped?_eq_none_iff.mp unread
    exact .unscoped bare unmarked
  | some value =>
    obtain ⟨text, scope, parts, rfl⟩ := decode?_eq_some_iff.mp read
    exact reads_ofScoped parts

/-- All values that are read are complete just when all values on the wire have complete parts. -/
theorem isQualified_decode?_iff {wires : List SamlValue} :
    (∀ value ∈ wires.filterMap withScope.decode?, IsQualified value) ↔
      ∀ wire ∈ wires, ∀ text scope, HasParts wire text scope → text ≠ "" ∧ scope ≠ "" := by
  simp only [List.mem_filterMap, decode?_eq_some_iff]
  constructor
  · intro qualified wire listed text scope parts
    exact isQualified_ofScoped_iff.mp (qualified _ ⟨wire, listed, text, scope, parts, rfl⟩)
  · rintro complete value ⟨wire, listed, text, scope, parts, rfl⟩
    exact isQualified_ofScoped_iff.mpr (complete wire listed text scope parts)

end SamlValueCodec

open SamlValueCodec

/-- What a rule reads of an attribute whose values have scopes. -/
theorem scoped_values_read (request : Request) (attr : Saml2Attribute) (rule : Rule) :
    (Text.isBlank rule.attributeId = true →
        (Codec.saml2 .withScope).decode request (.saml2 attr) rule =
          .error (.attributeError (.blankId rule.attributeId))) ∧
      (Text.isBlank rule.attributeId = false →
        ∃ back readings,
          (Codec.saml2 .withScope).decode request (.saml2 attr) rule = .ok (some back) ∧
            List.Forall₂ Reads attr.values readings ∧ back.values = readings.flatten ∧
            ((∀ value ∈ back.values, IsQualified value) ↔
              ∀ wire ∈ attr.values, ∀ text scope, HasParts wire text scope →
                text ≠ "" ∧ scope ≠ "")) := by
  refine ⟨fun blank => ?_, fun named => ?_⟩
  · simp only [Codec.saml2, Rule.decoded, Attribute.withValues?, Attribute.new?, blank]
    rfl
  · obtain ⟨back, decoded, -, values⟩ := decoded_ok named (attr.values.filterMap withScope.decode?)
    refine ⟨back, attr.values.map fun wire => (withScope.decode? wire).toList, ?_, ?_, ?_, ?_⟩
    · simp only [Codec.saml2, decoded]
      rfl
    · exact List.forall₂_map_right_iff.mpr (List.forall₂_same.mpr fun wire _ => reads_decode? wire)
    · rw [values, List.filterMap_eq_flatMap_toList, List.flatMap_def]
    · rw [values]
      exact isQualified_decode?_iff

/-- The affiliations of a visitor, whose scopes stand beside or behind them. -/
def visitorAffiliations : Saml2Attribute where
  name := "affiliation"
  values := [{ text := "member@library@north.example" }, { text := "guest" },
    { text := "staff", scope := some "south.example" }]

/-- Of a visitor's affiliations those with a scope are read, and all of them with both parts. -/
theorem scoped_values_read_visitor :
    Text.isBlank "affiliation" = false ∧
      ∃ back, (Codec.saml2 .withScope).decode {} (.saml2 visitorAffiliations)
          (affiliationRule.install "affiliation") = .ok (some back) ∧
        ∀ value ∈ back.values, IsQualified value := by
  have named : Text.isBlank "affiliation" = false := rfl
  obtain ⟨back, -, read, -, -, complete⟩ :=
    (scoped_values_read {} visitorAffiliations (affiliationRule.install "affiliation")).2 named
  refine ⟨named, back, read, complete.mpr fun wire listed text scope parts => ?_⟩
  have found := readScoped?_eq_some_iff.mpr parts
  obtain rfl | rfl | rfl : wire = { text := "member@library@north.example" } ∨
      wire = { text := "guest" } ∨ wire = { text := "staff", scope := some "south.example" } := by
    simpa [visitorAffiliations] using listed
  · cases found.symm.trans (rfl : _ = some ("member@library", "north.example"))
    decide
  · cases found.symm.trans (rfl : _ = none)
  · cases found.symm.trans (rfl : _ = some ("staff", "south.example"))
    decide

/-- Affiliations whose scopes are empty, and one that is empty itself. -/
def looseAffiliations : Saml2Attribute where
  name := "affiliation"
  values := [{ text := "staff@" }, { text := "guest", scope := some "" },
    { text := "@north.example" }]

/-- Texts with empty scopes are read as plain ones, and an empty text as a missing value. -/
theorem empty_scope_read_as_plain :
    ∃ back, (Codec.saml2 .withScope).decode {} (.saml2 looseAffiliations)
        (affiliationRule.install "affiliation") = .ok (some back) ∧
      back.values = [.text "staff", .text "guest", .empty .zeroLength] ∧
      ∀ value ∈ back.values, ¬ IsQualified value := by
  refine ⟨{ id := "affiliation", values := [.text "staff", .text "guest", .empty .zeroLength] },
    rfl, rfl, fun value listed qualified => ?_⟩
  obtain rfl | rfl | rfl : value = .text "staff" ∨ value = .text "guest" ∨
      value = .empty .zeroLength := by
    simpa using listed
  · cases qualified
  · cases qualified
  · cases qualified

/-! ## Both ways -/

/-- What a scoped text is read as once it has been written. A scope that is written behind the text
is cut at its last mark, and what stands before that goes to the text. -/
inductive ReadsBack (encoding : ScopeEncoding) : Value → Value → Prop
  | whole {content : ScopedText}
      (unmarked : encoding = .inline → scopeMark ∉ content.scope.toList) :
      ReadsBack encoding (.scoped content) (.scoped content)
  | cut {text front rest : String} (inline : encoding = .inline)
      (last : scopeMark ∉ rest.toList) :
      ReadsBack encoding (.scoped ⟨text, front ++ "@" ++ rest⟩)
        (.ofScoped (text ++ "@" ++ front) rest)

theorem scope_eq_of_ofScoped {value scope : String} {content : ScopedText}
    (same : Value.ofScoped value scope = .scoped content) : content.scope = scope := by
  by_cases incomplete : value = "" ∨ scope = ""
  · rw [ofScoped_eq_ofText incomplete] at same
    exact absurd same (ofText_ne_scoped value content)
  · obtain ⟨valued, qualified⟩ := not_or.mp incomplete
    rw [ofScoped_eq valued qualified] at same
    cases same
    rfl

/-- A scope with a mark is cut at the last one. -/
theorem exists_cut {scope : String} (marked : scopeMark ∈ scope.toList) :
    ∃ front rest, scope = front ++ "@" ++ rest ∧ scopeMark ∉ rest.toList := by
  obtain ⟨⟨front, rest⟩, split⟩ : ∃ parts, splitLast? scopeMark scope.toList = some parts :=
    Option.ne_none_iff_exists'.mp fun unsplit => splitLast?_eq_none_iff.mp unsplit marked
  obtain ⟨parts, last⟩ := splitLast?_eq_some_iff.mp split
  refine ⟨String.ofList front, String.ofList rest, String.toList_inj.mp ?_, ?_⟩
  · rw [Text.toList_joined toList_scopeMark, String.toList_ofList, String.toList_ofList,
      parts]
  · rwa [String.toList_ofList]

/-- A value comes back as it was just when its scope is not cut. -/
theorem ReadsBack.self_iff {encoding : ScopeEncoding} {value back : Value}
    (read : ReadsBack encoding value back) :
    back = value ↔ (encoding = .inline → ∀ scope, value.scope? = some scope →
      scopeMark ∉ scope.toList) := by
  cases read with
  | whole unmarked => simpa [Value.scope?] using unmarked
  | @cut text front rest inline last =>
    have joined := Text.toList_joined toList_scopeMark front rest
    have marked : scopeMark ∈ (front ++ "@" ++ rest).toList := by simp [joined]
    refine iff_of_false (fun same => ?_) fun unmarked => unmarked inline _ rfl marked
    have same_scope : front ++ "@" ++ rest = rest := scope_eq_of_ofScoped same
    exact last (same_scope ▸ marked)

/-- A qualified value is always written, and what is read back differs from it at most in where it
is split. -/
theorem exists_readsBack (rule : Rule) {value : Value} (qualified : IsQualified value) :
    ∃ wire back, withScope.encode? rule value = some wire ∧
      withScope.decode? wire = some back ∧ ReadsBack rule.scopeEncoding value back := by
  obtain @⟨text, scope, valued, hasScope⟩ := qualified
  by_cases marked : rule.scopeEncoding = .inline ∧ scopeMark ∈ scope.toList
  · obtain ⟨inline, marked⟩ := marked
    obtain ⟨front, rest, rfl, last⟩ := exists_cut marked
    have parts : HasParts (writeScoped rule ⟨text, front ++ "@" ++ rest⟩)
        (text ++ "@" ++ front) rest := by
      rw [writeScoped, inline]
      refine .behind rfl ?_ last
      simp only [typed, String.append_assoc]
      rfl
    exact ⟨_, _, rfl, decode?_eq_some_iff.mpr ⟨_, _, parts, rfl⟩, .cut inline last⟩
  · have unmarked : rule.scopeEncoding = .inline → scopeMark ∉ scope.toList :=
      fun inline inside => marked ⟨inline, inside⟩
    obtain ⟨wire, written, read⟩ := withScope_keeps valued hasScope unmarked
    exact ⟨wire, _, written, read, .whole unmarked⟩

/-- What a rule reads of what it has written. -/
theorem forall₂_readsBack (rule : Rule) {values : List Value}
    (qualified : ∀ value ∈ values, IsQualified value) :
    List.Forall₂ (ReadsBack rule.scopeEncoding) values
      ((values.filterMap (withScope.encode? rule)).filterMap withScope.decode?) := by
  induction values with
  | nil => exact .nil
  | cons value rest ih =>
    obtain ⟨own, others⟩ := List.forall_mem_cons.mp qualified
    obtain ⟨wire, back, written, read, returns⟩ := exists_readsBack rule own
    rw [List.filterMap_cons_some written, List.filterMap_cons_some read]
    exact .cons returns (ih others)

/-- All values come back as they were exactly if no scope has a mark in it or scopes stand apart. -/
theorem forall₂_readsBack_self_iff {encoding : ScopeEncoding} {values back : List Value}
    (returns : List.Forall₂ (ReadsBack encoding) values back) :
    back = values ↔ (encoding = .inline → ∀ value ∈ values, ∀ scope,
      value.scope? = some scope → scopeMark ∉ scope.toList) := by
  induction returns with
  | nil => simp
  | cons returns _ ih =>
    rw [List.cons_eq_cons, returns.self_iff, ih]
    simp only [List.forall_mem_cons, forall_and]

/-- A rule reads back the values that it has written, in order and each as its own, except for those
whose scopes are cut. -/
theorem scoped_values_return_iff {attr : Attribute} {rule : Rule} {name : String}
    (named : rule.name = some name) (qualified : ∀ value ∈ attr.values, IsQualified value)
    (request : Request) :
    (attr.values = [] → (Codec.saml2 .withScope).encode request attr rule = .ok none) ∧
      (attr.values ≠ [] → ∃ wire,
        (Codec.saml2 .withScope).encode request attr rule = .ok (some wire) ∧
          (Text.isBlank rule.attributeId = false → ∃ back,
            (Codec.saml2 .withScope).decode request wire rule = .ok (some back) ∧
              back.id = rule.attributeId ∧
              List.Forall₂ (ReadsBack rule.scopeEncoding) attr.values back.values ∧
              (back.values = attr.values ↔
                (rule.scopeEncoding = .inline → ∀ value ∈ attr.values, ∀ scope,
                  value.scope? = some scope → scopeMark ∉ scope.toList)))) := by
  have returns := forall₂_readsBack rule qualified
  constructor
  · intro empty
    simp only [Codec.saml2, empty, List.filterMap_nil]
  · intro nonempty
    obtain ⟨wire, rest, written⟩ :
        ∃ wire rest, attr.values.filterMap (withScope.encode? rule) = wire :: rest := by
      refine List.exists_cons_of_ne_nil fun nothing => nonempty ?_
      rw [nothing] at returns
      exact List.forall₂_nil_right_iff.mp returns
    refine ⟨.saml2 {
        name, values := wire :: rest
        nameFormat := some (Codec.saml2NameFormat rule)
        friendlyName := rule.friendlyName }, ?_, fun identified => ?_⟩
    · simp only [Codec.saml2, written, Rule.requiredName, named]
      rfl
    · obtain ⟨back, decoded, own, values⟩ :=
        decoded_ok identified ((wire :: rest).filterMap withScope.decode?)
      rw [written, ← values] at returns
      refine ⟨back, ?_, own, returns, forall₂_readsBack_self_iff returns⟩
      simp only [Codec.saml2, decoded]
      rfl

/-- The affiliations for a partner come back as they were, since the mark stands in none of their
scopes. -/
theorem scoped_values_return_iff_partner :
    partnerRule.rule.name = some "urn:oid:1.3.6.1.4.1.5923.1.1.1.9" ∧
      (∀ value ∈ affiliations.values, IsQualified value) ∧ affiliations.values ≠ [] ∧
      ∃ wire back,
        (Codec.saml2 .withScope).encode partnerRequest affiliations partnerRule.rule =
            .ok (some wire) ∧
          (Codec.saml2 .withScope).decode partnerRequest wire partnerRule.rule = .ok (some back) ∧
          back.values = affiliations.values := by
  have cases_of_listed {value : Value} (listed : value ∈ affiliations.values) :
      value = .scoped ⟨"staff@library", "north.example"⟩ ∨
        value = .scoped ⟨"member", "south.example"⟩ := by
    simpa [affiliations] using listed
  have qualified : ∀ value ∈ affiliations.values, IsQualified value := by
    intro value listed
    obtain rfl | rfl := cases_of_listed listed
    · exact .intro (by decide) (by decide)
    · exact .intro (by decide) (by decide)
  have named : partnerRule.rule.name = some "urn:oid:1.3.6.1.4.1.5923.1.1.1.9" := rfl
  have nonempty : affiliations.values ≠ [] := List.cons_ne_nil _ _
  obtain ⟨wire, written, read⟩ :=
    (scoped_values_return_iff named qualified partnerRequest).2 nonempty
  obtain ⟨back, decoded, -, -, same_iff⟩ := read rfl
  refine ⟨named, qualified, nonempty, wire, back, written, decoded,
    same_iff.mpr fun _ value listed scope hasScope => ?_⟩
  obtain rfl | rfl := cases_of_listed listed
  · cases hasScope
    decide
  · cases hasScope
    decide

/-- An affiliation of a domain that has the mark in it. -/
def departmentAffiliation : Attribute where
  id := "affiliation"
  values := [.scoped ⟨"member", "library@north.example"⟩]

/-- Written behind its text, the scope with the mark is cut: what is read has another text and
another scope. -/
theorem marked_scope_cut :
    (∀ value ∈ departmentAffiliation.values, IsQualified value) ∧
      ∃ wire back,
        (Codec.saml2 .withScope).encode partnerRequest departmentAffiliation partnerRule.rule =
            .ok (some wire) ∧
          (Codec.saml2 .withScope).decode partnerRequest wire partnerRule.rule = .ok (some back) ∧
          back.values = [.scoped ⟨"member@library", "north.example"⟩] ∧
          back.values ≠ departmentAffiliation.values := by
  refine ⟨fun value listed => ?_, _, _, rfl, rfl, rfl, by decide⟩
  rw [List.mem_singleton.mp listed]
  exact .intro (by decide) (by decide)

end AttributeRelease.Transcoding
