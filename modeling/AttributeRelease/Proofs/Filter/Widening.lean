import AttributeRelease.Filter.Config
import AttributeRelease.Proofs.Filter.Combination
import AttributeRelease.Proofs.Filter.Rewriting
import AttributeRelease.Proofs.Text.Lowercase

/-!
# Comparisons that accept more

A comparison accepts more when it disregards case, or finds a text as a part instead of the whole.
Only for parts without regard to case that is not always so: a capital sigma may have another form
in lower case where the text stands than by itself. It holds exactly for texts that settle their
sigmas (`Comparison.substring_implies_caseless_iff`).

Comparisons that accept more make a matcher permit more, or less under `not`. So deny rules whose
comparisons are replaced by such deny more, and what is released is part of what was released before
(`disregarding_case_accepts_more`).
-/

namespace AttributeRelease.Filter

/-! ## Comparisons -/

namespace Comparison

theorem isInfix_iff {part whole : List Char} : isInfix part whole = true ↔ part <:+: whole := by
  induction whole with
  | nil => rw [isInfix, List.isEmpty_iff, List.infix_nil]
  | cons c rest ih =>
      rw [isInfix, Bool.or_eq_true, ih, List.isPrefixOf_iff_prefix, List.infix_cons_iff]

theorem accepts_substring_iff {expected candidate : String} :
    (substring expected true).accepts candidate = true ↔
      expected.toList <:+: candidate.toList := isInfix_iff

/-- Without regard to case both texts are written in lower case first, each as a whole. -/
theorem accepts_substring_caseless_iff {expected candidate : String} :
    (substring expected false).accepts candidate = true ↔
      Text.lowerAfter [] expected.toList <:+: Text.lowerAfter [] candidate.toList := by
  rw [accepts, isInfix_iff, normalForm, normalForm, Text.lowercase, Text.lowercase]
  simp only [Bool.false_eq_true, if_false, String.toList_ofList]

/-- Another comparison accepts all that a comparison accepts. -/
def Implies (comparison other : Comparison) : Prop :=
  ∀ candidate, comparison.accepts candidate = true → other.accepts candidate = true

theorem Implies.any {comparison other : Comparison} (implies : comparison.Implies other)
    {text? : Option String} (accepted : text?.any comparison.accepts = true) :
    text?.any other.accepts = true := by
  cases text? with
  | none => cases accepted
  | some text => exact implies text accepted

theorem exact_implies_caseless (text : String) : (exact text true).Implies (exact text false) := by
  intro candidate accepted
  have same : candidate = text := of_decide_eq_true accepted
  rw [same, accepts, beq_self_eq_true]

/-- A text that is equal to another contains it, with or without regard to case. -/
theorem exact_implies_substring (text : String) (caseSensitive : Bool) :
    (exact text caseSensitive).Implies (substring text caseSensitive) := by
  intro candidate accepted
  have same : normalForm caseSensitive candidate = normalForm caseSensitive text :=
    of_decide_eq_true accepted
  rw [accepts, same]
  exact isInfix_iff.mpr List.infix_rfl

/-- A part is found without regard to case wherever it is with regard to it, exactly if its sigmas
have the same form in lower case wherever it stands. -/
theorem substring_implies_caseless_iff (text : String) :
    (substring text true).Implies (substring text false) ↔ Text.SigmasSettled text.toList := by
  rw [← Text.infix_lowerAfter_iff]
  constructor
  · intro implies whole inside
    have found := implies (String.ofList whole)
    rw [accepts_substring_iff, accepts_substring_caseless_iff, String.toList_ofList] at found
    exact found inside
  · intro kept candidate found
    exact accepts_substring_caseless_iff.mpr (kept _ (accepts_substring_iff.mp found))

/-- A configured comparison is replaced by one of the same text without regard to case, or by one
that finds it as a part. -/
inductive Spec.Widens : Spec → Spec → Prop where
  | whole (text : String) : Widens ⟨.exact, text, true⟩ ⟨.exact, text, false⟩
  | part {text : String} (settled : Text.SigmasSettled text.toList) :
      Widens ⟨.substring, text, true⟩ ⟨.substring, text, false⟩
  | wholeToPart (text : String) (caseSensitive : Bool) :
      Widens ⟨.exact, text, caseSensitive⟩ ⟨.substring, text, caseSensitive⟩

/-- Widening keeps whether a comparison compiles, and the compiled comparisons widen. -/
theorem Spec.Widens.compile {spec other : Spec} (widens : spec.Widens other) :
    EndAlike (· = ·) Implies spec.compile other.compile := by
  cases widens with
  | whole text => exact .ok (exact_implies_caseless text)
  | part settled => exact .ok ((substring_implies_caseless_iff _).mpr settled)
  | wholeToPart text caseSensitive => exact .ok (exact_implies_substring text caseSensitive)

end Comparison

/-! ## Verdicts -/

/-- The other verdict permits if this one does, and denies only if this one does. -/
structure Verdict.AtMost (one other : Verdict) : Prop where
  permit : one = .permit → other = .permit
  deny : other = .deny → one = .deny

namespace Verdict.AtMost

theorem refl (verdict : Verdict) : verdict.AtMost verdict := ⟨id, id⟩

theorem trans {one two three : Verdict} (first : one.AtMost two) (second : two.AtMost three) :
    one.AtMost three :=
  ⟨fun permits => second.permit (first.permit permits),
    fun denies => first.deny (second.deny denies)⟩

/-- A question that implies another is affirmed only where the other is. -/
theorem ofBool {one other : Bool} (implies : one = true → other = true) :
    (Verdict.ofBool one).AtMost (.ofBool other) := by
  cases one with
  | false => exact ⟨(absurd · (by decide)), fun _ => rfl⟩
  | true =>
      rw [implies rfl]
      exact refl _

/-- Denying turns the order of verdicts around. -/
theorem opposite {one other : Verdict} (atMost : one.AtMost other) :
    other.opposite.AtMost one.opposite := by
  constructor
  · rw [opposite_eq_permit_iff, opposite_eq_permit_iff]
    exact atMost.deny
  · rw [opposite_eq_deny_iff, opposite_eq_deny_iff]
    exact atMost.permit

/-- A combination grows with each of its members. -/
theorem junction {one other : Verdict} (atMost : one.AtMost other) (junction : Junction)
    (before after : List Verdict) :
    (junction.verdict (before ++ one :: after)).AtMost
      (junction.verdict (before ++ other :: after)) := by
  cases junction with
  | all =>
      constructor
      · simp only [Junction.verdict, all_eq_permit_iff, List.forall_mem_append,
          List.forall_mem_cons]
        exact And.imp_right (And.imp_left atMost.permit)
      · simp only [Junction.verdict, all_eq_deny_iff, List.mem_append, List.mem_cons,
          @eq_comm _ Verdict.deny]
        exact Or.imp_right (Or.imp_left atMost.deny)
  | either =>
      constructor
      · simp only [Junction.verdict, any_eq_permit_iff, List.mem_append, List.mem_cons,
          @eq_comm _ Verdict.permit]
        exact Or.imp_right (Or.imp_left atMost.permit)
      · simp only [Junction.verdict, any_eq_deny_iff, List.forall_mem_append,
          List.forall_mem_cons]
        exact And.imp_right (And.imp_left atMost.deny)

end Verdict.AtMost

/-! ## Matchers -/

/-- Some comparisons of a matcher are replaced: by wider ones, or the other way round under an odd
number of negations. -/
inductive Matcher.Widens {κ : Type} (wider : κ → κ → Prop) : Matcher κ → Matcher κ → Prop where
  | refl (matcher : Matcher κ) : Widens wider matcher matcher
  | trans {first second third : Matcher κ} :
      Widens wider first second → Widens wider second third → Widens wider first third
  | value {comparison other : κ} (replaced : wider comparison other) :
      Widens wider (.value comparison) (.value other)
  | scope {comparison other : κ} (replaced : wider comparison other) :
      Widens wider (.scope comparison) (.scope other)
  | party (who : Request.Party) {comparison other : κ} (replaced : wider comparison other) :
      Widens wider (.party who comparison) (.party who other)
  | inside (junction : Junction) (before : List (Matcher κ)) {member other : Matcher κ}
      (after : List (Matcher κ)) : Widens wider member other →
      Widens wider (junction.of (before ++ member :: after))
        (junction.of (before ++ other :: after))
  | insideNot {member other : Matcher κ} :
      Widens wider member other → Widens wider (.not other) (.not member)

/-- A wider comparison accepts a party that the narrower one accepts, and both are without an answer
where the party is unknown. -/
theorem judgeParty_atMost {comparison other : Comparison} (implies : comparison.Implies other)
    (request : Request) (who : Request.Party) :
    (judgeParty request who comparison).AtMost (judgeParty request who other) := by
  unfold judgeParty
  cases request.get? who with
  | none => exact .refl _
  | some actual => exact .ofBool (implies actual)

/-- Widening the comparisons of a matcher, and narrowing those under a negation, widens what it
accepts. -/
theorem Matcher.Widens.eval_atMost {context : Context} {value : Value}
    {matcher other : Matcher Comparison} (widens : matcher.Widens Comparison.Implies other) :
    (matcher.eval context value).AtMost (other.eval context value) := by
  induction widens with
  | refl matcher => exact .refl _
  | trans _ _ first second => exact first.trans second
  | value implies => exact .ofBool implies.any
  | scope implies => exact .ofBool implies.any
  | party who implies => exact judgeParty_atMost implies context.request who
  | inside junction before after _ ih =>
      simp only [Junction.eval_of, List.map_append, List.map_cons]
      exact ih.junction junction _ _
  | insideNot _ ih => exact ih.opposite

/-- A matcher that is widened compiles when the narrower one does, and the compiled ones widen. -/
theorem Matcher.Widens.compile {matcher other : Matcher Comparison.Spec}
    (widens : matcher.Widens Comparison.Spec.Widens other) :
    EndAlike (· = ·) (Matcher.Widens Comparison.Implies) matcher.compile other.compile := by
  induction widens with
  | refl matcher => exact .refl (fun _ => rfl) .refl _
  | trans _ _ first second => exact first.trans .trans .trans second
  | value replaced => exact replaced.compile.bind fun _ _ implies => .ok (.value implies)
  | scope replaced => exact replaced.compile.bind fun _ _ implies => .ok (.scope implies)
  | party who replaced => exact replaced.compile.bind fun _ _ implies => .ok (.party who implies)
  | inside junction before after _ ih =>
      exact compile_inside (fun _ => rfl)
        (fun first last _ _ widens => .inside junction first last widens) ih
  | insideNot _ ih =>
      -- under the negation the wider matcher stands first
      rw [Matcher.compile, Matcher.compile]
      exact (ih.symm .symm id).bind fun _ _ widens => .ok (.insideNot widens)

/-! ## Rules and policies -/

/-- The other rule permits the same, or denies all that this one denies. -/
structure Rule.DeniesMore (rule other : Rule) : Prop where
  attributeId : rule.attributeId = other.attributeId
  denies : rule.denies = other.denies
  permits : rule.denies = false → rule = other
  judges : ∀ context attr value,
    rule.judge context attr value = .permit → other.judge context attr value = .permit

theorem Rule.DeniesMore.refl (rule : Rule) : rule.DeniesMore rule :=
  ⟨rfl, rfl, fun _ => rfl, fun _ _ _ judged => judged⟩

/-- The other policy holds alike and has for each rule one that denies more. -/
structure Policy.DeniesMore (policy other : Policy) : Prop where
  id : policy.id = other.id
  requirement : policy.requirement = other.requirement
  rules : List.Forall₂ Rule.DeniesMore policy.rules other.rules

/-- In two lists that are related item by item each item of the first has a partner in the
second. -/
theorem exists_of_forall₂ {α β : Type} {related : α → β → Prop} {items : List α} {others : List β}
    (each : List.Forall₂ related items others) {item : α} (listed : item ∈ items) :
    ∃ other ∈ others, related item other := by
  induction each with
  | nil => cases listed
  | cons first _ ih =>
      rcases List.mem_cons.mp listed with rfl | among
      · exact ⟨_, List.mem_cons_self, first⟩
      · obtain ⟨other, member, same⟩ := ih among
        exact ⟨other, List.mem_cons_of_mem _ member, same⟩

section Speaking

variable {context : Context} {policies others : List Policy}
  (each : List.Forall₂ Policy.DeniesMore policies others)
include each

/-- What denies a value under the narrower policies denies it under the wider ones. -/
theorem Speaks.denies_more {key : String} {attr : Attribute} {value : Value}
    (speaks : Speaks context policies true key attr value) :
    Speaks context others true key attr value := by
  obtain ⟨policy, listed, applies, rule, member, own, denies, judged⟩ := speaks
  obtain ⟨other, among, more⟩ := exists_of_forall₂ each listed
  obtain ⟨further, inside, wider⟩ := exists_of_forall₂ more.rules member
  exact ⟨other, among, more.requirement ▸ applies, further, inside, wider.attributeId ▸ own,
    wider.denies ▸ denies, wider.judges context attr value judged⟩

/-- What permits a value where more is denied permits it where less is denied. -/
theorem Speaks.permits_before {key : String} {attr : Attribute} {value : Value}
    (speaks : Speaks context others false key attr value) :
    Speaks context policies false key attr value := by
  obtain ⟨other, among, applies, rule, inside, own, permits, judged⟩ := speaks
  obtain ⟨policy, listed, more⟩ := exists_of_forall₂ each.flip among
  obtain ⟨before, member, wider⟩ := exists_of_forall₂ more.rules.flip inside
  have same : before = rule := wider.permits (wider.denies.trans permits)
  exact ⟨policy, listed, more.requirement ▸ applies, before, member, same ▸ own, same ▸ permits,
    same ▸ judged⟩

/-- Where more is denied, no more is released. -/
theorem release_isPartOf_of_deniesMore (attributes : AttributeMap) :
    (release context others attributes).IsPartOf (release context policies attributes) := by
  apply release_isPartOf
  rintro key attr value ⟨permitted, undenied⟩
  exact ⟨permitted.permits_before each, fun denied => undenied (denied.denies_more each)⟩

end Speaking

/-! ## Configurations -/

/-- A rule stays as it is, or denies and has some of its comparisons replaced by wider ones. -/
inductive RuleConfig.DeniesMore : RuleConfig → RuleConfig → Prop where
  | same (config : RuleConfig) : DeniesMore config config
  | widened (id : Option String) (attributeId : String) {matcher other : Matcher Comparison.Spec}
      (widens : matcher.Widens Comparison.Spec.Widens other) :
      DeniesMore ⟨id, attributeId, true, matcher⟩ ⟨id, attributeId, true, other⟩

/-- Rules of a policy deny more. -/
structure PolicyConfig.DeniesMore (config other : PolicyConfig) : Prop where
  id : config.id = other.id
  requirement : config.requirement = other.requirement
  rules : List.Forall₂ RuleConfig.DeniesMore config.rules other.rules

/-- A rule that denies more is built when the other is, with the same error otherwise. -/
theorem RuleConfig.DeniesMore.build {config other : RuleConfig} (more : config.DeniesMore other)
    (policyId : String) (position : Nat) :
    EndAlike (· = ·) Rule.DeniesMore (config.build policyId position)
      (other.build policyId position) := by
  cases more with
  | same config => exact .refl (fun _ => rfl) .refl _
  | widened id attributeId widens =>
      refine widens.compile.bind fun matcher other wider => .ok ⟨rfl, rfl, ?_, ?_⟩
      · intro permits
        cases permits
      · intro context attr value judged
        exact wider.eval_atMost.permit judged

/-- The rules of a policy are built one by one, so the first that fails is the same in both
policies. -/
theorem buildRules_deniesMore {rules others : List RuleConfig}
    (each : List.Forall₂ RuleConfig.DeniesMore rules others) (policyId : String) (position : Nat) :
    EndAlike (· = ·) (List.Forall₂ Rule.DeniesMore) (buildRules policyId position rules)
      (buildRules policyId position others) := by
  induction each generalizing position with
  | nil => exact .ok .nil
  | cons first _ ih =>
      rw [buildRules, buildRules]
      refine (first.build policyId position).bind fun rule other more => ?_
      exact (ih (position + 1)).bind fun rules others rest => .ok (.cons more rest)

/-- A policy that denies more is built when the other is, under the same id. -/
theorem PolicyConfig.DeniesMore.build {config other : PolicyConfig}
    (more : config.DeniesMore other) :
    EndAlike (· = ·) Policy.DeniesMore config.build other.build := by
  rw [PolicyConfig.build, PolicyConfig.build, ← more.id, ← more.requirement]
  by_cases blank : Text.isBlank config.id
  · rw [if_pos blank, if_pos blank]
    exact .error rfl
  · rw [if_neg blank, if_neg blank]
    refine (EndAlike.refl (fun _ => rfl) (fun _ => rfl) config.requirement.compile).bind ?_
    rintro requirement _ rfl
    exact (buildRules_deniesMore more.rules config.id 0).bind fun rules others each =>
      .ok ⟨rfl, rfl, each⟩

/-- The policies of a filter are built one by one, so the first that fails is the same in both
filters. -/
theorem buildPolicies_deniesMore {policies others : List PolicyConfig}
    (each : List.Forall₂ PolicyConfig.DeniesMore policies others) :
    EndAlike (· = ·) (List.Forall₂ Policy.DeniesMore) (buildPolicies policies)
      (buildPolicies others) := by
  induction each with
  | nil => exact .ok .nil
  | cons first _ ih =>
      rw [buildPolicies, buildPolicies]
      refine first.build.bind fun policy other more => ?_
      exact ih.bind fun policies others rest => .ok (.cons more rest)

namespace AttributeFilter

/-- Denying more changes no id, so the same id is found to be repeated. -/
theorem map_id_repeated? {policies others : List Policy}
    (each : List.Forall₂ Policy.DeniesMore policies others) (seen : List String) :
    (repeated? seen policies).map Policy.id = (repeated? seen others).map Policy.id := by
  induction each generalizing seen with
  | nil => rfl
  | cons first _ ih =>
      rw [repeated?, repeated?, ← first.id]
      split
      · exact congrArg some first.id
      · exact ih _

/-- Filters of policies that deny more are refused for the same repeated ids. -/
theorem new?_deniesMore {policies others : List Policy}
    (each : List.Forall₂ Policy.DeniesMore policies others) :
    EndAlike (· = ·)
      (fun filter other => List.Forall₂ Policy.DeniesMore filter.policies other.policies)
      (new? policies) (new? others) := by
  have same := map_id_repeated? each []
  unfold new?
  split <;> rename_i found <;> split <;> rename_i further
  · rw [found, further] at same
    exact .error (congrArg _ (Option.some.inj same))
  · rw [found, further] at same
    cases same
  · rw [found, further] at same
    cases same
  · exact .ok each

end AttributeFilter

/-- A whole text without regard to case accepts what it accepts with regard to it, and a part does
exactly if it settles its sigmas; a part accepts what the whole accepts. With deny rules whose
comparisons are replaced accordingly, a filter is built or fails alike and releases nothing that was
not released before. -/
theorem disregarding_case_accepts_more (text : String) :
    (Comparison.exact text true).Implies (.exact text false) ∧
      ((Comparison.substring text true).Implies (.substring text false) ↔
        Text.SigmasSettled text.toList) ∧
      (∀ caseSensitive,
        (Comparison.exact text caseSensitive).Implies (.substring text caseSensitive)) ∧
      ∀ config other : FilterConfig,
        List.Forall₂ PolicyConfig.DeniesMore config.policies other.policies →
          EndAlike (· = ·) (fun filter wider => ∀ context attributes,
              (wider.filter context attributes).IsPartOf (filter.filter context attributes))
            config.build other.build := by
  refine ⟨Comparison.exact_implies_caseless text, Comparison.substring_implies_caseless_iff text,
    Comparison.exact_implies_substring text, ?_⟩
  intro config other each
  refine (buildPolicies_deniesMore each).bind fun policies others more => ?_
  exact (AttributeFilter.new?_deniesMore more).imp fun filter wider each context attributes =>
    release_isPartOf_of_deniesMore each attributes

/-- All names are released but those in which a text is found. -/
def exceptWhereFound (text : String) (caseSensitive : Bool) : FilterConfig where
  policies := [{
    id := "names"
    rules := [
      { id := some "all", attributeId := "name", matcher := .any },
      { id := some "found", attributeId := "name", deny := true
        matcher := .value { mode := .substring, value := text, caseSensitive } }] }]

/-- The policy that is built for it. -/
def exceptWhereFoundPolicy (text : String) (caseSensitive : Bool) : Policy where
  id := "names"
  requirement context := Requirement.any.eval context
  rules := [
    { id := "all", attributeId := "name", denies := false
      judge := fun context _ value => Matcher.any.eval context value },
    { id := "found", attributeId := "name", denies := true
      judge := fun context _ value =>
        (Matcher.value (.substring text caseSensitive)).eval context value }]

/-- The filter of the example is built, as its one policy and comparison compile. -/
theorem build_exceptWhereFound (text : String) (caseSensitive : Bool) :
    (exceptWhereFound text caseSensitive).build =
      .ok ⟨[exceptWhereFoundPolicy text caseSensitive], List.pairwise_singleton _ _⟩ := by
  have solid : ¬ Text.isBlank "names" = true := by decide
  rw [exceptWhereFound, FilterConfig.build, buildPolicies, PolicyConfig.build, if_neg solid]
  rfl

/-- The attribute with a name. -/
def nameOnly (name : String) : Attribute := { id := "name", values := [.text name] }

/-- The filter of the example keeps a name back exactly where the text is found in it. -/
theorem get?_release_exceptWhereFound (text : String) (caseSensitive : Bool) (context : Context)
    (name : String) :
    (release context [exceptWhereFoundPolicy text caseSensitive]
        (.ofList [("name", nameOnly name)])).get? "name" =
      if (Comparison.substring text caseSensitive).accepts name then none
      else some (nameOnly name) := by
  have stands : (KeyMap.ofList [("name", nameOnly name)]).get? "name" = some (nameOnly name) := rfl
  rw [get?_release_eq_filter, stands, Option.bind_some]
  by_cases found : (Comparison.substring text caseSensitive).accepts name <;>
    simp [exceptWhereFoundPolicy, nameOnly, Survives, Speaks, Requirement.eval, Matcher.eval,
      Value.text?, Verdict.ofBool, found]

/-- Searching without regard to case denies more, provided the text is written in lower case the
same way wherever it stands. -/
theorem exceptWhereFound_deniesMore {text : String} (settled : Text.SigmasSettled text.toList) :
    List.Forall₂ PolicyConfig.DeniesMore (exceptWhereFound text true).policies
      (exceptWhereFound text false).policies :=
  .cons ⟨rfl, rfl, .cons (.same _) (.cons (.widened _ _ (.value (.part settled))) .nil)⟩ .nil

/-- Without regard to case a guest is also withheld whose name begins with a capital, and nothing is
released that was not released before. -/
theorem disregarding_case_accepts_more_guests :
    ∃ filter wider, (exceptWhereFound "guest" true).build = .ok filter ∧
      (exceptWhereFound "guest" false).build = .ok wider ∧
      (∀ context attributes,
        (wider.filter context attributes).IsPartOf (filter.filter context attributes)) ∧
      ∀ context, let attributes := KeyMap.ofList [("name", nameOnly "Guest 1")]
        (filter.filter context attributes).get? "name" = some (nameOnly "Guest 1") ∧
          (wider.filter context attributes).get? "name" = none := by
  have settled : Text.SigmasSettled "guest".toList := Text.sigmasSettled_of_notMem (by decide)
  obtain ⟨-, -, -, switched⟩ := disregarding_case_accepts_more "guest"
  have less := switched _ _ (exceptWhereFound_deniesMore settled)
  rw [build_exceptWhereFound, build_exceptWhereFound] at less
  refine ⟨_, _, build_exceptWhereFound _ _, build_exceptWhereFound _ _, ?_, fun context => ?_⟩
  · cases less with
    | ok less => exact less
  · exact ⟨get?_release_exceptWhereFound "guest" true context "Guest 1",
      get?_release_exceptWhereFound "guest" false context "Guest 1"⟩

/-- A sigma at the end of a word is written in lower case in its own way, so it is not found by the
letter alone. -/
theorem not_accepts_final_sigma : (Comparison.substring "Σ" false).accepts "AΣ" = false := by
  rw [Bool.eq_false_iff, ne_eq, Comparison.accepts_substring_caseless_iff]
  exact @Text.not_infix_behind_A [] [] (by simp [Text.Counts]) rfl

/-- A capital sigma is found at the end of a word with regard to case and not without. A rule that
denies names in which it is found lets such a name through when it disregards case. -/
theorem sigma_found_only_with_regard_to_case :
    (Comparison.substring "Σ" true).accepts "AΣ" = true ∧
      (Comparison.substring "Σ" false).accepts "AΣ" = false ∧
      ∃ filter wider, (exceptWhereFound "Σ" true).build = .ok filter ∧
        (exceptWhereFound "Σ" false).build = .ok wider ∧
        let attributes := KeyMap.ofList [("name", nameOnly "AΣ")]
        (filter.filter ⟨{}, attributes⟩ attributes).get? "name" = none ∧
          (wider.filter ⟨{}, attributes⟩ attributes).get? "name" = some (nameOnly "AΣ") := by
  refine ⟨by decide, not_accepts_final_sigma, _, _, build_exceptWhereFound _ _,
    build_exceptWhereFound _ _, ?_, ?_⟩
  · exact get?_release_exceptWhereFound "Σ" true _ "AΣ"
  · refine (get?_release_exceptWhereFound "Σ" false _ "AΣ").trans ?_
    rw [not_accepts_final_sigma]
    rfl

end AttributeRelease.Filter
