import AttributeRelease.Filter.Config
import AttributeRelease.Proofs.Filter.Survival

/-!
# Value by value

The rules that are built from a configuration judge a value by itself, whatever attribute it stands
in and whatever other values stand beside it (`buildPolicies_judgeValues`). So what is released
under a key are the values there that pass one fixed test (`get?_release_of_judgeValues`). Releasing
twice is releasing once, maps without common keys can be released apart, and repeated values can be
removed before or after (`release_valuewise`).
-/

namespace AttributeRelease

/-! ## Unions -/

namespace KeyMap

variable {α : Type}

/-- No key is in both maps. -/
def Disjoint (first second : KeyMap α) : Prop :=
  ∀ key, first.get? key = none ∨ second.get? key = none

/-- The entries of both maps; those of the first count where a key is in both. -/
def union (first second : KeyMap α) : KeyMap α :=
  first.entries.foldr (fun entry map => map.insert entry.1 entry.2) second

/-- In a union the first map has precedence. -/
theorem get?_union (first second : KeyMap α) (key : String) :
    (first.union second).get? key = (first.get? key).or (second.get? key) := by
  obtain ⟨entries, sorted⟩ := first
  simp only [union, get?]
  clear sorted
  induction entries with
  | nil => rfl
  | cons entry rest ih =>
      rw [List.foldr_cons, lookupEntry]
      change (KeyMap.insert _ _ _).get? key = _
      rw [get?_insert]
      by_cases same : entry.1 = key
      · rw [if_pos same, if_pos same, Option.some_or]
      · rw [if_neg same, if_neg same]
        exact ih

end KeyMap

/-! ## Repeated values -/

/-- Elements that fail a test can be dropped before or after repeated ones. -/
theorem filter_eraseDups {α : Type} [BEq α] [LawfulBEq α] (keeps : α → Bool) :
    ∀ list : List α, list.eraseDups.filter keeps = (list.filter keeps).eraseDups
  | [] => rfl
  | head :: rest => by
      have onward := filter_eraseDups keeps (rest.filter fun item => !item == head)
      rw [List.eraseDups_cons]
      by_cases kept : keeps head = true
      · rw [List.filter_cons_of_pos kept, List.filter_cons_of_pos kept, List.eraseDups_cons,
          onward, List.filter_comm]
      · -- no element that is kept equals the head
        have others : ((rest.filter keeps).filter fun item => !item == head) =
            rest.filter keeps := by
          apply List.filter_eq_self.mpr
          intro item member
          rw [Bool.not_eq_true', beq_eq_false_iff_ne]
          rintro rfl
          exact kept (List.of_mem_filter member)
        rw [List.filter_cons_of_neg kept, List.filter_cons_of_neg kept, onward, List.filter_comm,
          others]
termination_by list => list.length
decreasing_by exact Nat.lt_succ_of_le (List.length_filter_le _ _)

/-- The attribute with each of its values once, where it stands first. -/
def Attribute.withoutRepeats (attr : Attribute) : Attribute :=
  { attr with values := attr.values.eraseDups }

/-- All attributes with each of their values once. -/
def AttributeMap.withoutRepeats (attributes : AttributeMap) : AttributeMap :=
  attributes.mapValues fun _ => Attribute.withoutRepeats

/-! ## Values that pass a test -/

/-- The attribute with the values that pass a test, if there are any. -/
def Attribute.keeping? (keeps : Value → Bool) (attr : Attribute) : Option Attribute :=
  if attr.values.filter keeps = [] then none
  else some { attr with values := attr.values.filter keeps }

namespace Attribute

variable (keeps : Value → Bool) (attr : Attribute)

/-- Values that have passed a test pass it again. -/
theorem keeping?_keeping? : (attr.keeping? keeps).bind (keeping? keeps) = attr.keeping? keeps := by
  unfold keeping?
  by_cases nothing : attr.values.filter keeps = []
  · rw [if_pos nothing]
    rfl
  · rw [if_neg nothing, Option.bind_some]
    simp only [List.filter_filter, Bool.and_self, if_neg nothing]

/-- A test judges equal values alike, so repeats may be left out before it or behind it. -/
theorem keeping?_withoutRepeats :
    attr.withoutRepeats.keeping? keeps = (attr.keeping? keeps).map withoutRepeats := by
  unfold keeping? withoutRepeats
  simp only [filter_eraseDups]
  by_cases nothing : attr.values.filter keeps = []
  · rw [if_pos nothing, nothing]
    rfl
  · have something : (attr.values.filter keeps).eraseDups ≠ [] := by
      obtain ⟨value, kept⟩ := List.exists_mem_of_ne_nil _ nothing
      exact List.ne_nil_of_mem (List.mem_eraseDups.mpr kept)
    rw [if_neg nothing, if_neg something]
    rfl

end Attribute

namespace Filter

/-! ## Rules that are built -/

/-- A rule judges a value in the same way in every attribute. -/
def Rule.JudgesValues (rule : Rule) : Prop :=
  ∀ context attr other value, rule.judge context attr value = rule.judge context other value

/-- A rule that is built asks its matcher, which is given the value and not the attribute. -/
theorem RuleConfig.build_judgesValues {config : RuleConfig} {policyId : String} {position : Nat}
    {rule : Rule} (built : config.build policyId position = .ok rule) : rule.JudgesValues := by
  obtain ⟨matcher, -, made⟩ := exists_of_bind_eq_ok built
  cases made
  intro context attr other value
  rfl

/-- All rules of a policy that are built judge values by themselves. -/
theorem buildRules_judgeValues {policyId : String} {position : Nat} {configs : List RuleConfig}
    {rules : List Rule} (built : buildRules policyId position configs = .ok rules) :
    ∀ rule ∈ rules, rule.JudgesValues := by
  induction configs generalizing position rules with
  | nil =>
      cases built
      exact List.forall_mem_nil _
  | cons config rest ih =>
      obtain ⟨first, head, built⟩ := exists_of_bind_eq_ok built
      obtain ⟨others, tail, built⟩ := exists_of_bind_eq_ok built
      cases built
      exact List.forall_mem_cons.mpr ⟨RuleConfig.build_judgesValues head, ih tail⟩

/-- A policy that is built has the rules that are built for it and no others. -/
theorem PolicyConfig.build_judgeValues {config : PolicyConfig} {policy : Policy}
    (built : config.build = .ok policy) : ∀ rule ∈ policy.rules, rule.JudgesValues := by
  unfold PolicyConfig.build at built
  dsimp only at built
  split at built
  · cases built
  obtain ⟨requirement, -, built⟩ := exists_of_bind_eq_ok built
  obtain ⟨rules, made, built⟩ := exists_of_bind_eq_ok built
  cases built
  exact buildRules_judgeValues made

/-- All rules of policies that are built judge values by themselves. -/
theorem buildPolicies_judgeValues {configs : List PolicyConfig} {policies : List Policy}
    (built : buildPolicies configs = .ok policies) :
    ∀ policy ∈ policies, ∀ rule ∈ policy.rules, rule.JudgesValues := by
  induction configs generalizing policies with
  | nil =>
      cases built
      exact List.forall_mem_nil _
  | cons config rest ih =>
      obtain ⟨first, head, built⟩ := exists_of_bind_eq_ok built
      obtain ⟨others, tail, built⟩ := exists_of_bind_eq_ok built
      cases built
      exact List.forall_mem_cons.mpr ⟨PolicyConfig.build_judgeValues head, ih tail⟩

/-! ## What such rules release -/

/-- Attributes under different keys are released apart from each other. -/
theorem release_union {context : Context} {policies : List Policy}
    {first second : AttributeMap} (disjoint : first.Disjoint second) :
    release context policies (first.union second) =
      (release context policies first).union (release context policies second) := by
  apply KeyMap.ext_get?
  intro key
  rw [KeyMap.get?_union, get?_release, get?_release, get?_release, KeyMap.get?_union]
  rcases disjoint key with absent | absent
  · rw [absent, Option.none_or, Option.bind_none, Option.none_or]
  · rw [absent, Option.or_none, Option.bind_none, Option.or_none]

section Release

variable {context : Context} {policies : List Policy}
  (judgeValues : ∀ policy ∈ policies, ∀ rule ∈ policy.rules, rule.JudgesValues)
include judgeValues

/-- Whether a rule speaks on a value does not depend on the attribute that has it. -/
theorem speaks_iff_of_judgeValues {denies : Bool} {key : String} {attr other : Attribute}
    {value : Value} :
    Speaks context policies denies key attr value ↔
      Speaks context policies denies key other value := by
  refine exists_congr fun policy => and_congr_right fun listed => and_congr_right fun _ => ?_
  refine exists_congr fun rule => and_congr_right fun member => ?_
  rw [judgeValues policy listed rule member context attr other value]

/-- Whether a value survives does not depend on the other values beside it. -/
theorem survives_iff_of_judgeValues {key : String} {attr other : Attribute} {value : Value} :
    Survives context policies key attr value ↔ Survives context policies key other value :=
  and_congr (speaks_iff_of_judgeValues judgeValues)
    (not_congr (speaks_iff_of_judgeValues judgeValues))

variable (context) in
/-- Under a key, those values are released that pass one test, the same for every attribute. -/
theorem get?_release_of_judgeValues (key : String) : ∃ keeps : Value → Bool, ∀ attributes,
    (release context policies attributes).get? key =
      (attributes.get? key).bind (Attribute.keeping? keeps) := by
  let blank : Attribute := { id := "" }
  refine ⟨fun value => Survives context policies key blank value, fun attributes => ?_⟩
  rw [get?_release]
  congr 1
  funext attr
  have tested : (attr.values.filter fun value => Survives context policies key attr value) =
      attr.values.filter fun value => Survives context policies key blank value :=
    filter_survives_congr (fun _ => survives_iff_of_judgeValues judgeValues) attr.values
  rw [survivors?, tested, Attribute.keeping?]
  cases attr.values.filter fun value => Survives context policies key blank value with
  | nil => rfl
  | cons value rest => rfl

/-- What was released is released again as a whole. -/
theorem release_release (attributes : AttributeMap) :
    release context policies (release context policies attributes) =
      release context policies attributes := by
  apply KeyMap.ext_get?
  intro key
  obtain ⟨keeps, released⟩ := get?_release_of_judgeValues context judgeValues key
  rw [released, released, Option.bind_assoc]
  congr 1
  funext attr
  exact attr.keeping?_keeping? keeps

/-- Repeats may be left out before the filter or behind it. -/
theorem release_withoutRepeats (attributes : AttributeMap) :
    release context policies attributes.withoutRepeats =
      (release context policies attributes).withoutRepeats := by
  apply KeyMap.ext_get?
  intro key
  obtain ⟨keeps, released⟩ := get?_release_of_judgeValues context judgeValues key
  rw [released, AttributeMap.withoutRepeats, AttributeMap.withoutRepeats, KeyMap.get?_mapValues,
    KeyMap.get?_mapValues, released]
  cases attributes.get? key with
  | none => rfl
  | some attr => exact attr.keeping?_withoutRepeats keeps

end Release

/-- Under policies that are built from configurations, and for one context: what is released is
released again as it is; maps without common keys are released together as they are apart; and
removing repeated values first or last leaves the same. -/
theorem release_valuewise {configs : List PolicyConfig} {policies : List Policy}
    (built : buildPolicies configs = .ok policies) (context : Context) :
    (∀ attributes, release context policies (release context policies attributes) =
        release context policies attributes) ∧
      (∀ first second : AttributeMap, first.Disjoint second →
        release context policies (first.union second) =
          (release context policies first).union (release context policies second)) ∧
      ∀ attributes : AttributeMap, release context policies attributes.withoutRepeats =
        (release context policies attributes).withoutRepeats := by
  have judgeValues := buildPolicies_judgeValues built
  refine ⟨release_release judgeValues, ?_, release_withoutRepeats judgeValues⟩
  intro first second disjoint
  exact release_union disjoint

/-- Affiliations but for guests are released, and mail to a requester. -/
def campusPolicies : List PolicyConfig := [
  { id := "affiliations"
    rules := [
      { id := some "all", attributeId := "affiliation", matcher := .any },
      { id := some "guests", attributeId := "affiliation", deny := true,
        matcher := .value { value := "guest" } }] },
  { id := "mail"
    requirement := .party .requester { value := "https://sp.example" }
    rules := [{ id := some "own", attributeId := "mail", matcher := .not (.not .any) }] }]

/-- Affiliations, one of them twice. -/
def campusAffiliations : AttributeMap := .ofList [("affiliation",
  { id := "affiliation", values := [.text "staff", .text "guest", .text "staff"] })]

def campusMail : AttributeMap := .ofList [("mail",
  { id := "mail", values := [.text "jsmith@north.example", .text "js@north.example"] })]

def campusContext : Context where
  request := { requester := some "https://sp.example" }
  attributes := campusAffiliations

theorem release_valuewise_campus :
    ∃ policies, buildPolicies campusPolicies = .ok policies ∧
      campusAffiliations.Disjoint campusMail ∧
      release campusContext policies (campusAffiliations.union campusMail) =
        (release campusContext policies campusAffiliations).union campusMail ∧
      release campusContext policies (release campusContext policies campusAffiliations) =
        .ofList [("affiliation",
          { id := "affiliation", values := [.text "staff", .text "staff"] })] ∧
      release campusContext policies campusAffiliations.withoutRepeats =
        .ofList [("affiliation", { id := "affiliation", values := [.text "staff"] })] := by
  have disjoint : campusAffiliations.Disjoint campusMail := by
    intro key
    by_cases same : "affiliation" = key
    · subst same
      exact .inr rfl
    · exact .inl (if_neg same)
  obtain ⟨policies, built⟩ : ∃ policies, buildPolicies campusPolicies = .ok policies := ⟨_, rfl⟩
  obtain ⟨twice, together, once⟩ := release_valuewise built campusContext
  cases built
  refine ⟨_, rfl, disjoint, ?_, ?_, ?_⟩
  · rw [together _ _ disjoint]
    rfl
  · rw [twice]
    rfl
  · rw [once]
    rfl

end Filter

end AttributeRelease
