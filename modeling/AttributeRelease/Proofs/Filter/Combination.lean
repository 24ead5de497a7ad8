import AttributeRelease.Proofs.Filter.Survival
import Mathlib.Data.List.Perm.Basic

/-!
# How policies combine

What a list of policies releases depends on which rules there are under which requirements, and
neither on their order nor on how often they stand there. Policies that only permit can be added
without anything being withheld that was released, and policies that only deny without anything
being released that was withheld (`release_order_free_and_monotone`).
-/

namespace AttributeRelease

/-- All that is in one map is in another as well, whose attributes may have more values between
those. -/
def AttributeMap.IsPartOf (part whole : AttributeMap) : Prop :=
  ∀ key attr, part.get? key = some attr →
    ∃ values, attr.values.Sublist values ∧ whole.get? key = some { attr with values }

namespace Filter

variable {context : Context} {policies others : List Policy} {attributes : AttributeMap}

/-- The same policy but for the order of its rules. -/
structure Policy.SameButOrder (policy other : Policy) : Prop where
  id : policy.id = other.id
  requirement : policy.requirement = other.requirement
  rules : policy.rules.Perm other.rules

/-- No rule of the policy denies. -/
def Policy.OnlyPermits (policy : Policy) : Prop := ∀ rule ∈ policy.rules, rule.denies = false

/-- All rules of the policy deny. -/
def Policy.OnlyDenies (policy : Policy) : Prop := ∀ rule ∈ policy.rules, rule.denies = true

/-! ## What is said by which policies -/

/-- Each policy stands among others with its requirement and at least its rules. -/
def Covered (policies others : List Policy) : Prop :=
  ∀ policy ∈ policies, ∃ other ∈ others,
    policy.requirement = other.requirement ∧ ∀ rule ∈ policy.rules, rule ∈ other.rules

theorem covered_of_subset (included : ∀ policy ∈ policies, policy ∈ others) :
    Covered policies others :=
  fun policy listed => ⟨policy, included policy listed, rfl, fun _ member => member⟩

theorem Policy.SameButOrder.symm {policy other : Policy} (same : policy.SameButOrder other) :
    other.SameButOrder policy :=
  ⟨same.id.symm, same.requirement.symm, same.rules.symm⟩

/-- The order of rules within a policy does not matter to what covers it. -/
theorem covered_of_sameButOrder (reordered : List.Forall₂ Policy.SameButOrder policies others) :
    Covered policies others := by
  induction reordered with
  | nil => exact List.forall_mem_nil _
  | @cons policy other rest rest' same _ ih =>
      rw [Covered, List.forall_mem_cons]
      constructor
      · exact ⟨other, List.mem_cons_self, same.requirement, fun _ => same.rules.mem_iff.mp⟩
      · intro policy listed
        obtain ⟨other, among, covers⟩ := ih policy listed
        exact ⟨other, List.mem_cons_of_mem _ among, covers⟩

section Speaking

variable {denies : Bool} {key : String} {attr : Attribute} {value : Value}

/-- What is said by some policies is said by those that cover them. -/
theorem Speaks.mono (speaks : Speaks context policies denies key attr value)
    (covered : Covered policies others) : Speaks context others denies key attr value := by
  obtain ⟨policy, listed, applies, rule, member, saying⟩ := speaks
  obtain ⟨other, among, same, includes⟩ := covered policy listed
  exact ⟨other, among, same ▸ applies, rule, includes rule member, saying⟩

theorem speaks_append_iff :
    Speaks context (policies ++ others) denies key attr value ↔
      Speaks context policies denies key attr value ∨
        Speaks context others denies key attr value := by
  simp only [Speaks, List.mem_append, or_and_right, exists_or]

theorem not_speaks_of_onlyPermits (permits : ∀ policy ∈ policies, policy.OnlyPermits) :
    ¬ Speaks context policies true key attr value := by
  rintro ⟨policy, listed, -, rule, member, -, denying, -⟩
  cases denying.symm.trans (permits policy listed rule member)

theorem not_speaks_of_onlyDenies (denying : ∀ policy ∈ policies, policy.OnlyDenies) :
    ¬ Speaks context policies false key attr value := by
  rintro ⟨policy, listed, -, rule, member, -, permitting, -⟩
  cases permitting.symm.trans (denying policy listed rule member)

end Speaking

/-! ## What is released by which policies -/

/-- An attribute is kept exactly if some value survives, and then with the values that do, in their
order. -/
theorem survivors?_eq_some_iff {key : String} {attr kept : Attribute} :
    survivors? context policies key attr = some kept ↔
      (attr.values.filter fun value => Survives context policies key attr value) ≠ [] ∧
        kept = { attr with values :=
          attr.values.filter fun value => Survives context policies key attr value } := by
  unfold survivors?
  cases attr.values.filter fun value => Survives context policies key attr value with
  | nil => simp
  | cons value rest => simp [eq_comm]

/-- Where more survives, at least as much is released. -/
theorem release_isPartOf
    (survive : ∀ key attr value, Survives context policies key attr value →
      Survives context others key attr value) :
    (release context policies attributes).IsPartOf (release context others attributes) := by
  intro key kept released
  rw [get?_release, Option.bind_eq_some_iff] at released
  obtain ⟨attr, found, survivors⟩ := released
  obtain ⟨something, rfl⟩ := survivors?_eq_some_iff.mp survivors
  have longer : (attr.values.filter fun value => Survives context policies key attr value).Sublist
      (attr.values.filter fun value => Survives context others key attr value) := by
    apply List.monotone_filter_right
    intro value survives
    exact decide_eq_true (survive key attr value (of_decide_eq_true survives))
  refine ⟨_, longer, ?_⟩
  rw [get?_release, found, Option.bind_some, survivors?_eq_some_iff]
  exact ⟨fun nothing => something (List.sublist_nil.mp (nothing ▸ longer)), rfl⟩

/-- Policies that cover each other release the same. -/
theorem release_eq_of_covered (covered : Covered policies others) (back : Covered others policies) :
    release context policies attributes = release context others attributes := by
  apply KeyMap.ext_get?
  intro key
  rw [get?_release, get?_release]
  congr 1
  funext attr
  have same : ∀ denies value, Speaks context policies denies key attr value ↔
      Speaks context others denies key attr value := by
    intro denies value
    exact ⟨fun speaks => speaks.mono covered, fun speaks => speaks.mono back⟩
  have survive : ∀ value, Survives context policies key attr value ↔
      Survives context others key attr value :=
    fun value => and_congr (same false value) (not_congr (same true value))
  rw [survivors?, filter_survives_congr survive, survivors?]

/-- The order of the policies does not matter. -/
theorem release_perm (reordered : policies.Perm others) :
    release context policies attributes = release context others attributes :=
  release_eq_of_covered (covered_of_subset fun _ => reordered.mem_iff.mp)
    (covered_of_subset fun _ => reordered.mem_iff.mpr)

/-- The order of the rules within the policies does not matter. -/
theorem release_sameButOrder (reordered : List.Forall₂ Policy.SameButOrder policies others) :
    release context policies attributes = release context others attributes :=
  release_eq_of_covered (covered_of_sameButOrder reordered)
    (covered_of_sameButOrder (reordered.imp fun _ _ same => same.symm).flip)

/-- A policy that is there already changes nothing where it stands once more. -/
theorem release_repeated {policy : Policy} (listed : policy ∈ policies ++ others) :
    release context (policies ++ policy :: others) attributes =
      release context (policies ++ others) attributes := by
  rw [release_perm List.perm_middle]
  apply release_eq_of_covered
  · exact covered_of_subset (List.cons_subset.mpr ⟨listed, List.Subset.refl _⟩)
  · exact covered_of_subset fun _ => List.mem_cons_of_mem policy

/-- Further policies that only permit leave all that is released. -/
theorem isPartOf_release_of_onlyPermits (permits : ∀ policy ∈ others, policy.OnlyPermits) :
    (release context policies attributes).IsPartOf
      (release context (policies ++ others) attributes) := by
  apply release_isPartOf
  rintro key attr value ⟨permitted, undenied⟩
  rw [Survives, speaks_append_iff, speaks_append_iff]
  refine ⟨.inl permitted, ?_⟩
  rintro (denied | denied)
  · exact undenied denied
  · exact not_speaks_of_onlyPermits permits denied

/-- Further policies that only deny release nothing. -/
theorem release_isPartOf_of_onlyDenies (denying : ∀ policy ∈ others, policy.OnlyDenies) :
    (release context (policies ++ others) attributes).IsPartOf
      (release context policies attributes) := by
  apply release_isPartOf
  intro key attr value
  rw [Survives, speaks_append_iff, speaks_append_iff]
  rintro ⟨permitted, undenied⟩
  refine ⟨permitted.resolve_right (not_speaks_of_onlyDenies denying), ?_⟩
  intro denied
  exact undenied (.inl denied)

/-- Policies in another order, policies whose rules are in another order, and policies of which one
stands there once more release the same. Wherever further policies are put in, all that was
released still is if they only permit, and nothing else is if they only deny. -/
theorem release_order_free_and_monotone (context : Context) (policies : List Policy)
    (attributes : AttributeMap) :
    (∀ others, policies.Perm others →
        release context others attributes = release context policies attributes) ∧
      (∀ others, List.Forall₂ Policy.SameButOrder policies others →
        release context others attributes = release context policies attributes) ∧
      (∀ before after policy, policies = before ++ after → policy ∈ policies →
        release context (before ++ policy :: after) attributes =
          release context policies attributes) ∧
      (∀ further others, (policies ++ further).Perm others →
        (∀ policy ∈ further, policy.OnlyPermits) →
          (release context policies attributes).IsPartOf (release context others attributes)) ∧
      ∀ further others, (policies ++ further).Perm others →
        (∀ policy ∈ further, policy.OnlyDenies) →
          (release context others attributes).IsPartOf (release context policies attributes) := by
  refine ⟨?_, ?_, ?_, ?_, ?_⟩
  · intro others reordered
    exact (release_perm reordered).symm
  · intro others reordered
    exact (release_sameButOrder reordered).symm
  · rintro before after policy rfl listed
    exact release_repeated listed
  · intro further others added permits
    rw [← release_perm added]
    exact isPartOf_release_of_onlyPermits permits
  · intro further others added denying
    rw [← release_perm added]
    exact release_isPartOf_of_onlyDenies denying

/-- Any requester gets affiliations and, if it is named, mail. -/
def openPolicy : Policy where
  id := "open"
  requirement _ := .permit
  rules := [
    { id := "affiliations", attributeId := "affiliation", denies := false
      judge := fun _ _ _ => .permit },
    { id := "mail", attributeId := "mail", denies := false
      judge := fun context _ _ => .ofBool context.request.requester.isSome }]

/-- The same policy with its rules in the other order. -/
def openMailFirst : Policy := { openPolicy with rules := openPolicy.rules.reverse }

/-- Guests are withheld. -/
def guestBan : Policy where
  id := "guests"
  requirement _ := .permit
  rules := [{
    id := "guests", attributeId := "affiliation", denies := true
    judge := fun _ _ value => .ofBool (value.text? == some "guest") }]

theorem openPolicy_onlyPermits : openPolicy.OnlyPermits := by
  intro rule member
  simp only [openPolicy, List.mem_cons, List.not_mem_nil, or_false] at member
  rcases member with rfl | rfl
  · rfl
  · rfl

theorem guestBan_onlyDenies : guestBan.OnlyDenies := by
  intro rule member
  cases List.mem_singleton.mp member
  rfl

def libraryAttributes : AttributeMap := .ofList [
  ("affiliation", { id := "affiliation", values := [.text "staff", .text "guest"] }),
  ("mail", { id := "mail", values := [.text "js@north.example"] })]

def libraryContext : Context where
  request := { requester := some "https://library.example" }
  attributes := libraryAttributes

theorem release_order_free_and_monotone_library :
    release libraryContext [guestBan, openPolicy] libraryAttributes =
        release libraryContext [openPolicy, guestBan] libraryAttributes ∧
      release libraryContext [openMailFirst] libraryAttributes = libraryAttributes ∧
      release libraryContext [openPolicy, guestBan, openPolicy] libraryAttributes =
        release libraryContext [openPolicy, guestBan] libraryAttributes ∧
      (release libraryContext [guestBan] libraryAttributes).IsPartOf
        (release libraryContext [openPolicy, guestBan] libraryAttributes) ∧
      (release libraryContext [guestBan, openPolicy] libraryAttributes).IsPartOf
        (release libraryContext [openPolicy] libraryAttributes) := by
  obtain ⟨reordered, -, repeated, -, -⟩ :=
    release_order_free_and_monotone libraryContext [openPolicy, guestBan] libraryAttributes
  obtain ⟨-, sameButOrder, -, -, denied⟩ :=
    release_order_free_and_monotone libraryContext [openPolicy] libraryAttributes
  obtain ⟨-, -, -, permitted, -⟩ :=
    release_order_free_and_monotone libraryContext [guestBan] libraryAttributes
  refine ⟨?_, ?_, ?_, ?_, ?_⟩
  · exact reordered _ (.swap guestBan openPolicy [])
  · have same : openPolicy.SameButOrder openMailFirst := ⟨rfl, rfl, (List.reverse_perm _).symm⟩
    rw [sameButOrder _ (.cons same .nil)]
    rfl
  · exact repeated [openPolicy, guestBan] [] openPolicy rfl List.mem_cons_self
  · apply permitted [openPolicy] _ (.swap openPolicy guestBan [])
    exact List.forall_mem_singleton.mpr openPolicy_onlyPermits
  · apply denied [guestBan] _ (.swap guestBan openPolicy [])
    exact List.forall_mem_singleton.mpr guestBan_onlyDenies

end Filter

end AttributeRelease
