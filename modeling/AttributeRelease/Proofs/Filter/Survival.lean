import AttributeRelease.Filter.Release
import Mathlib.Data.List.Basic

/-!
# Which values are released

A value survives when a rule of some policy that applies permits it and no rule of a policy that
applies denies it. The table of marks says of each value which rules spoke of it
(`MarkTable.Tallies`), whatever the order of policies and rules and however often a rule stands
there; the values released are exactly those that survive (`get?_release_eq_filter`).
-/

namespace AttributeRelease.Filter

variable {context : Context} {policies : List Policy} {attributes : AttributeMap}

/-- A rule that holds for the attribute under a key permits or denies one of its values. -/
def Speaks (context : Context) (policies : List Policy) (denies : Bool) (key : String)
    (attr : Attribute) (value : Value) : Prop :=
  ∃ policy ∈ policies, policy.requirement context = .permit ∧
    ∃ rule ∈ policy.rules, rule.attributeId = key ∧ rule.denies = denies ∧
      rule.judge context attr value = .permit

instance {denies : Bool} {key : String} {attr : Attribute} {value : Value} :
    Decidable (Speaks context policies denies key attr value) :=
  inferInstanceAs (Decidable (∃ policy ∈ policies, _))

/-- A value is permitted by some rule and denied by none. -/
def Survives (context : Context) (policies : List Policy) (key : String) (attr : Attribute)
    (value : Value) : Prop :=
  Speaks context policies false key attr value ∧ ¬ Speaks context policies true key attr value

instance {key : String} {attr : Attribute} {value : Value} :
    Decidable (Survives context policies key attr value) :=
  inferInstanceAs (Decidable (_ ∧ _))

/-- The values that survive depend on what is said of each and on nothing else. -/
theorem filter_survives_congr {others : List Policy} {key : String} {attr other : Attribute}
    (same : ∀ value, Survives context policies key attr value ↔
      Survives context others key other value) (values : List Value) :
    (values.filter fun value => Survives context policies key attr value) =
      values.filter fun value => Survives context others key other value :=
  List.filter_congr fun value _ => decide_eq_decide.mpr (same value)

/-! ## What rules say of one value -/

/-- Whether one of several rules for a key permits or denies a value. -/
def anySpeaks (context : Context) (rules : List Rule) (denies : Bool) (key : String)
    (attr : Attribute) (value : Value) : Bool :=
  rules.any fun rule => rule.attributeId == key && rule.denies == denies &&
    rule.judge context attr value == .permit

/-- The mark that several rules give to a value of the attribute under a key. -/
def markOf (context : Context) (rules : List Rule) (key : String) (attr : Attribute)
    (value : Value) : Mark :=
  ⟨anySpeaks context rules false key attr value, anySpeaks context rules true key attr value⟩

/-- The rules that hold, in the order in which they are applied. -/
def activeRules (context : Context) (policies : List Policy) : List Rule :=
  (policies.filter (Policy.applies context)).flatMap Policy.rules

theorem anySpeaks_append {first second : List Rule} {denies : Bool} {key : String}
    {attr : Attribute} {value : Value} :
    anySpeaks context (first ++ second) denies key attr value =
      (anySpeaks context first denies key attr value ||
        anySpeaks context second denies key attr value) :=
  List.any_append

/-- A rule for the key adds its verdict to the mark. -/
theorem markOf_append_for {rules : List Rule} {rule : Rule} {attr : Attribute} {value : Value} :
    markOf context (rules ++ [rule]) rule.attributeId attr value =
      (markOf context rules rule.attributeId attr value).add rule.denies
        (rule.judge context attr value) := by
  simp only [markOf, anySpeaks_append]
  cases verdict : rule.judge context attr value <;> cases denies : rule.denies <;>
    simp [anySpeaks, Mark.add, verdict, denies]

/-- A rule for another key leaves the mark as it is. -/
theorem markOf_append_other {rules : List Rule} {rule : Rule} {key : String} {attr : Attribute}
    {value : Value} (other : rule.attributeId ≠ key) :
    markOf context (rules ++ [rule]) key attr value = markOf context rules key attr value := by
  simp [markOf, anySpeaks, other]

theorem speaks_iff_anySpeaks {denies : Bool} {key : String} {attr : Attribute} {value : Value} :
    Speaks context policies denies key attr value ↔
      anySpeaks context (activeRules context policies) denies key attr value := by
  simp only [Speaks, anySpeaks, activeRules, Policy.applies, Verdict.isPermit, List.any_eq_true,
    List.mem_flatMap, List.mem_filter, Bool.and_eq_true, beq_iff_eq]
  constructor
  · rintro ⟨policy, listed, applies, rule, member, forKey, kind, permits⟩
    exact ⟨rule, ⟨policy, ⟨listed, applies⟩, member⟩, ⟨forKey, kind⟩, permits⟩
  · rintro ⟨rule, ⟨policy, ⟨listed, applies⟩, member⟩, ⟨forKey, kind⟩, permits⟩
    exact ⟨policy, listed, applies, rule, member, forKey, kind, permits⟩

/-- The rules that hold release the values that survive. -/
theorem releases_markOf_iff {key : String} {attr : Attribute} {value : Value} :
    (markOf context (activeRules context policies) key attr value).releases ↔
      Survives context policies key attr value := by
  rw [Survives, speaks_iff_anySpeaks, speaks_iff_anySpeaks]
  simp [markOf, Mark.releases]

/-! ## The table of marks -/

/-- The table has for each value the mark that some rules give to it. -/
def MarkTable.Tallies (context : Context) (attributes : AttributeMap) (table : MarkTable)
    (rules : List Rule) : Prop :=
  ∀ key attr, attributes.get? key = some attr →
    table.marksOf key attr = attr.values.map (markOf context rules key attr)

theorem tallies_empty : MarkTable.Tallies context attributes ∅ [] := by
  intro key attr _
  have blank : markOf context [] key attr = fun _ => {} := rfl
  rw [blank, List.map_const']
  rfl

/-- One more rule is tallied, for every value of the attribute it is for and for no other. -/
theorem MarkTable.Tallies.markRule {table : MarkTable} {rules : List Rule}
    (tallies : table.Tallies context attributes rules) (rule : Rule) :
    (markRule context attributes table rule).Tallies context attributes (rules ++ [rule]) := by
  intro key attr found
  rw [Filter.markRule]
  by_cases forKey : rule.attributeId = key
  · subst forKey
    rw [found]
    change MarkTable.marksOf (table.insert _ _) _ _ = _
    rw [MarkTable.marksOf, KeyMap.get?_insert, if_pos rfl, Option.getD_some, markValues,
      tallies rule.attributeId attr found, List.zipWith_map_left, List.zipWith_self]
    exact List.map_congr_left fun value _ => markOf_append_for.symm
  · have unchanged : attr.values.map (markOf context (rules ++ [rule]) key attr) =
        attr.values.map (markOf context rules key attr) :=
      List.map_congr_left fun value _ => markOf_append_other forKey
    rw [unchanged, ← tallies key attr found]
    cases attributes.get? rule.attributeId with
    | none => rfl
    | some other => simp only [MarkTable.marksOf, KeyMap.get?_insert, forKey, ↓reduceIte]

theorem MarkTable.Tallies.markRules {table : MarkTable} {rules : List Rule}
    (tallies : table.Tallies context attributes rules) (more : List Rule) :
    (more.foldl (Filter.markRule context attributes) table).Tallies context attributes
      (rules ++ more) := by
  induction more generalizing table rules with
  | nil => simpa using tallies
  | cons rule rest ih =>
      have onward := ih (tallies.markRule rule)
      rwa [List.append_assoc, List.singleton_append] at onward

/-- The rules of a policy are tallied if it applies. -/
theorem MarkTable.Tallies.markPolicy {table : MarkTable} {rules : List Rule}
    (tallies : table.Tallies context attributes rules) (policy : Policy) :
    (Filter.markPolicy context attributes table policy).Tallies context attributes
      (rules ++ activeRules context [policy]) := by
  rw [Filter.markPolicy]
  by_cases applies : policy.applies context
  · simpa [applies, activeRules] using tallies.markRules policy.rules
  · simpa [applies, activeRules] using tallies

/-- All policies together tally the rules that hold. -/
theorem tallies_markAll (context : Context) (policies : List Policy) (attributes : AttributeMap) :
    (markAll context policies attributes).Tallies context attributes
      (activeRules context policies) := by
  suffices onward : ∀ (policies : List Policy) (table : MarkTable) (rules : List Rule),
      table.Tallies context attributes rules →
        (policies.foldl (markPolicy context attributes) table).Tallies context attributes
          (rules ++ activeRules context policies) from onward policies ∅ [] tallies_empty
  intro policies
  induction policies with
  | nil =>
      intro table rules tallies
      simpa [activeRules] using tallies
  | cons policy rest ih =>
      intro table rules tallies
      have split : activeRules context (policy :: rest) =
          activeRules context [policy] ++ activeRules context rest := by
        by_cases applies : policy.applies context <;> simp [activeRules, applies]
      rw [split, ← List.append_assoc]
      exact ih _ _ (tallies.markPolicy policy)

/-! ## Released values -/

/-- Values are released by their own marks, in order. -/
theorem releasedValues_map (mark : Value → Mark) (values : List Value) :
    releasedValues (values.map mark) values = values.filter fun value => (mark value).releases := by
  induction values with
  | nil => rfl
  | cons value rest ih =>
      rw [releasedValues] at ih
      by_cases released : (mark value).releases <;> simp [releasedValues, released, ih]

/-- An attribute that no rule is for is withheld like one whose marks are blank. -/
theorem releaseAttribute_eq (table : MarkTable) (key : String) (attr : Attribute) :
    releaseAttribute table key attr =
      match releasedValues (table.marksOf key attr) attr.values with
      | [] => none
      | values => some { attr with values } := by
  rw [releaseAttribute, MarkTable.marksOf]
  cases table.get? key with
  | some marks => rfl
  | none =>
      have blank : releasedValues (List.replicate attr.values.length {}) attr.values = [] := by
        rw [← List.map_const', releasedValues_map]
        simp [Mark.releases]
      rw [Option.getD_none, blank]

/-- The attribute with the values that survive, if there are any. -/
def survivors? (context : Context) (policies : List Policy) (key : String) (attr : Attribute) :
    Option Attribute :=
  match attr.values.filter fun value => Survives context policies key attr value with
  | [] => none
  | values => some { attr with values }

/-- Under each key what survives of the attribute there is released. -/
theorem get?_release (context : Context) (policies : List Policy) (attributes : AttributeMap)
    (key : String) :
    (release context policies attributes).get? key =
      (attributes.get? key).bind (survivors? context policies key) := by
  rw [release, KeyMap.get?_filterMap]
  cases found : attributes.get? key with
  | none => rfl
  | some attr =>
      have marks := tallies_markAll context policies attributes key attr found
      have values :
          releasedValues ((markAll context policies attributes).marksOf key attr) attr.values =
            attr.values.filter fun value => Survives context policies key attr value := by
        rw [marks, releasedValues_map]
        refine List.filter_congr fun value _ => ?_
        rw [Bool.eq_iff_iff, releases_markOf_iff, decide_eq_true_iff]
      rw [Option.bind_some, Option.bind_some, releaseAttribute_eq, values, survivors?]

/-- What is released under a key is the attribute there with exactly the values that survive, in
their order and as often as they stand there, and with all else as it is. Where no value survives,
nothing is released under the key. -/
theorem get?_release_eq_filter (context : Context) (policies : List Policy)
    (attributes : AttributeMap) (key : String) :
    (release context policies attributes).get? key =
      (attributes.get? key).bind fun attr =>
        if ∃ value ∈ attr.values, Survives context policies key attr value then
          some { attr with values :=
            attr.values.filter fun value => Survives context policies key attr value }
        else none := by
  rw [get?_release]
  congr 1
  funext attr
  rw [survivors?]
  split
  · rename_i nothing
    rw [if_neg]
    rintro ⟨value, member, survives⟩
    exact List.filter_eq_nil_iff.mp nothing value member (decide_eq_true survives)
  · rename_i something
    rw [if_pos]
    obtain ⟨value, kept⟩ := List.exists_mem_of_ne_nil _ something
    obtain ⟨member, survives⟩ := List.mem_filter.mp kept
    exact ⟨value, member, of_decide_eq_true survives⟩

/-- What is released under a key is the attribute there with some of its values. -/
theorem exists_of_get?_release {key : String} {attr : Attribute}
    (released : (release context policies attributes).get? key = some attr) :
    ∃ own values, attributes.get? key = some own ∧ attr = { own with values } ∧
      values ⊆ own.values := by
  rw [get?_release_eq_filter, Option.bind_eq_some_iff] at released
  obtain ⟨own, listed, kept⟩ := released
  split at kept
  · cases kept
    exact ⟨own, _, listed, rfl, List.filter_subset_self _⟩
  · cases kept

end AttributeRelease.Filter
