import AttributeRelease.Proofs.Filter.Verdicts

/-!
# Requirements and matchers

A requirement made of tests on parties alone and a matcher of the same shape (`Mirrors`) are built
alike and say the same, the matcher of any value whatever (`requirements_agree_with_matchers`). A
requirement that searches all attributes for a value is one that searches them key by key.
-/

namespace AttributeRelease

/-! ## Steps that end alike -/

/-- Two steps succeed with related results, or fail with related errors. -/
inductive EndAlike {ε α β : Type} (failing : ε → ε → Prop) (related : α → β → Prop) :
    Except ε α → Except ε β → Prop where
  | ok {result : α} {other : β} (same : related result other) :
      EndAlike failing related (.ok result) (.ok other)
  | error {error other : ε} (same : failing error other) :
      EndAlike failing related (.error error) (.error other)

namespace EndAlike

variable {ε α β γ δ : Type} {failing : ε → ε → Prop}

theorem refl {related : α → α → Prop} (errors : ∀ error, failing error error)
    (results : ∀ result, related result result) (step : Except ε α) :
    EndAlike failing related step step := by
  cases step with
  | ok result => exact .ok (results result)
  | error error => exact .error (errors error)

/-- Steps that end alike may be followed by steps that end alike for related results. -/
theorem bind {related : α → β → Prop} {agreeing : γ → δ → Prop} {first : Except ε α}
    {second : Except ε β} {next : α → Except ε γ} {onward : β → Except ε δ}
    (alike : EndAlike failing related first second)
    (further : ∀ result other, related result other →
      EndAlike failing agreeing (next result) (onward other)) :
    EndAlike failing agreeing (first >>= next) (second >>= onward) := by
  cases alike with
  | ok same => exact further _ _ same
  | error same => exact .error same

theorem imp {related agreeing : α → β → Prop} {first : Except ε α} {second : Except ε β}
    (results : ∀ result other, related result other → agreeing result other)
    (alike : EndAlike failing related first second) : EndAlike failing agreeing first second := by
  cases alike with
  | ok same => exact .ok (results _ _ same)
  | error same => exact .error same

theorem symm {related : α → β → Prop} {agreeing : β → α → Prop} {first : Except ε α}
    {second : Except ε β} (errors : ∀ {one two}, failing one two → failing two one)
    (results : ∀ {result other}, related result other → agreeing other result)
    (alike : EndAlike failing related first second) : EndAlike failing agreeing second first := by
  cases alike with
  | ok same => exact .ok (results same)
  | error same => exact .error (errors same)

/-- Steps that end like a third one end alike. -/
theorem trans {related : α → α → Prop} {first second third : Except ε α}
    (errors : ∀ {one two three}, failing one two → failing two three → failing one three)
    (results : ∀ {one two three}, related one two → related two three → related one three)
    (alike : EndAlike failing related first second)
    (onward : EndAlike failing related second third) : EndAlike failing related first third := by
  cases alike with
  | ok same =>
      cases onward with
      | ok further => exact .ok (results same further)
  | error same =>
      cases onward with
      | error further => exact .error (errors same further)

end EndAlike

namespace Filter

/-! ## Trees of the same shape -/

/-- A requirement and a matcher are made in the same way of tests on parties. -/
inductive Mirrors {κ : Type} : Requirement κ → Matcher κ → Prop where
  | any : Mirrors .any .any
  | party (who : Request.Party) (comparison : κ) :
      Mirrors (.party who comparison) (.party who comparison)
  | all {requirements : List (Requirement κ)} {matchers : List (Matcher κ)}
      (each : List.Forall₂ Mirrors requirements matchers) :
      Mirrors (.all requirements) (.all matchers)
  | either {requirements : List (Requirement κ)} {matchers : List (Matcher κ)}
      (each : List.Forall₂ Mirrors requirements matchers) :
      Mirrors (.either requirements) (.either matchers)
  | not {requirement : Requirement κ} {matcher : Matcher κ} (member : Mirrors requirement matcher) :
      Mirrors (.not requirement) (.not matcher)

namespace Mirrors

/-- Members that say the same one by one say the same together. -/
theorem evalEach_eq {context : Context} {value : Value}
    {requirements : List (Requirement Comparison)} {matchers : List (Matcher Comparison)}
    (each : List.Forall₂ Mirrors requirements matchers)
    (agree : ∀ requirement ∈ requirements, ∀ matcher, Mirrors requirement matcher →
      requirement.eval context = matcher.eval context value) :
    Requirement.evalEach context requirements = Matcher.evalEach context value matchers := by
  induction each with
  | nil => rfl
  | cons first _ ih =>
      obtain ⟨head, rest⟩ := List.forall_mem_cons.mp agree
      rw [Requirement.evalEach, Matcher.evalEach, head _ first, ih rest]

/-- What is said does not depend on the value that the matcher is asked about. -/
theorem eval_eq {context : Context} {value : Value} {requirement : Requirement Comparison}
    {matcher : Matcher Comparison} (mirrors : Mirrors requirement matcher) :
    requirement.eval context = matcher.eval context value := by
  induction requirement generalizing matcher with
  | any =>
      cases mirrors
      rfl
  | party who comparison =>
      cases mirrors
      rfl
  | attributeValue attributeId tested => cases mirrors
  | all members ih =>
      cases mirrors with
      | all each =>
          rw [Requirement.eval, Matcher.eval, evalEach_eq each fun r inside m => ih r inside]
  | either members ih =>
      cases mirrors with
      | either each =>
          rw [Requirement.eval, Matcher.eval, evalEach_eq each fun r inside m => ih r inside]
  | not member ih =>
      cases mirrors with
      | not inner => rw [Requirement.eval, Matcher.eval, ih inner]

/-- Mirrored members compile one by one, up to the first that fails. -/
theorem compileEach {requirements : List (Requirement Comparison.Spec)}
    {matchers : List (Matcher Comparison.Spec)} (each : List.Forall₂ Mirrors requirements matchers)
    (alike : ∀ requirement ∈ requirements, ∀ matcher, Mirrors requirement matcher →
      EndAlike (· = ·) Mirrors requirement.compile matcher.compile) :
    EndAlike (· = ·) (List.Forall₂ Mirrors) (Requirement.compileEach requirements)
      (Matcher.compileEach matchers) := by
  induction each with
  | nil => exact .ok .nil
  | cons first _ ih =>
      obtain ⟨head, rest⟩ := List.forall_mem_cons.mp alike
      rw [Requirement.compileEach, Matcher.compileEach]
      refine (head _ first).bind fun requirement matcher built => ?_
      exact (ih rest).bind fun requirements matchers others => .ok (.cons built others)

/-- Both are built, again as trees of the same shape, or both fail with the same error. -/
theorem compile {requirement : Requirement Comparison.Spec} {matcher : Matcher Comparison.Spec}
    (mirrors : Mirrors requirement matcher) :
    EndAlike (· = ·) Mirrors requirement.compile matcher.compile := by
  induction requirement generalizing matcher with
  | any =>
      cases mirrors
      exact .ok .any
  | party who spec =>
      cases mirrors
      rw [Requirement.compile, Matcher.compile]
      refine (EndAlike.refl (fun _ => rfl) (fun _ => rfl) spec.compile).bind ?_
      rintro comparison _ rfl
      exact .ok (.party who comparison)
  | attributeValue attributeId tested => cases mirrors
  | all members ih =>
      cases mirrors with
      | all each =>
          rw [Requirement.compile, Matcher.compile]
          exact (compileEach each fun r inside m => ih r inside).bind fun _ _ built =>
            .ok (.all built)
  | either members ih =>
      cases mirrors with
      | either each =>
          rw [Requirement.compile, Matcher.compile]
          exact (compileEach each fun r inside m => ih r inside).bind fun _ _ built =>
            .ok (.either built)
  | not member ih =>
      cases mirrors with
      | not inner =>
          rw [Requirement.compile, Matcher.compile]
          exact (ih inner).bind fun _ _ built => .ok (.not built)

end Mirrors

/-! ## Searching the attributes -/

/-- Some value of some attribute gets a verdict. -/
def Matcher.Finds (matcher : Matcher Comparison) (context : Context) (verdict : Verdict) : Prop :=
  ∃ attr ∈ context.attributes.values, ∃ value ∈ attr.values, matcher.eval context value = verdict

instance {matcher : Matcher Comparison} {context : Context} {verdict : Verdict} :
    Decidable (matcher.Finds context verdict) :=
  inferInstanceAs (Decidable (∃ attr ∈ context.attributes.values, _))

namespace Requirement

variable (context : Context) (matcher : Matcher Comparison)

/-- All attributes are searched as they are searched key by key. -/
theorem eval_attributeValue_none : eval context (.attributeValue none matcher) =
    eval context (.either (context.attributes.keys.map fun id =>
      .attributeValue (some id) matcher)) := by
  rw [eval, eval, evalEach_eq_map, KeyMap.values, KeyMap.keys, List.map_map, List.map_map,
    List.map_map]
  congr 1
  refine List.map_congr_left fun entry listed => ?_
  have found := (context.attributes.mem_entries_iff entry.1 entry.2).mp listed
  simp only [Function.comp_apply, eval, found]

/-- A search permits when it finds a value that is permitted, else has no opinion when it finds one
without, else denies. -/
theorem eval_attributeValue_none_eq_ite : eval context (.attributeValue none matcher) =
    if matcher.Finds context .permit then .permit
    else if matcher.Finds context .indeterminate then .indeterminate else .deny := by
  have among : ∀ verdict, matcher.Finds context verdict ↔
      verdict ∈ (context.attributes.values.map fun attr =>
        attr.values.map (matcher.eval context)).flatten := by
    intro verdict
    simp only [Matcher.Finds, List.mem_flatten, List.mem_map, exists_exists_and_eq_and]
  have judged : context.attributes.values.map (judgeAttribute (matcher.eval context)) =
      (context.attributes.values.map fun attr => attr.values.map (matcher.eval context)).map
        Verdict.any := by
    rw [List.map_map]
    rfl
  rw [eval, judged, Verdict.any_map_any, Verdict.any_eq_ite]
  simp only [among]

end Requirement

/-- Of trees of the same shape, the requirement says of the context what the matcher says of any
value, and both are built from their configurations or fail alike. A search through all attributes
is one for each key: it permits when some value is permitted, else has no opinion when there is none
on some value, else denies. -/
theorem requirements_agree_with_matchers (context : Context) :
    (∀ (requirement : Requirement Comparison) matcher, Mirrors requirement matcher → ∀ value,
        requirement.eval context = matcher.eval context value) ∧
      (∀ (requirement : Requirement Comparison.Spec) matcher, Mirrors requirement matcher →
        EndAlike (· = ·) Mirrors requirement.compile matcher.compile) ∧
      ∀ matcher : Matcher Comparison,
        let search := Requirement.attributeValue none matcher
        search.eval context =
            (Requirement.either (context.attributes.keys.map fun id =>
              .attributeValue (some id) matcher)).eval context ∧
          search.eval context =
            if matcher.Finds context .permit then .permit
            else if matcher.Finds context .indeterminate then .indeterminate else .deny := by
  refine ⟨?_, ?_, ?_⟩
  · intro requirement matcher mirrors value
    exact mirrors.eval_eq
  · intro requirement matcher mirrors
    exact mirrors.compile
  · intro matcher search
    exact ⟨Requirement.eval_attributeValue_none context matcher,
      Requirement.eval_attributeValue_none_eq_ite context matcher⟩

/-- The requester is right, and the principal is neither the administrator nor unknown. -/
def deskRequirement : Requirement Comparison.Spec :=
  .all [.party .requester { value := "https://sp.example" },
    .not (.either [.party .principal { value := "admin" }, .either []])]

/-- The same as a test on values. -/
def deskMatcher : Matcher Comparison.Spec :=
  .all [.party .requester { value := "https://sp.example" },
    .not (.either [.party .principal { value := "admin" }, .either []])]

theorem deskRequirement_mirrors : Mirrors deskRequirement deskMatcher :=
  .all (.cons (.party _ _) (.cons (.not (.either (.cons (.party _ _) (.cons (.either .nil) .nil))))
    .nil))

/-- Both permit once the principal is known and have no opinion before. A value that is not `guest`
is found among all attributes as it is under its key; whether the principal is the administrator,
asked of every value, cannot be told as long as it is unknown. -/
theorem requirements_agree_with_matchers_visit :
    Mirrors deskRequirement deskMatcher ∧
      (∃ requirement matcher, deskRequirement.compile = .ok requirement ∧
        deskMatcher.compile = .ok matcher ∧ Mirrors requirement matcher ∧
        requirement.eval ⟨namedVisit, staffOnly⟩ = .permit ∧
        matcher.eval ⟨namedVisit, staffOnly⟩ (.text "guest") = .permit ∧
        requirement.eval ⟨anonymousVisit, staffOnly⟩ = .indeterminate) ∧
      (Requirement.either [.attributeValue (some "affiliation")
        (.not (.value (.exact "guest" true)))]).eval ⟨anonymousVisit, staffOnly⟩ = .permit ∧
      (Requirement.attributeValue none (.party .principal (.exact "admin" true))).eval
        ⟨anonymousVisit, staffOnly⟩ = .indeterminate := by
  obtain ⟨named, builds, -⟩ := requirements_agree_with_matchers ⟨namedVisit, staffOnly⟩
  obtain ⟨-, -, searches⟩ := requirements_agree_with_matchers ⟨anonymousVisit, staffOnly⟩
  obtain ⟨requirement, matcher, ready, prepared, built⟩ : ∃ requirement matcher,
      deskRequirement.compile = .ok requirement ∧ deskMatcher.compile = .ok matcher ∧
        Mirrors requirement matcher := by
    refine ⟨_, _, rfl, rfl, ?_⟩
    cases builds _ _ deskRequirement_mirrors with
    | ok same => exact same
  have said := named requirement matcher built (.text "guest")
  have keywise := (searches (.not (.value (.exact "guest" true)))).1
  have doubtful := (searches (.party .principal (.exact "admin" true))).2
  cases ready
  cases prepared
  refine ⟨deskRequirement_mirrors, ⟨_, _, rfl, rfl, built, ?_, ?_, ?_⟩, ?_, ?_⟩
  · exact said.trans (by decide)
  · decide
  · decide
  · exact keywise.symm.trans (by decide)
  · exact doubtful.trans (by decide)

end Filter

end AttributeRelease
