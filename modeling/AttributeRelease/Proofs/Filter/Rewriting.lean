import AttributeRelease.Proofs.Filter.Requirements
import Mathlib.Data.List.Forall2

/-!
# Rewriting matchers

Matchers are rewritten by the laws of their combinations: negations move inwards, combinations of
the same kind are taken together, and members change their order or stand there more than once
(`Matcher.Rewrites`). Rewritten matchers can be built from their configurations or not alike, and
what is built says the same of every value. By such steps each matcher comes to a flat form, in
which only simple tests are negated and no combination is a member of one of its own kind
(`rewriting_keeps_verdicts`).
-/

namespace AttributeRelease.Filter

/-- The two ways to combine tests. -/
inductive Junction where
  | all
  | either

namespace Junction

variable {κ : Type}

/-- The other way. -/
def dual : Junction → Junction
  | .all => .either
  | .either => .all

/-- The matcher that combines others. -/
def of (members : List (Matcher κ)) : Junction → Matcher κ
  | .all => .all members
  | .either => .either members

/-- The verdict that combines others. -/
def verdict (verdicts : List Verdict) : Junction → Verdict
  | .all => .all verdicts
  | .either => .any verdicts

theorem eval_of (context : Context) (value : Value) (junction : Junction)
    (members : List (Matcher Comparison)) :
    (junction.of members).eval context value =
      junction.verdict (members.map (Matcher.eval context value)) := by
  cases junction <;> rw [of, Matcher.eval, Matcher.evalEach_eq_map, verdict]

theorem compile_of (junction : Junction) (members : List (Matcher Comparison.Spec)) :
    (junction.of members).compile =
      Matcher.compileEach members >>= fun compiled => .ok (junction.of compiled) := by
  cases junction <;> rfl

theorem opposite_verdict (junction : Junction) (verdicts : List Verdict) :
    (junction.verdict verdicts).opposite = junction.dual.verdict (verdicts.map .opposite) := by
  cases junction with
  | all => exact Verdict.opposite_all verdicts
  | either => exact Verdict.opposite_any verdicts

/-- A combination among the members of one of its own kind may be replaced by its members. -/
theorem verdict_append_verdict_cons (junction : Junction) (before members after : List Verdict) :
    junction.verdict (before ++ junction.verdict members :: after) =
      junction.verdict (before ++ members ++ after) := by
  cases junction with
  | all => exact Verdict.all_append_all_cons before members after
  | either => exact Verdict.any_append_any_cons before members after

/-- Neither order nor repetition of the members matters to a combination. -/
theorem verdict_eq_of_mem_iff {verdicts others : List Verdict}
    (same : ∀ verdict, verdict ∈ verdicts ↔ verdict ∈ others) (junction : Junction) :
    junction.verdict verdicts = junction.verdict others := by
  cases junction with
  | all => exact Verdict.all_eq_of_mem_iff same
  | either => exact Verdict.any_eq_of_mem_iff same

end Junction

namespace Matcher

variable {κ : Type}

/-- The matcher on the left can be rewritten to the one on the right, by any number of steps
anywhere inside it. -/
inductive Rewrites : Matcher κ → Matcher κ → Prop where
  | refl (matcher : Matcher κ) : Rewrites matcher matcher
  | symm {first second : Matcher κ} : Rewrites first second → Rewrites second first
  | trans {first second third : Matcher κ} :
      Rewrites first second → Rewrites second third → Rewrites first third
  /-- Not all are some not, and not any are all not. -/
  | negated (junction : Junction) (members : List (Matcher κ)) :
      Rewrites (.not (junction.of members)) (junction.dual.of (members.map .not))
  | negatedTwice (member : Matcher κ) : Rewrites (.not (.not member)) member
  /-- A combination among the members of one of its own kind is replaced by its members. -/
  | nested (junction : Junction) (before members after : List (Matcher κ)) :
      Rewrites (junction.of (before ++ junction.of members :: after))
        (junction.of (before ++ members ++ after))
  /-- The members change their order, or how often they stand there. -/
  | reordered (junction : Junction) {members others : List (Matcher κ)}
      (same : ∀ member, member ∈ members ↔ member ∈ others) :
      Rewrites (junction.of members) (junction.of others)
  | insideNot {member other : Matcher κ} :
      Rewrites member other → Rewrites (.not member) (.not other)
  | inside (junction : Junction) (before : List (Matcher κ)) {member other : Matcher κ}
      (after : List (Matcher κ)) : Rewrites member other →
      Rewrites (junction.of (before ++ member :: after)) (junction.of (before ++ other :: after))

/-! ## What is said -/

/-- Rewritten matchers say the same of every value. -/
theorem Rewrites.eval_eq {context : Context} {value : Value} {matcher other : Matcher Comparison}
    (rewrites : Rewrites matcher other) :
    matcher.eval context value = other.eval context value := by
  induction rewrites with
  | refl matcher => rfl
  | symm _ ih => exact ih.symm
  | trans _ _ first second => exact first.trans second
  | negated junction members =>
      rw [eval, Junction.eval_of, Junction.eval_of, Junction.opposite_verdict, List.map_map,
        List.map_map]
      rfl
  | negatedTwice member => rw [eval, eval, Verdict.opposite_opposite]
  | nested junction before members after =>
      simp only [Junction.eval_of, List.map_append, List.map_cons]
      exact junction.verdict_append_verdict_cons _ _ _
  | reordered junction same =>
      rw [Junction.eval_of, Junction.eval_of]
      apply Junction.verdict_eq_of_mem_iff
      simp only [List.mem_map, same, implies_true]
  | insideNot _ ih => rw [eval, eval, ih]
  | inside junction before after _ ih =>
      simp only [Junction.eval_of, List.map_append, List.map_cons, ih]

/-! ## What is built -/

/-- Two steps succeed with related results, or both fail. -/
abbrev BuiltAlike {ε α : Type} (related : α → α → Prop) : Except ε α → Except ε α → Prop :=
  EndAlike (fun _ _ => True) related

/-- Of two steps that end alike either both succeed or neither does. -/
theorem BuiltAlike.exists_ok_iff {ε α : Type} {related : α → α → Prop} {first second : Except ε α}
    (alike : BuiltAlike related first second) :
    (∃ result, first = .ok result) ↔ ∃ result, second = .ok result := by
  cases alike with
  | ok _ => exact ⟨fun _ => ⟨_, rfl⟩, fun _ => ⟨_, rfl⟩⟩
  | error _ => simp

/-- Members are compiled from left to right, up to the first that fails. -/
theorem compileEach_append (members others : List (Matcher Comparison.Spec)) :
    compileEach (members ++ others) = compileEach members >>= fun first =>
      compileEach others >>= fun second => .ok (first ++ second) := by
  induction members with
  | nil =>
      cases h : compileEach others <;> simp [compileEach, h] <;> rfl
  | cons member rest ih =>
      rw [List.cons_append, compileEach, ih, compileEach]
      cases member.compile with
      | error error => rfl
      | ok first =>
          cases compileEach rest with
          | error error => rfl
          | ok more => cases compileEach others <;> rfl

/-- Combinations are built alike where one of their members is. -/
theorem compile_inside {failing : FilterError → FilterError → Prop}
    {related whole : Matcher Comparison → Matcher Comparison → Prop} {junction : Junction}
    {before after : List (Matcher Comparison.Spec)} {member other : Matcher Comparison.Spec}
    (errors : ∀ error, failing error error)
    (inside : ∀ first last built made, related built made →
      whole (junction.of (first ++ built :: last)) (junction.of (first ++ made :: last)))
    (alike : EndAlike failing related member.compile other.compile) :
    EndAlike failing whole (junction.of (before ++ member :: after)).compile
      (junction.of (before ++ other :: after)).compile := by
  simp only [Junction.compile_of, compileEach_append, compileEach, bind_assoc]
  refine (EndAlike.refl errors (fun _ => rfl) _).bind ?_
  rintro first _ rfl
  refine alike.bind fun built made same => ?_
  refine (EndAlike.refl errors (fun _ => rfl) _).bind ?_
  rintro last _ rfl
  exact .ok (inside first last built made same)

/-- Negated members compile exactly if the members do. -/
theorem compileEach_map_not (members : List (Matcher Comparison.Spec)) :
    compileEach (members.map .not) =
      compileEach members >>= fun compiled => .ok (compiled.map .not) := by
  induction members with
  | nil => rfl
  | cons member rest ih =>
      rw [List.map_cons, compileEach, ih, compileEach, compile]
      cases member.compile with
      | error error => rfl
      | ok first => cases compileEach rest <;> rfl

/-- Where each of several matchers is built, all of them are. -/
theorem exists_compileEach {members : List (Matcher Comparison.Spec)}
    (each : ∀ member ∈ members, ∃ compiled, member.compile = .ok compiled) :
    ∃ compiled, compileEach members = .ok compiled := by
  induction members with
  | nil => exact ⟨[], rfl⟩
  | cons member rest ih =>
      obtain ⟨⟨first, head⟩, others⟩ := List.forall_mem_cons.mp each
      obtain ⟨more, tail⟩ := ih others
      exact ⟨first :: more, by rw [compileEach, head, tail]; rfl⟩

/-- What is built of several matchers is what is built of each. -/
theorem mem_of_compileEach {members : List (Matcher Comparison.Spec)}
    {compiled : List (Matcher Comparison)} (built : compileEach members = .ok compiled) :
    (∀ member ∈ members, ∃ result ∈ compiled, member.compile = .ok result) ∧
      ∀ result ∈ compiled, ∃ member ∈ members, member.compile = .ok result := by
  induction members generalizing compiled with
  | nil =>
      cases built
      exact ⟨List.forall_mem_nil _, List.forall_mem_nil _⟩
  | cons member rest ih =>
      obtain ⟨first, head, built⟩ := exists_of_bind_eq_ok built
      obtain ⟨more, tail, built⟩ := exists_of_bind_eq_ok built
      cases built
      obtain ⟨results, members⟩ := ih tail
      constructor
      · refine List.forall_mem_cons.mpr ⟨⟨first, List.mem_cons_self, head⟩, fun other inside => ?_⟩
        obtain ⟨result, listed, made⟩ := results other inside
        exact ⟨result, List.mem_cons_of_mem _ listed, made⟩
      · refine List.forall_mem_cons.mpr ⟨⟨member, List.mem_cons_self, head⟩, fun other inside => ?_⟩
        obtain ⟨result, listed, made⟩ := members other inside
        exact ⟨result, List.mem_cons_of_mem _ listed, made⟩

/-- Of some of the members no more is built than of all. -/
theorem compileEach_of_subset {members others : List (Matcher Comparison.Spec)}
    {compiled : List (Matcher Comparison)} (built : compileEach members = .ok compiled)
    (included : others ⊆ members) : ∃ part, compileEach others = .ok part ∧ part ⊆ compiled := by
  obtain ⟨results, -⟩ := mem_of_compileEach built
  obtain ⟨part, made⟩ : ∃ part, compileEach others = .ok part := by
    apply exists_compileEach
    intro member inside
    obtain ⟨result, -, ready⟩ := results member (included inside)
    exact ⟨result, ready⟩
  refine ⟨part, made, fun result listed => ?_⟩
  obtain ⟨member, inside, ready⟩ := (mem_of_compileEach made).2 result listed
  obtain ⟨same, among, again⟩ := results member (included inside)
  cases ready.symm.trans again
  exact among

/-- Lists with the same members compile or fail together, though perhaps at another member. -/
theorem compileEach_builtAlike {members others : List (Matcher Comparison.Spec)}
    (same : ∀ member, member ∈ members ↔ member ∈ others) :
    BuiltAlike (fun compiled results => ∀ result, result ∈ compiled ↔ result ∈ results)
      (compileEach members) (compileEach others) := by
  have forth : members ⊆ others := fun member => (same member).mp
  have back : others ⊆ members := fun member => (same member).mpr
  cases built : compileEach members with
  | ok compiled =>
      obtain ⟨part, made, fewer⟩ := compileEach_of_subset built back
      obtain ⟨whole, again, more⟩ := compileEach_of_subset made forth
      cases built.symm.trans again
      rw [made]
      exact .ok fun result => ⟨fun listed => more listed, fun listed => fewer listed⟩
  | error error =>
      cases made : compileEach others with
      | ok compiled =>
          obtain ⟨_, again, -⟩ := compileEach_of_subset made forth
          cases built.symm.trans again
      | error other => exact .error trivial

/-- Rewritten matchers are built to rewritten ones, or neither is built. -/
theorem Rewrites.compile {matcher other : Matcher Comparison.Spec}
    (rewrites : Rewrites matcher other) : BuiltAlike Rewrites matcher.compile other.compile := by
  induction rewrites with
  | refl matcher => exact .refl (fun _ => trivial) .refl _
  | symm _ ih => exact ih.symm (fun _ => trivial) .symm
  | trans _ _ first second => exact first.trans (fun _ _ => trivial) .trans second
  | negated junction members =>
      rw [Matcher.compile, Junction.compile_of, Junction.compile_of, compileEach_map_not]
      cases compileEach members with
      | error error => exact .error trivial
      | ok compiled => exact .ok (.negated junction compiled)
  | negatedTwice member =>
      rw [Matcher.compile, Matcher.compile]
      cases member.compile with
      | error error => exact .error trivial
      | ok compiled => exact .ok (.negatedTwice compiled)
  | nested junction before members after =>
      simp only [Junction.compile_of, compileEach_append, compileEach]
      cases compileEach before with
      | error error => exact .error trivial
      | ok first =>
          cases compileEach members with
          | error error => exact .error trivial
          | ok compiled =>
              cases compileEach after with
              | error error => exact .error trivial
              | ok last => exact .ok (.nested junction first compiled last)
  | reordered junction same =>
      rw [Junction.compile_of, Junction.compile_of]
      exact (compileEach_builtAlike same).bind fun compiled others same =>
        .ok (.reordered junction same)
  | insideNot _ ih =>
      rw [Matcher.compile, Matcher.compile]
      exact ih.bind fun compiled other rewrites => .ok (.insideNot rewrites)
  | inside junction before after _ ih =>
      exact compile_inside (fun _ => trivial)
        (fun first last _ _ rewrites => .inside junction first last rewrites) ih

/-! ## Flat matchers -/

/-- A combination is rewritten by rewriting its members one by one. -/
theorem Rewrites.members (junction : Junction) {members others : List (Matcher κ)}
    (each : List.Forall₂ Rewrites members others) :
    Rewrites (junction.of members) (junction.of others) := by
  suffices onward : ∀ before,
      Rewrites (junction.of (before ++ members)) (junction.of (before ++ others)) from onward []
  induction each with
  | nil => exact fun before => .refl _
  | @cons member other rest others first _ ih =>
      intro before
      have further := ih (before ++ [other])
      rw [List.append_assoc, List.append_assoc] at further
      exact (Rewrites.inside junction before rest first).trans further

end Matcher

namespace Junction

/-- The members of a combination of this kind; any other matcher stands for itself. -/
def membersOf {κ : Type} : Junction → Matcher κ → List (Matcher κ)
  | .all, .all members => members
  | .either, .either members => members
  | _, matcher => [matcher]

/-- The way to combine the opposites, where these are asked for. -/
def turned (opposite : Bool) (junction : Junction) : Junction :=
  if opposite then junction.dual else junction

/-- A matcher is a combination of this kind, or stands for itself. -/
theorem membersOf_cases {κ : Type} (junction : Junction) (matcher : Matcher κ) :
    matcher = junction.of (junction.membersOf matcher) ∨
      junction.membersOf matcher = [matcher] ∧ ∀ inner, matcher ≠ junction.of inner := by
  cases junction <;> cases matcher <;> simp [Junction.of, Junction.membersOf]

end Junction

namespace Matcher

/-- A matcher or its opposite. -/
def literal (opposite : Bool) (matcher : Matcher κ) : Matcher κ :=
  if opposite then .not matcher else matcher

mutual

/-- A matcher or its opposite, with negations at simple tests only and with no combination among the
members of one of its own kind. -/
def flatten : (opposite : Bool) → Matcher κ → Matcher κ
  | opposite, .any => literal opposite .any
  | opposite, .value comparison => literal opposite (.value comparison)
  | opposite, .scope comparison => literal opposite (.scope comparison)
  | opposite, .party who comparison => literal opposite (.party who comparison)
  | opposite, .all members =>
    let junction := Junction.all.turned opposite
    junction.of ((flattenEach opposite members).flatMap junction.membersOf)
  | opposite, .either members =>
    let junction := Junction.either.turned opposite
    junction.of ((flattenEach opposite members).flatMap junction.membersOf)
  | opposite, .not member => flatten (!opposite) member

/-- Several matchers or their opposites in this form. -/
def flattenEach : (opposite : Bool) → List (Matcher κ) → List (Matcher κ)
  | _, [] => []
  | opposite, member :: rest => flatten opposite member :: flattenEach opposite rest

end

/-- The members of a combination are flattened each by itself. -/
theorem flattenEach_eq_map (opposite : Bool) (members : List (Matcher κ)) :
    flattenEach opposite members = members.map (flatten opposite) := by
  induction members with
  | nil => rfl
  | cons member rest ih => rw [flattenEach, ih, List.map_cons]

/-- A combination is flattened by flattening its members and then taking in those of its own
kind. -/
theorem flatten_of (opposite : Bool) (junction : Junction) (members : List (Matcher κ)) :
    flatten opposite (junction.of members) =
      (junction.turned opposite).of
        ((members.map (flatten opposite)).flatMap (junction.turned opposite).membersOf) := by
  cases junction <;> rw [Junction.of, flatten, flattenEach_eq_map]

/-- Combinations among the members of one of their own kind are replaced by their members. -/
theorem Rewrites.flatMap_membersOf (junction : Junction) (members : List (Matcher κ)) :
    Rewrites (junction.of members) (junction.of (members.flatMap junction.membersOf)) := by
  suffices onward : ∀ before, Rewrites (junction.of (before ++ members))
      (junction.of (before ++ members.flatMap junction.membersOf)) from onward []
  induction members with
  | nil => exact fun before => .refl _
  | cons member rest ih =>
      intro before
      have first : Rewrites (junction.of (before ++ member :: rest))
          (junction.of (before ++ junction.membersOf member ++ rest)) := by
        rcases junction.membersOf_cases member with combined | ⟨itself, -⟩
        · have step := Rewrites.nested junction before (junction.membersOf member) rest
          rwa [← combined] at step
        · rw [itself, List.append_assoc, List.singleton_append]
          exact .refl _
      have further := ih (before ++ junction.membersOf member)
      rw [List.append_assoc _ _ (rest.flatMap _)] at further
      exact first.trans further

/-- The opposite of a combination is a combination of opposites. -/
theorem rewrites_turned (opposite : Bool) (junction : Junction) (members : List (Matcher κ)) :
    Rewrites (literal opposite (junction.of members))
      ((junction.turned opposite).of (members.map (literal opposite))) := by
  cases opposite with
  | false =>
      have same : literal (κ := κ) false = id := rfl
      rw [same, List.map_id]
      exact .refl _
  | true => exact .negated junction members

/-- Flattening a combination is pushing the negation inside, rewriting the members and dissolving
those of its own kind. -/
theorem rewrites_flatten_of (opposite : Bool) (junction : Junction) {members : List (Matcher κ)}
    (each : ∀ member ∈ members, Rewrites (literal opposite member) (flatten opposite member)) :
    Rewrites (literal opposite (junction.of members)) (flatten opposite (junction.of members)) := by
  have flattened : List.Forall₂ Rewrites (members.map (literal opposite))
      (members.map (flatten opposite)) := by
    rw [List.forall₂_map_left_iff, List.forall₂_map_right_iff, List.forall₂_same]
    exact each
  rw [flatten_of]
  exact ((rewrites_turned opposite junction members).trans (.members _ flattened)).trans
    (.flatMap_membersOf _ _)

/-- Every matcher, and every opposite of one, can be rewritten to a flat form. -/
theorem rewrites_flatten (opposite : Bool) (matcher : Matcher κ) :
    Rewrites (literal opposite matcher) (flatten opposite matcher) := by
  induction matcher generalizing opposite with
  | any => exact .refl _
  | value comparison => exact .refl _
  | scope comparison => exact .refl _
  | party who comparison => exact .refl _
  | all members ih =>
      exact rewrites_flatten_of opposite .all fun member inside => ih member inside opposite
  | either members ih =>
      exact rewrites_flatten_of opposite .either fun member inside => ih member inside opposite
  | not member ih =>
      rw [flatten]
      cases opposite with
      | false => exact ih true
      | true => exact (Rewrites.negatedTwice member).trans (ih false)

/-- Neither a combination nor a negation. -/
def IsSimple : Matcher κ → Prop
  | .all _ => False
  | .either _ => False
  | .not _ => False
  | _ => True

/-- Only simple tests are negated, and no combination is a member of one of its own kind. -/
inductive IsFlat : Matcher κ → Prop where
  | simple {test : Matcher κ} (simple : test.IsSimple) : IsFlat test
  | negated {test : Matcher κ} (simple : test.IsSimple) : IsFlat (.not test)
  | combined (junction : Junction) {members : List (Matcher κ)}
      (flat : ∀ member ∈ members, IsFlat member)
      (apart : ∀ member ∈ members, ∀ inner, member ≠ junction.of inner) :
      IsFlat (junction.of members)

/-- A simple test and its negation are flat. -/
theorem isFlat_literal (opposite : Bool) {test : Matcher κ} (simple : test.IsSimple) :
    IsFlat (literal opposite test) := by
  cases opposite with
  | false => exact .simple simple
  | true => exact .negated simple

/-- The members of a flat combination are flat and of another kind. -/
theorem IsFlat.members {junction : Junction} {members : List (Matcher κ)}
    (flat : IsFlat (junction.of members)) :
    ∀ member ∈ members, IsFlat member ∧ ∀ inner, member ≠ junction.of inner := by
  generalize combination : junction.of members = matcher at flat
  cases flat with
  | simple simple => cases junction <;> cases combination <;> cases simple
  | negated simple => cases junction <;> cases combination
  | @combined other others flat apart =>
      obtain ⟨rfl, rfl⟩ : junction = other ∧ members = others := by
        cases junction <;> cases other <;> cases combination <;> exact ⟨rfl, rfl⟩
      exact fun member inside => ⟨flat member inside, apart member inside⟩

/-- Taking in the members of flat combinations of the same kind leaves none of that kind. -/
theorem isFlat_flatMap_membersOf (junction : Junction) {members : List (Matcher κ)}
    (flat : ∀ member ∈ members, IsFlat member) :
    IsFlat (junction.of (members.flatMap junction.membersOf)) := by
  have each : ∀ member ∈ members.flatMap junction.membersOf,
      IsFlat member ∧ ∀ inner, member ≠ junction.of inner := by
    intro member listed
    obtain ⟨whole, inside, among⟩ := List.mem_flatMap.mp listed
    rcases junction.membersOf_cases whole with combined | ⟨itself, apart⟩
    · exact (combined ▸ flat whole inside).members member among
    · rw [itself, List.mem_singleton] at among
      exact among ▸ ⟨flat whole inside, apart⟩
  exact .combined junction (fun member listed => (each member listed).1)
    fun member listed => (each member listed).2

theorem isFlat_flatten_of (opposite : Bool) (junction : Junction) {members : List (Matcher κ)}
    (each : ∀ member ∈ members, IsFlat (flatten opposite member)) :
    IsFlat (flatten opposite (junction.of members)) := by
  rw [flatten_of]
  exact isFlat_flatMap_membersOf _ (List.forall_mem_map.mpr each)

/-- Whatever the matcher and whether or not it is negated, its flattened form is flat. -/
theorem isFlat_flatten (opposite : Bool) (matcher : Matcher κ) :
    IsFlat (flatten opposite matcher) := by
  induction matcher generalizing opposite with
  | any => exact isFlat_literal opposite trivial
  | value comparison => exact isFlat_literal opposite trivial
  | scope comparison => exact isFlat_literal opposite trivial
  | party who comparison => exact isFlat_literal opposite trivial
  | all members ih =>
      exact isFlat_flatten_of opposite .all fun member inside => ih member inside opposite
  | either members ih =>
      exact isFlat_flatten_of opposite .either fun member inside => ih member inside opposite
  | not member ih => exact ih !opposite

/-- Rewritten matchers are built or not alike, and what is built says the same of every value in
every context. Each matcher can be rewritten to a flat form. -/
theorem rewriting_keeps_verdicts {config other : Matcher Comparison.Spec}
    (rewrites : Rewrites config other) :
    ((∃ matcher, config.compile = .ok matcher) ↔ ∃ matcher, other.compile = .ok matcher) ∧
      (∀ matcher rewritten, config.compile = .ok matcher → other.compile = .ok rewritten →
        ∀ context value, matcher.eval context value = rewritten.eval context value) ∧
      Rewrites config (flatten false config) ∧ (flatten false config).IsFlat := by
  refine ⟨?_, ?_, rewrites_flatten false config, isFlat_flatten false config⟩
  · exact rewrites.compile.exists_ok_iff
  · intro matcher rewritten built made context value
    have alike := rewrites.compile
    rw [built, made] at alike
    cases alike with
    | ok same => exact same.eval_eq

/-- No guest from elsewhere: neither of another scope nor the gatekeeper. -/
def strangerRule : Matcher Comparison.Spec :=
  .not (.all [.value { value := "guest" },
    .either [.either [.scope { value := "other.example" }],
      .not (.not (.party .principal { value := "gatekeeper" }))]])

/-- The same rule in a flat form, with its tests in another order and one of them twice. -/
def strangerRuleFlat : Matcher Comparison.Spec :=
  .either [
    .all [.not (.scope { value := "other.example" }),
      .not (.party .principal { value := "gatekeeper" })],
    .not (.value { value := "guest" }), .not (.value { value := "guest" })]

theorem strangerRule_rewrites : Rewrites strangerRule strangerRuleFlat := by
  have flat : Rewrites strangerRule (Junction.either.of [_, _]) :=
    rewrites_flatten false strangerRule
  refine flat.trans (.reordered .either fun member => ?_)
  simp only [List.mem_cons, List.not_mem_nil, or_false, or_self]
  exact or_comm

/-- Both say of a guest that it is none from elsewhere once the principal is known, and have no
opinion before. -/
theorem rewriting_keeps_verdicts_stranger :
    Rewrites strangerRule strangerRuleFlat ∧
      flatten false strangerRule = .either [.not (.value { value := "guest" }),
        .all [.not (.scope { value := "other.example" }),
          .not (.party .principal { value := "gatekeeper" })]] ∧
      ∃ matcher rewritten, strangerRule.compile = .ok matcher ∧
        strangerRuleFlat.compile = .ok rewritten ∧
        rewritten.eval ⟨namedVisit, staffOnly⟩ (.text "guest") = .permit ∧
        rewritten.eval ⟨anonymousVisit, staffOnly⟩ (.text "guest") = .indeterminate := by
  obtain ⟨_, same, _⟩ := rewriting_keeps_verdicts strangerRule_rewrites
  have said := same _ _ rfl rfl
  refine ⟨strangerRule_rewrites, rfl, _, _, rfl, rfl, ?_, ?_⟩
  · exact (said _ _).symm.trans (by decide)
  · exact (said _ _).symm.trans (by decide)

end Matcher

end AttributeRelease.Filter
