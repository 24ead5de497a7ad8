import AttributeRelease.Filter.Config
import Mathlib.Data.List.Basic

/-!
# Opinions and what is known of a request

A test has no opinion only where it looks at a party that the request does not name. The verdicts of
its members combine in such a way that an opinion, once there is one, stands whatever else comes to
be known of the request, and that there is one as soon as all parties are named
(`opinions_stand`). Both are relations between verdicts that combinations keep
(`Verdict.IsCompatible`), so they lead from what is said of parties to what trees of tests say.
-/

namespace AttributeRelease

/-- A request names every party that another one names, and in the same way. -/
def Request.Extends (more less : Request) : Prop :=
  ∀ party id, less.get? party = some id → more.get? party = some id

/-- A request names all parties. -/
def Request.IsComplete (request : Request) : Prop := ∀ party, ∃ id, request.get? party = some id

namespace Filter

namespace Verdict

/-! ## Relations that combinations keep -/

/-- A relation between verdicts holds of combinations when it holds of what is combined. -/
structure IsCompatible (related : Verdict → Verdict → Prop) : Prop where
  permit : related .permit .permit
  deny : related .deny .deny
  opposite : ∀ {before after}, related before after → related before.opposite after.opposite
  both : ∀ {first second first' second'}, related first first' → related second second' →
    related (both first second) (both first' second')

theorem opposite_opposite (verdict : Verdict) : verdict.opposite.opposite = verdict := by
  cases verdict <;> rfl

theorem either_eq_opposite_both (first second : Verdict) :
    either first second = (both first.opposite second.opposite).opposite := by
  cases first <;> cases second <;> rfl

/-- Any of several verdicts is the opposite of all their opposites. -/
theorem any_eq_opposite_all (verdicts : List Verdict) :
    any verdicts = (all (verdicts.map opposite)).opposite := by
  suffices onward : ∀ start : Verdict, verdicts.foldl either start =
      ((verdicts.map opposite).foldl both start.opposite).opposite from onward .deny
  induction verdicts with
  | nil => exact fun start => (opposite_opposite start).symm
  | cons verdict rest ih =>
      intro start
      rw [List.foldl_cons, ih, either_eq_opposite_both, opposite_opposite, List.map_cons,
        List.foldl_cons]

namespace IsCompatible

variable {related : Verdict → Verdict → Prop} (compatible : IsCompatible related)
  {α : Type} {members : List α} {before after : α → Verdict}
include compatible

theorem ofBool (matched : Bool) : related (Verdict.ofBool matched) (Verdict.ofBool matched) := by
  cases matched with
  | true => exact compatible.permit
  | false => exact compatible.deny

theorem all (each : ∀ member ∈ members, related (before member) (after member)) :
    related (Verdict.all (members.map before)) (Verdict.all (members.map after)) := by
  suffices onward : ∀ start start', related start start' →
      related ((members.map before).foldl Verdict.both start)
        ((members.map after).foldl Verdict.both start') from onward _ _ compatible.permit
  induction members with
  | nil => exact fun start start' begun => begun
  | cons member rest ih =>
      obtain ⟨first, others⟩ := List.forall_mem_cons.mp each
      intro start start' begun
      exact ih others _ _ (compatible.both begun first)

/-- Disjunctions are related member by member, being opposites of conjunctions of opposites. -/
theorem any (each : ∀ member ∈ members, related (before member) (after member)) :
    related (Verdict.any (members.map before)) (Verdict.any (members.map after)) := by
  rw [any_eq_opposite_all, any_eq_opposite_all, List.map_map, List.map_map]
  apply compatible.opposite
  apply compatible.all
  intro member inside
  exact compatible.opposite (each member inside)

end IsCompatible

end Verdict

section Requests

variable {related : Verdict → Verdict → Prop} (compatible : Verdict.IsCompatible related)
  (less more : Request) {attributes : AttributeMap}
  (parties : ∀ who comparison,
    related (judgeParty less who comparison) (judgeParty more who comparison))
include compatible parties

/-- Under two requests, what a matcher says of a value is related as what is said of parties is. -/
theorem Matcher.eval_related (value : Value) (matcher : Matcher Comparison) :
    related (matcher.eval ⟨less, attributes⟩ value) (matcher.eval ⟨more, attributes⟩ value) := by
  induction matcher with
  | any => exact compatible.permit
  | value comparison => exact compatible.ofBool _
  | scope comparison => exact compatible.ofBool _
  | party who comparison => exact parties who comparison
  | all members ih =>
      rw [eval, eval, evalEach_eq_map, evalEach_eq_map]
      exact compatible.all ih
  | either members ih =>
      rw [eval, eval, evalEach_eq_map, evalEach_eq_map]
      exact compatible.any ih
  | not member ih => exact compatible.opposite ih

/-- What is said of some value of an attribute is a disjunction over its values. -/
theorem judgeAttribute_related (matcher : Matcher Comparison) (attr : Attribute) :
    related (judgeAttribute (matcher.eval ⟨less, attributes⟩ ·) attr)
      (judgeAttribute (matcher.eval ⟨more, attributes⟩ ·) attr) := by
  apply compatible.any
  intro value _
  exact matcher.eval_related compatible less more parties value

/-- Under two requests, what a requirement says is related as what is said of parties is. -/
theorem Requirement.eval_related (requirement : Requirement Comparison) :
    related (requirement.eval ⟨less, attributes⟩) (requirement.eval ⟨more, attributes⟩) := by
  induction requirement with
  | any => exact compatible.permit
  | party who comparison => exact parties who comparison
  | attributeValue attributeId matcher =>
      cases attributeId with
      | none =>
          apply compatible.any
          intro attr _
          exact judgeAttribute_related compatible less more parties matcher attr
      | some id =>
          rw [eval, eval]
          cases attributes.get? id with
          | none => exact compatible.deny
          | some attr => exact judgeAttribute_related compatible less more parties matcher attr
  | all members ih =>
      rw [eval, eval, evalEach_eq_map, evalEach_eq_map]
      exact compatible.all ih
  | either members ih =>
      rw [eval, eval, evalEach_eq_map, evalEach_eq_map]
      exact compatible.any ih
  | not member ih => exact compatible.opposite ih

end Requests

/-! ## Opinions -/

namespace Verdict

/-- One verdict may give way to another when more is known: an opinion stays as it is. -/
structure LeadsTo (earlier later : Verdict) : Prop where
  permit : earlier = .permit → later = .permit
  deny : earlier = .deny → later = .deny

theorem both_eq_permit_iff {first second : Verdict} :
    both first second = .permit ↔ first = .permit ∧ second = .permit := by
  cases first <;> cases second <;> simp [both]

/-- A conjunction denies if one side does, whatever is unknown on the other. -/
theorem both_eq_deny_iff {first second : Verdict} :
    both first second = .deny ↔ first = .deny ∨ second = .deny := by
  cases first <;> cases second <;> simp [both]

theorem opposite_eq_permit_iff {verdict : Verdict} : verdict.opposite = .permit ↔ verdict = .deny := by
  cases verdict <;> simp [opposite]

theorem opposite_eq_deny_iff {verdict : Verdict} : verdict.opposite = .deny ↔ verdict = .permit := by
  cases verdict <;> simp [opposite]

/-- To have been left open, or to be the same, is kept by conjunction and by opposites. -/
theorem leadsTo_isCompatible : IsCompatible LeadsTo where
  permit := ⟨id, id⟩
  deny := ⟨id, id⟩
  opposite := by
    intro before after leads
    constructor
    · rw [opposite_eq_permit_iff, opposite_eq_permit_iff]
      exact leads.deny
    · rw [opposite_eq_deny_iff, opposite_eq_deny_iff]
      exact leads.permit
  both := by
    intro first second first' second' leads leads'
    constructor
    · rw [both_eq_permit_iff, both_eq_permit_iff]
      exact And.imp leads.permit leads'.permit
    · rw [both_eq_deny_iff, both_eq_deny_iff]
      exact Or.imp leads.deny leads'.deny

/-- Opinions combine to opinions, whatever there was before. -/
theorem opinion_isCompatible : IsCompatible fun _ later => later ≠ .indeterminate where
  permit := by decide
  deny := by decide
  opposite := by
    intro before after opinion
    cases after <;> simp_all [Verdict.opposite]
  both := by
    intro first second first' second' opinion opinion'
    cases first' <;> cases second' <;> simp_all [Verdict.both]

end Verdict

/-- A party that becomes known decides what was open before; one that was known stays the same. -/
theorem judgeParty_leadsTo {less more : Request} (known : more.Extends less) (who : Request.Party)
    (comparison : Comparison) :
    (judgeParty less who comparison).LeadsTo (judgeParty more who comparison) := by
  unfold judgeParty
  cases named : less.get? who with
  | none =>
      constructor
      · intro impossible
        cases impossible
      · intro impossible
        cases impossible
  | some id =>
      rw [known who id named]
      exact Verdict.leadsTo_isCompatible.ofBool _

/-- Where all parties are known no comparison of a party is left open. -/
theorem judgeParty_ne_indeterminate {request : Request} (complete : request.IsComplete)
    (who : Request.Party) (comparison : Comparison) :
    judgeParty request who comparison ≠ .indeterminate := by
  obtain ⟨id, named⟩ := complete who
  rw [judgeParty, named]
  exact Verdict.opinion_isCompatible.ofBool (comparison.accepts id)

/-- Whatever matcher or requirement is built from a configuration: where it permits or denies, it
does so too when the request names further parties, and where the request names all of them, it
permits or denies. -/
theorem opinions_stand {less more : Request} (known : more.Extends less)
    (attributes : AttributeMap) :
    (∀ config matcher, Matcher.compile config = .ok matcher → ∀ value,
        (matcher.eval ⟨less, attributes⟩ value).LeadsTo (matcher.eval ⟨more, attributes⟩ value) ∧
        (more.IsComplete → matcher.eval ⟨more, attributes⟩ value ≠ .indeterminate)) ∧
      ∀ config requirement, Requirement.compile config = .ok requirement →
        (requirement.eval ⟨less, attributes⟩).LeadsTo (requirement.eval ⟨more, attributes⟩) ∧
        (more.IsComplete → requirement.eval ⟨more, attributes⟩ ≠ .indeterminate) := by
  have leads := judgeParty_leadsTo known
  have opinion : more.IsComplete → ∀ who comparison,
      judgeParty more who comparison ≠ .indeterminate := judgeParty_ne_indeterminate
  constructor
  · intro _ matcher _ value
    constructor
    · exact matcher.eval_related Verdict.leadsTo_isCompatible less more leads value
    · intro complete
      exact matcher.eval_related Verdict.opinion_isCompatible more more (opinion complete) value
  · intro _ requirement _
    constructor
    · exact requirement.eval_related Verdict.leadsTo_isCompatible less more leads
    · intro complete
      exact requirement.eval_related Verdict.opinion_isCompatible more more (opinion complete)

/-- A requester whose principal is not known yet. -/
def anonymousVisit : Request where
  requester := some "https://sp.example"

/-- The same visit once the principal and the issuer are known. -/
def namedVisit : Request where
  requester := some "https://sp.example"
  issuer := some "https://idp.example"
  principal := some "jsmith"

def staffOnly : AttributeMap :=
  .ofList [("affiliation", { id := "affiliation", values := [.text "staff", .text "guest"] })]

/-- The requester is right, and the principal is the administrator or some value is not `guest`. -/
def visitorRequirement : Requirement Comparison.Spec :=
  .all [.party .requester { value := "https://sp.example" },
    .either [.party .principal { value := "admin" },
      .attributeValue none (.not (.value { value := "guest" }))]]

/-- The principal is not the administrator. -/
def notAdmin : Matcher Comparison.Spec := .not (.party .principal { value := "admin" })

/-- A requirement that permits before the principal is known permits afterwards, and a matcher that
had no opinion then has one. -/
theorem opinions_stand_visit :
    namedVisit.Extends anonymousVisit ∧ namedVisit.IsComplete ∧
      (∃ requirement, visitorRequirement.compile = .ok requirement ∧
        requirement.eval ⟨anonymousVisit, staffOnly⟩ = .permit ∧
        requirement.eval ⟨namedVisit, staffOnly⟩ = .permit) ∧
      ∃ matcher, notAdmin.compile = .ok matcher ∧
        matcher.eval ⟨anonymousVisit, staffOnly⟩ (.text "x") = .indeterminate ∧
        matcher.eval ⟨namedVisit, staffOnly⟩ (.text "x") ≠ .indeterminate := by
  have known : namedVisit.Extends anonymousVisit := by
    intro party id named
    cases party with
    | requester => exact named
    | issuer => cases named
    | principal => cases named
  have complete : namedVisit.IsComplete := by
    intro party
    cases party with
    | requester => exact ⟨_, rfl⟩
    | issuer => exact ⟨_, rfl⟩
    | principal => exact ⟨_, rfl⟩
  obtain ⟨ofMatchers, ofRequirements⟩ := opinions_stand known staffOnly
  refine ⟨known, complete, ⟨_, rfl, by decide, ?_⟩, ⟨_, rfl, by decide, ?_⟩⟩
  · exact (ofRequirements visitorRequirement _ rfl).1.permit (by decide)
  · exact (ofMatchers notAdmin _ rfl (.text "x")).2 complete

end Filter

end AttributeRelease
