import AttributeRelease.Proofs.Filter.Knowledge

/-!
# Several verdicts at once

A combination of several verdicts is known from which verdicts are among them: all of them permit if
each does and deny if one does, and any of them the other way round. So neither their order nor how
often they stand there counts, combinations of combinations can be taken at once, and the opposite
of a combination is a combination of opposites.
-/

namespace AttributeRelease.Filter.Verdict

variable {verdicts first second : List Verdict}

/-- Verdicts are the same when they permit alike and deny alike. -/
theorem eq_of_iff {one other : Verdict} (permit : one = .permit ↔ other = .permit)
    (deny : one = .deny ↔ other = .deny) : one = other := by
  cases one <;> cases other <;> simp_all

theorem all_eq_permit_iff : all verdicts = .permit ↔ ∀ verdict ∈ verdicts, verdict = .permit := by
  suffices onward : ∀ start : Verdict, verdicts.foldl both start = .permit ↔
      start = .permit ∧ ∀ verdict ∈ verdicts, verdict = .permit by
    exact (onward .permit).trans (and_iff_right rfl)
  induction verdicts with
  | nil => simp
  | cons verdict rest ih =>
      intro start
      rw [List.foldl_cons, ih, both_eq_permit_iff, List.forall_mem_cons, and_assoc]

theorem all_eq_deny_iff : all verdicts = .deny ↔ .deny ∈ verdicts := by
  suffices onward : ∀ start : Verdict, verdicts.foldl both start = .deny ↔
      start = .deny ∨ .deny ∈ verdicts by
    exact (onward .permit).trans (or_iff_right (by decide))
  induction verdicts with
  | nil => simp
  | cons verdict rest ih =>
      intro start
      rw [List.foldl_cons, ih, both_eq_deny_iff, List.mem_cons, or_assoc, @eq_comm _ deny]

theorem any_eq_deny_iff : any verdicts = .deny ↔ ∀ verdict ∈ verdicts, verdict = .deny := by
  rw [any_eq_opposite_all, opposite_eq_deny_iff, all_eq_permit_iff, List.forall_mem_map]
  simp only [opposite_eq_permit_iff]

theorem any_eq_permit_iff : any verdicts = .permit ↔ .permit ∈ verdicts := by
  rw [any_eq_opposite_all, opposite_eq_permit_iff, all_eq_deny_iff, List.mem_map]
  simp only [opposite_eq_deny_iff, exists_eq_right]

/-- Any of several verdicts permits if one does, else has no opinion if one has none, else
denies. -/
theorem any_eq_ite : any verdicts =
    if .permit ∈ verdicts then .permit
    else if .indeterminate ∈ verdicts then .indeterminate else .deny := by
  by_cases permits : .permit ∈ verdicts
  · rw [if_pos permits, any_eq_permit_iff.mpr permits]
  rw [if_neg permits]
  by_cases doubts : .indeterminate ∈ verdicts
  · rw [if_pos doubts]
    cases result : any verdicts with
    | permit => exact absurd (any_eq_permit_iff.mp result) permits
    | deny => cases any_eq_deny_iff.mp result _ doubts
    | indeterminate => rfl
  · rw [if_neg doubts, any_eq_deny_iff]
    intro verdict member
    cases verdict with
    | permit => exact absurd member permits
    | deny => rfl
    | indeterminate => exact absurd member doubts

/-! ## Combinations of the same verdicts -/

/-- Neither order nor repetition of the members matters to a conjunction. -/
theorem all_eq_of_mem_iff (same : ∀ verdict, verdict ∈ first ↔ verdict ∈ second) :
    all first = all second := by
  apply eq_of_iff
  · simp only [all_eq_permit_iff, same]
  · simp only [all_eq_deny_iff, same]

/-- Neither order nor repetition of the members matters to a disjunction. -/
theorem any_eq_of_mem_iff (same : ∀ verdict, verdict ∈ first ↔ verdict ∈ second) :
    any first = any second := by
  apply eq_of_iff
  · simp only [any_eq_permit_iff, same]
  · simp only [any_eq_deny_iff, same]

/-- De Morgan's law for disjunctions, with what is unknown staying so. -/
theorem opposite_any (verdicts : List Verdict) :
    (any verdicts).opposite = all (verdicts.map opposite) := by
  rw [any_eq_opposite_all, opposite_opposite]

/-- De Morgan's law for conjunctions, with what is unknown staying so. -/
theorem opposite_all (verdicts : List Verdict) :
    (all verdicts).opposite = any (verdicts.map opposite) := by
  have twice : opposite ∘ opposite = id := funext opposite_opposite
  rw [any_eq_opposite_all, List.map_map, twice, List.map_id]

/-- Any of what is any of several verdicts each is any of them all. -/
theorem any_map_any (lists : List (List Verdict)) : any (lists.map any) = any lists.flatten := by
  apply eq_of_iff
  · simp only [any_eq_permit_iff, List.mem_map, List.mem_flatten]
  · simp only [any_eq_deny_iff, List.forall_mem_map, List.mem_flatten, forall_exists_index, and_imp]
    exact ⟨fun each verdict list listed member => each list listed verdict member,
      fun each list listed verdict member => each verdict list listed member⟩

/-- All of several verdicts, among others, can be taken together with these. -/
theorem all_append_all_cons (before members after : List Verdict) :
    all (before ++ all members :: after) = all (before ++ members ++ after) := by
  apply eq_of_iff
  · simp only [all_eq_permit_iff, List.forall_mem_append, List.forall_mem_cons, and_assoc]
  · simp only [all_eq_deny_iff, List.mem_append, List.mem_cons, or_assoc, @eq_comm _ deny]

/-- Any of several verdicts, among others, can be taken together with these. -/
theorem any_append_any_cons (before members after : List Verdict) :
    any (before ++ any members :: after) = any (before ++ members ++ after) := by
  apply eq_of_iff
  · simp only [any_eq_permit_iff, List.mem_append, List.mem_cons, or_assoc, @eq_comm _ permit]
  · simp only [any_eq_deny_iff, List.forall_mem_append, List.forall_mem_cons, and_assoc]

end AttributeRelease.Filter.Verdict
