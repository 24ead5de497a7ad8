import AttributeRelease.Resolver.Release
import Mathlib.Data.List.Basic

/-!
# Distinct values

Of the values of an attribute each is released once, where it stands first, and placeholders are
left out if these are stripped. Which values these are can be told without going through the list:
`Distilled` has one solution at most (`Distilled.unique`), and it is the one that is released
(`releasable?_eq_some_iff`).
-/

namespace AttributeRelease.Resolver

/-- Some values are those of a source, without placeholders if these are stripped, each one time and
in the order in which they first occur there. There is at least one. -/
structure Distilled (stripNulls : Bool) (source kept : List Value) : Prop where
  nonempty : kept ≠ []
  distinct : kept.Nodup
  stripped : stripNulls = true → ∀ value ∈ kept, value.isEmpty = false
  sound : ∀ value ∈ kept, value ∈ source
  complete : ∀ value ∈ source, (stripNulls = true → value.isEmpty = false) → value ∈ kept
  ordered : kept.Pairwise fun first second => source.idxOf first < source.idxOf second

/-- The distilled values are those of the source that are not stripped. -/
theorem Distilled.mem_iff {stripNulls : Bool} {source kept : List Value}
    (distilled : Distilled stripNulls source kept) (value : Value) :
    value ∈ kept ↔ value ∈ source ∧ (stripNulls = true → value.isEmpty = false) := by
  constructor
  · intro member
    exact ⟨distilled.sound value member, fun strips => distilled.stripped strips value member⟩
  · rintro ⟨member, remains⟩
    exact distilled.complete value member remains

/-- The order in the source leaves no choice. -/
theorem Distilled.unique {stripNulls : Bool} {source first second : List Value}
    (left : Distilled stripNulls source first) (right : Distilled stripNulls source second) :
    first = second := by
  have same : ∀ value, value ∈ first ↔ value ∈ second := fun value =>
    (left.mem_iff value).trans (right.mem_iff value).symm
  apply List.Perm.eq_of_pairwise ?_ left.ordered right.ordered
  · exact (List.perm_ext_iff_of_nodup left.distinct right.distinct).mpr same
  · intro value other _ _ before after
    exact absurd before (Nat.lt_asymm after)

/-- An attribute is kept for release as one that differs from it in its values, which are the
distilled ones. -/
structure KeptAs (stripNulls : Bool) (attr kept : Attribute) : Prop where
  values : Distilled stripNulls attr.values kept.values
  id : kept.id = attr.id
  displayNames : kept.displayNames = attr.displayNames
  displayDescriptions : kept.displayDescriptions = attr.displayDescriptions

/-! ## Going through a list -/

/-- A value is kept if it is there and was not seen before. -/
theorem mem_distinctValues {value : Value} {seen values : List Value} :
    value ∈ distinctValues seen values ↔ value ∈ values ∧ value ∉ seen := by
  induction values generalizing seen with
  | nil => simp [distinctValues]
  | cons head rest ih =>
      by_cases known : head ∈ seen
      · rw [distinctValues, if_pos known, ih, List.mem_cons]
        refine and_congr_left fun unseen => (or_iff_right ?_).symm
        rintro rfl
        exact unseen known
      · rw [distinctValues, if_neg known, List.mem_cons, ih, List.mem_cons, List.mem_cons]
        by_cases same : value = head
        · subst same
          simp [known]
        · simp [same]

/-- The positions are those before filtering: what is filtered out leaves gaps. -/
theorem distinctValues_ordered (keeps : Value → Bool) (seen values : List Value) :
    (distinctValues seen (values.filter keeps)).Pairwise fun first second =>
      values.idxOf first < values.idxOf second := by
  induction values generalizing seen with
  | nil => exact .nil
  | cons head rest ih =>
      -- all positions of other values than the head are shifted by one
      have shifted : ∀ seen : List Value,
          (∀ value ∈ distinctValues seen (rest.filter keeps), head ≠ value) →
          (distinctValues seen (rest.filter keeps)).Pairwise fun first second =>
            (head :: rest).idxOf first < (head :: rest).idxOf second := by
        intro seen differs
        refine (ih seen).imp_of_mem fun first second less => ?_
        rw [List.idxOf_cons_ne _ (differs _ first), List.idxOf_cons_ne _ (differs _ second)]
        exact Nat.succ_lt_succ less
      cases kept : keeps head with
      | false =>
          rw [List.filter_cons_of_neg (by simp [kept])]
          refine shifted seen fun value member same => ?_
          have satisfies := List.of_mem_filter (mem_distinctValues.mp member).1
          rw [← same, kept] at satisfies
          cases satisfies
      | true =>
          rw [List.filter_cons_of_pos kept]
          by_cases known : head ∈ seen
          · rw [distinctValues, if_pos known]
            refine shifted seen fun value member same => ?_
            exact (mem_distinctValues.mp member).2 (same ▸ known)
          · rw [distinctValues, if_neg known]
            have differs : ∀ value ∈ distinctValues (head :: seen) (rest.filter keeps),
                head ≠ value := fun value member same =>
              (mem_distinctValues.mp member).2 (same ▸ List.mem_cons_self)
            refine List.pairwise_cons.mpr ⟨fun value member => ?_, shifted _ differs⟩
            rw [List.idxOf_cons_self, List.idxOf_cons_ne _ (differs value member)]
            exact Nat.succ_pos _

/-- The values that are released are the distilled ones, as long as there are any. -/
theorem distilled_releasableValues {stripNulls : Bool} {source : List Value}
    (nonempty : releasableValues stripNulls source ≠ []) :
    Distilled stripNulls source (releasableValues stripNulls source) := by
  have mem : ∀ value, value ∈ releasableValues stripNulls source ↔
      value ∈ source ∧ (stripNulls = true → value.isEmpty = false) := by
    intro value
    rw [releasableValues, mem_distinctValues, List.mem_filter]
    cases stripNulls <;> simp
  have ordered := distinctValues_ordered (fun value => !(stripNulls && value.isEmpty)) [] source
  exact {
    nonempty
    distinct := ordered.imp fun less same => absurd (same ▸ less) (Nat.lt_irrefl _)
    stripped := fun strips value member => ((mem value).mp member).2 strips
    sound := fun value member => ((mem value).mp member).1
    complete := fun value member remains => (mem value).mpr ⟨member, remains⟩
    ordered }

/-- Without values to release there are none that are distilled. -/
theorem releasableValues_ne_nil {stripNulls : Bool} {source kept : List Value}
    (distilled : Distilled stripNulls source kept) : releasableValues stripNulls source ≠ [] := by
  obtain ⟨value, member⟩ := List.exists_mem_of_ne_nil kept distilled.nonempty
  have listed := (distilled.mem_iff value).mp member
  refine List.ne_nil_of_mem (a := value) ?_
  rw [releasableValues, mem_distinctValues, List.mem_filter]
  cases stripNulls with
  | false => simp [listed.1]
  | true => simp [listed.1, listed.2]

/-- What is released of an attribute is what it is kept as. -/
theorem releasable?_eq_some_iff {stripNulls : Bool} {attr kept : Attribute} :
    releasable? stripNulls attr = some kept ↔ KeptAs stripNulls attr kept := by
  unfold releasable?
  constructor
  · intro keeps
    split at keeps
    · cases keeps
    · rename_i nonempty
      cases keeps
      exact ⟨distilled_releasableValues nonempty, rfl, rfl, rfl⟩
  · intro keeps
    have nonempty := releasableValues_ne_nil keeps.values
    have same := (distilled_releasableValues nonempty).unique keeps.values
    split
    · rename_i nothing
      exact absurd nothing nonempty
    · obtain ⟨id, values, names, descriptions⟩ := kept
      obtain ⟨-, rfl, rfl, rfl⟩ := keeps
      rw [same]

end AttributeRelease.Resolver
