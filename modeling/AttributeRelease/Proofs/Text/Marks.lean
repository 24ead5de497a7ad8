import Mathlib.Data.List.Basic

/-!
# Texts joined by a mark

Two texts with a mark between them can be told apart again only as far as the mark does not stand in
them. Two different pairs become the same text just when one goes on in the other
(`joined_eq_iff`).
-/

namespace AttributeRelease.Text

/-- A pair of texts goes on in another one: the first text there is the first one here and, behind a
mark, what the second one here begins with. -/
def GoesOn (mark first second other behind : String) : Prop :=
  ∃ between, other = first ++ mark ++ between ∧ second = between ++ mark ++ behind

section Joined

variable {mark : String} {sign : Char} {first second other behind : String}

theorem toList_joined (single : mark.toList = [sign]) (first second : String) :
    (first ++ mark ++ second).toList = first.toList ++ sign :: second.toList := by
  rw [String.toList_append, String.toList_append, single, List.append_assoc]
  rfl

/-- When one first text begins another one, it is that or goes on there with the mark. -/
theorem eq_or_goesOn (single : mark.toList = [sign]) {rest : List Char}
    (longer : other.toList = first.toList ++ rest)
    (left : sign :: second.toList = rest ++ sign :: behind.toList) :
    (first = other ∧ second = behind) ∨ GoesOn mark first second other behind := by
  rcases List.cons_eq_append_iff.mp left with ⟨rfl, same⟩ | ⟨between, rfl, goesOn⟩
  · rw [List.append_nil] at longer
    have sameBehind := (List.cons.inj same).2.symm
    exact .inl ⟨String.toList_inj.mp longer.symm, String.toList_inj.mp sameBehind⟩
  · refine .inr ⟨String.ofList between, String.toList_inj.mp ?_, String.toList_inj.mp ?_⟩
    · rw [toList_joined single, String.toList_ofList, longer]
    · rw [toList_joined single, String.toList_ofList, goesOn]

/-- Joined by a mark, two pairs of texts are the same just when they are equal or one goes on in the
other. -/
theorem joined_eq_iff (single : mark.toList = [sign]) :
    first ++ mark ++ second = other ++ mark ++ behind ↔
      (first = other ∧ second = behind) ∨ GoesOn mark first second other behind ∨
        GoesOn mark other behind first second := by
  constructor
  · intro same
    have chars := congrArg String.toList same
    rw [toList_joined single, toList_joined single] at chars
    -- one of the first texts begins the other
    rcases List.append_eq_append_iff.mp chars with ⟨rest, longer, left⟩ | ⟨rest, longer, left⟩
    · exact (eq_or_goesOn single longer left).imp_right .inl
    · rcases eq_or_goesOn single longer left with ⟨sameFirst, sameSecond⟩ | goesOn
      · exact .inl ⟨sameFirst.symm, sameSecond.symm⟩
      · exact .inr (.inr goesOn)
  · rintro (⟨rfl, rfl⟩ | ⟨between, rfl, rfl⟩ | ⟨between, rfl, rfl⟩)
    · rfl
    · simp only [String.append_assoc]
    · simp only [String.append_assoc]

/-- The mark stands in the first text of the one pair and in the second of the other. -/
theorem GoesOn.marked (single : mark.toList = [sign])
    (goesOn : GoesOn mark first second other behind) :
    sign ∈ other.toList ∧ sign ∈ second.toList := by
  obtain ⟨between, rfl, rfl⟩ := goesOn
  rw [toList_joined single, toList_joined single]
  simp

/-- What goes on in another pair differs from it in both texts. -/
theorem GoesOn.ne (single : mark.toList = [sign])
    (goesOn : GoesOn mark first second other behind) : first ≠ other ∧ second ≠ behind := by
  obtain ⟨between, rfl, rfl⟩ := goesOn
  refine ⟨fun same => ?_, fun same => ?_⟩
  · have length := congrArg (fun text => text.toList.length) same
    simp [toList_joined single] at length
  · have length := congrArg (fun text => text.toList.length) same
    simp only [toList_joined single, List.length_append, List.length_cons] at length
    omega

end Joined

end AttributeRelease.Text
