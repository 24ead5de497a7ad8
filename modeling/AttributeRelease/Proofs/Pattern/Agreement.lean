import AttributeRelease.Pattern.Regex
import Mathlib.Data.List.TakeWhile

/-!
# Reading with a closing behind

Two runs of the reader are compared, the second of which has behind its input the text that closes
the group around an anchored pattern. They agree if, where both succeed, they read the same value
(`Parse.Agree`); agreement is kept by the ways in which steps are put together. The steps on single
characters agree: none of them takes the closing for a part of what it reads.
-/

namespace AttributeRelease.Pattern

open Text (isSpace)

/-- What closes the group around an anchored pattern. -/
def closing : List Char := [')', '$']

namespace Cursor

/-- The cursor with the closing behind its input. -/
def closed (cursor : Cursor) : Cursor := { cursor with rest := cursor.rest ++ closing }

/-- The second cursor has the closing behind the input of the first, unless a comment has swallowed
it and nothing is left for either. -/
def Alike (cursor other : Cursor) : Prop :=
  other = cursor.closed ∨ cursor.rest = [] ∧ other = cursor

/-- There is something to read before the closing. -/
def Onward (cursor other : Cursor) : Prop :=
  other = cursor.closed ∧ cursor.rest ≠ []

variable {cursor other : Cursor}

theorem Onward.other_ne_nil (onward : cursor.Onward other) : other.rest ≠ [] := by
  rw [onward.1]
  exact List.append_ne_nil_of_left_ne_nil onward.2 closing

theorem Onward.alike (onward : cursor.Onward other) : cursor.Alike other := .inl onward.1

theorem Alike.skipsSpace_eq (alike : cursor.Alike other) :
    other.skipsSpace = cursor.skipsSpace := by
  obtain rfl | ⟨_, rfl⟩ := alike <;> rfl

theorem Alike.groups_eq (alike : cursor.Alike other) : other.groups = cursor.groups := by
  obtain rfl | ⟨_, rfl⟩ := alike <;> rfl

theorem Alike.names_eq (alike : cursor.Alike other) : other.names = cursor.names := by
  obtain rfl | ⟨_, rfl⟩ := alike <;> rfl

theorem Alike.skipping (alike : cursor.Alike other) (skipsSpace : Bool) :
    Alike { cursor with skipsSpace } { other with skipsSpace } := by
  obtain rfl | ⟨nothing, rfl⟩ := alike
  · exact .inl rfl
  · exact .inr ⟨nothing, rfl⟩

theorem Onward.skipping (onward : cursor.Onward other) (skipsSpace : Bool) :
    Onward { cursor with skipsSpace } { other with skipsSpace } := by
  obtain ⟨rfl, more⟩ := onward
  exact ⟨rfl, more⟩

end Cursor

open Cursor (Alike Onward)

namespace Parse

/-! ## Two runs -/

section Runs

variable {α β : Type} {R R' : Cursor → Cursor → Prop} {p q : Parse α}
  {S : α → Cursor → Cursor → Prop} {T : β → Cursor → Cursor → Prop}

/-- Two runs from cursors related by `R` agree: where both succeed, they read the same value, and
their cursors are then related by `S`. -/
def Agree (R : Cursor → Cursor → Prop) (p q : Parse α) (S : α → Cursor → Cursor → Prop) : Prop :=
  ∀ ⦃c c'⦄, R c c' →
    ∀ ⦃a a' d d'⦄, p c = some (a, d) → q c' = some (a', d') → a = a' ∧ S a d d'

theorem Agree.before (agree : Agree R p q S) (stronger : ∀ {c c'}, R' c c' → R c c') :
    Agree R' p q S :=
  fun _ _ related => agree (stronger related)

/-- Returning a value reads nothing, so what holds before holds behind. -/
theorem Agree.return {a : α} (related : ∀ {c c'}, R c c' → S a c c') :
    Agree R (pure a) (pure a) S := by
  intro c c' before _ _ _ _ left right
  cases left
  cases right
  exact ⟨rfl, related before⟩

theorem Agree.fail : Agree R Parse.fail q S := nofun

/-- Runs are put together from runs that agree, the second ones for every value read by the
first. -/
theorem Agree.bind {f g : α → Parse β} (first : Agree R p q S)
    (second : ∀ a, Agree (S a) (f a) (g a) T) : Agree R (p >>= f) (q >>= g) T := by
  intro c c' before _ _ _ _ left right
  obtain ⟨⟨a, d⟩, read, left⟩ := Option.bind_eq_some_iff.mp left
  obtain ⟨⟨a', d'⟩, read', right⟩ := Option.bind_eq_some_iff.mp right
  obtain ⟨rfl, between⟩ := first before read read'
  exact second a between left right

theorem Agree.failThen {f : β → Parse α} : Agree R (Parse.fail >>= f) q S := nofun

/-- A decision that does not depend on the cursors is the same in both runs. -/
theorem Agree.ite {P : Prop} [Decidable P] {p' q' : Parse α} (holds : P → Agree R p q S)
    (fails : ¬ P → Agree R p' q' S) :
    Agree R (if P then p else p') (if P then q else q') S := by
  by_cases decided : P
  · rw [if_pos decided, if_pos decided]
    exact holds decided
  · rw [if_neg decided, if_neg decided]
    exact fails decided

/-- There are two ways to a value, behind which the runs go on alike. -/
theorem Agree.either {P : Prop} [Decidable P] {p' q' : Parse α} {f g : α → Parse β}
    (holds : P → Agree R p q S) (fails : ¬ P → Agree R p' q' S)
    (second : ∀ a, Agree (S a) (f a) (g a) T) :
    Agree R (if P then p >>= f else p' >>= f) (if P then q >>= g else q' >>= g) T :=
  .ite (fun decided => (holds decided).bind second) fun decided => (fails decided).bind second

theorem Agree.get {f g : Cursor → Parse α}
    (onward : ∀ {c c'}, R c c' → Agree R (f c) (g c') S) : Agree R (get >>= f) (get >>= g) S :=
  fun _ _ before => onward before before

theorem Agree.assume {P : Prop} (known : P → Agree R p q S) :
    Agree (fun c c' => R c c' ∧ P) p q S :=
  fun _ _ ⟨before, holds⟩ => known holds before

/-- A loop keeps a relation between the cursors that each of its steps keeps. -/
theorem Agree.forIn {ι : Type} {items : List ι} {body : ι → PUnit → Parse (ForInStep PUnit)}
    (step : ∀ item ∈ items, Agree R (body item ⟨⟩) (body item ⟨⟩) fun _ => R) :
    Agree R (forIn items PUnit.unit body) (forIn items PUnit.unit body) fun _ => R := by
  induction items with
  | nil => exact .return id
  | cons item items ih =>
    rw [List.forall_mem_cons] at step
    rw [List.forIn_cons]
    refine step.1.bind fun next => ?_
    cases next with
    | done => exact .return id
    | yield => exact ih step.2

/-- Putting a cursor in place forgets how the cursors were related before. -/
theorem Agree.set {d d' : Cursor} {S : PUnit → Cursor → Cursor → Prop} (related : S ⟨⟩ d d') :
    Agree R (set d) (set d') S := by
  intro _ _ _ _ _ _ _ left right
  cases left
  cases right
  exact ⟨rfl, related⟩

/-- Both cursors are changed into ones that are related. -/
theorem Agree.modify {f g : Cursor → Cursor} {S : PUnit → Cursor → Cursor → Prop}
    (related : ∀ {c c'}, R c c' → S ⟨⟩ (f c) (g c')) :
    Agree R (modify f) (modify g) S := by
  intro _ _ before _ _ _ _ left right
  cases left
  cases right
  exact ⟨rfl, related before⟩

end Runs

variable {α : Type} {S : α → Cursor → Cursor → Prop}

/-! ## Characters -/

/-- Where the first run is at its end, the second may see the parenthesis that closes the group. -/
theorem Agree.next? {f g : Option Char → Parse α}
    (found : ∀ c, Agree Onward (f (some c)) (g (some c)) S)
    (ended : Agree Alike (f none) (g none) S)
    (closes : Agree Alike (f none) (g (some ')')) S) :
    Agree Alike (next? >>= f) (next? >>= g) S := by
  intro cursor other alike _ _ _ _ left right
  change f cursor.rest.head? cursor = _ at left
  change g other.rest.head? other = _ at right
  obtain rfl | ⟨nothing, rfl⟩ := alike
  · cases input : cursor.rest with
    | nil =>
      rw [input] at left
      rw [Cursor.closed, input] at right
      exact closes (.inl (by rw [Cursor.closed, input])) left right
    | cons c behind =>
      rw [input] at left
      rw [Cursor.closed, input] at right
      exact found c ⟨by rw [Cursor.closed, input], by simp [input]⟩ left right
  · rw [nothing] at left right
    exact ended (.inr ⟨nothing, rfl⟩) left right

/-- A next character that both runs see stands before the closing. -/
theorem next_agree : Agree Alike next next fun _ => Onward :=
  .next? (fun _ => .return id) .fail .fail

/-- Passing a character that stands before the closing leaves the closing in place. -/
theorem bump_agree : Agree Onward bump bump fun _ => Alike := by
  refine .modify fun {cursor other} onward => ?_
  obtain ⟨rfl, more⟩ := onward
  refine .inl ?_
  rw [Cursor.closed, Cursor.closed, List.tail_append_of_ne_nil more]

/-- The closing is not white space. -/
theorem dropWhile_isSpace_closing (input : List Char) :
    (input ++ closing).dropWhile isSpace = input.dropWhile isSpace ++ closing := by
  rw [List.dropWhile_append]
  split
  · rename_i blank
    rw [List.isEmpty_iff.mp blank]
    rfl
  · rfl

/-- Skipping space stops before the closing or, in a comment, swallows it. -/
theorem dropSpace_closing (inComment : Bool) (input : List Char) :
    dropSpace inComment (input ++ closing) = dropSpace inComment input ++ closing ∨
      dropSpace inComment input = [] ∧ dropSpace inComment (input ++ closing) = [] := by
  fun_induction dropSpace inComment input with
  | case1 inComment => cases inComment <;> decide
  | case2 c rest ih => simpa [dropSpace] using ih
  | case3 c rest space ih => simpa [dropSpace, space] using ih
  | case4 rest space ih => simpa [dropSpace, space] using ih
  | case5 c rest space comment => simp [dropSpace, space, comment]

/-- Blanks and comments end before the closing, unless a comment has no end and swallows it. -/
theorem skip_agree : Agree Alike skip skip fun _ => Alike := by
  refine .modify fun {cursor other} alike => ?_
  rw [alike.skipsSpace_eq]
  by_cases skips : cursor.skipsSpace
  · rw [if_pos skips, if_pos skips]
    obtain rfl | ⟨nothing, rfl⟩ := alike
    · obtain same | ⟨nothing, swallowed⟩ := dropSpace_closing false cursor.rest
      · exact .inl (congrArg (fun rest => { cursor with rest }) same)
      · refine .inr ⟨nothing, ?_⟩
        exact congrArg (fun rest => { cursor with rest }) (swallowed.trans nothing.symm)
    · refine .inr ⟨?_, rfl⟩
      rw [nothing]
      rfl
  · rw [if_neg skips, if_neg skips]
    exact alike

/-- Passing a character and the blanks behind it leaves the closing in place or swallowed. -/
theorem bumpSkip_agree : Agree Onward bumpSkip bumpSkip fun _ => Alike :=
  bump_agree.bind fun _ => skip_agree

/-- A text without a parenthesis is found before the closing or not at all. -/
theorem isPrefixOf_closing {expected : List Char} (plain : ')' ∉ expected) (input : List Char) :
    expected.isPrefixOf (input ++ closing) = expected.isPrefixOf input := by
  induction expected generalizing input with
  | nil => rfl
  | cons c expected ih =>
    cases input with
    | nil =>
      have other : (c == ')') = false :=
        beq_false_of_ne fun same => plain (same ▸ List.mem_cons_self)
      change (c == ')' && expected.isPrefixOf ['$']) = false
      rw [other, Bool.false_and]
    | cons first input =>
      rw [List.cons_append, List.isPrefixOf, List.isPrefixOf,
        ih (List.not_mem_of_not_mem_cons plain)]

/-- A text without a closing parenthesis is found by both runs or by none. -/
theorem bumpIf_agree {text : String} (plain : ')' ∉ text.toList) :
    Agree Alike (bumpIf text) (bumpIf text) fun _ => Alike := by
  refine .get fun {cursor other} alike => ?_
  have sameFound : text.toList.isPrefixOf other.rest = text.toList.isPrefixOf cursor.rest := by
    obtain rfl | ⟨_, rfl⟩ := alike
    · exact isPrefixOf_closing plain cursor.rest
    · rfl
  dsimp only
  rw [sameFound]
  refine .ite (fun found => (Agree.set ?_).bind fun _ => .return id) fun _ => .return id
  have short := (List.isPrefixOf_iff_prefix.mp found).length_le
  obtain rfl | ⟨nothing, rfl⟩ := alike
  · exact .inl (congrArg (fun rest => { cursor with rest }) (List.drop_append_of_le_length short))
  · exact .inr ⟨by rw [nothing, List.drop_nil], rfl⟩

/-- A mark that the closing does not hold is found before it or not at all. -/
theorem dropWhile_closing (mark : Char) (plain : mark ∉ closing) (input : List Char) :
    (∃ behind, input.dropWhile (· != mark) = mark :: behind ∧
      (input ++ closing).dropWhile (· != mark) = mark :: (behind ++ closing) ∧
      (input ++ closing).takeWhile (· != mark) = input.takeWhile (· != mark)) ∨
    input.dropWhile (· != mark) = [] ∧ (input ++ closing).dropWhile (· != mark) = [] := by
  induction input with
  | nil =>
    refine .inr ⟨rfl, List.dropWhile_eq_nil_iff.2 fun c listed => ?_⟩
    exact bne_iff_ne.mpr fun same => plain (same ▸ listed)
  | cons c input ih =>
    by_cases found : c = mark
    · refine .inl ⟨input, ?_⟩
      simp [found]
    · simpa [found] using ih

end Parse

end AttributeRelease.Pattern
