import AttributeRelease.Proofs.Pattern.Numbering
import AttributeRelease.Proofs.Pattern.Sets

/-!
# Reading a pattern between its anchors

A pattern that can be read alone is read alike inside the group between its anchors: to no part of
the reader does the parenthesis that closes the group look like a part of the pattern. What is read
is shown at once to have its groups numbered from one on. Main statement: `parse?_anchored`.
-/

namespace AttributeRelease.Pattern

open Cursor (Alike Onward)

namespace Parse

variable {α : Type} {S : α → Cursor → Cursor → Prop}

/-! ## Groups -/

/-- Flags end with a colon or a parenthesis in front of the closing, whatever the fuel. -/
theorem flagChanges_agree (value afterHyphen : Bool) (seen : FlagChanges) (fuel more : Nat) :
    Agree Alike (flagChanges value afterHyphen seen fuel) (flagChanges value afterHyphen seen more)
      fun _ => Alike := by
  induction fuel generalizing value afterHyphen seen more with
  | zero => exact .fail
  | succ fuel ih =>
    cases more with
    | zero => exact nofun
    | succ more =>
      refine next_agree.bind fun c => .ite (fun _ => ?_) fun _ => bump_agree.bind fun _ => ?_
      · exact .ite (fun _ => .fail) fun _ => .return Onward.alike
      · refine .ite (fun _ => .ite (fun _ => ih ..) fun _ => .fail) fun _ => ?_
        split
        · exact .ite (fun _ => .fail) fun _ => ih ..
        · exact .fail

/-- The name of a group ends with an angle bracket, which the closing does not have. -/
theorem groupName_agree : Agree Alike groupName groupName fun _ => Alike := by
  refine .get fun {cursor other} alike => ?_
  dsimp only
  obtain rfl | ⟨nothing, rfl⟩ := alike
  · obtain ⟨behind, found, foundClosed, before⟩ | ⟨missing, missingClosed⟩ :=
      dropWhile_closing '>' (by decide) cursor.rest
    · rw [Cursor.closed]
      dsimp only
      rw [found, foundClosed, before]
      cases cursor.rest.takeWhile (· != '>') with
      | nil => exact .fail
      | cons first others =>
        refine .ite (fun _ => ?_) fun _ => .fail
        exact (Agree.set (S := fun _ => Alike) (.inl rfl)).bind fun _ => .return id
    · rw [missing]
      exact .fail
  · rw [nothing]
    exact .fail

/-- Groups are numbered from one on. -/
theorem newGroup_agree :
    Agree Alike newGroup newGroup fun index cursor other => cursor.Alike other ∧ index ≠ 0 := by
  refine .get fun {cursor other} alike => ?_
  rw [alike.groups_eq]
  refine (Agree.set (S := fun _ => Alike) ?_).bind fun _ => .return fun alike =>
    ⟨alike, Nat.succ_ne_zero _⟩
  obtain rfl | ⟨nothing, rfl⟩ := alike
  · exact .inl rfl
  · exact .inr ⟨nothing, rfl⟩

/-- What is known behind the head of a group: if it captures, it is numbered from one on. -/
def HeadRead (head : GroupKind ⊕ FlagChanges) (cursor other : Cursor) : Prop :=
  cursor.Alike other ∧ head ≠ .inl (.capture 0)

theorem headRead_capture {index : Nat} (positive : index ≠ 0) {cursor other : Cursor}
    (alike : cursor.Alike other) : HeadRead (.inl (.capture index)) cursor other :=
  ⟨alike, fun same => positive (GroupKind.capture.inj (Sum.inl.inj same))⟩

/-- The head of a group is read alike: what marks it has no closing parenthesis. -/
theorem groupHead_agree : Agree Alike groupHead groupHead HeadRead := by
  have marked : ∀ mark ∈ ["?=", "?!", "?<=", "?<!"], ')' ∉ mark.toList := by decide
  refine skip_agree.bind fun _ => (Agree.forIn fun mark listed => ?_).bind fun _ => ?_
  · refine (bumpIf_agree (marked mark listed)).bind fun _ => ?_
    exact .ite (fun _ => .failThen) fun _ => .return id
  · refine (bumpIf_agree (by decide)).bind fun _ => .either (S := fun _ => Alike)
      (fun _ => .return id) (fun _ => bumpIf_agree (by decide)) fun named => ?_
    refine .ite (fun _ => ?_) fun _ => ?_
    · refine newGroup_agree.bind fun index => .assume fun positive => ?_
      refine groupName_agree.bind fun name => .get fun {cursor other} alike => ?_
      rw [alike.names_eq]
      refine .ite (fun _ => .failThen) fun _ => (Agree.set (S := fun _ => Alike) ?_).bind
        fun _ => .return (headRead_capture positive)
      obtain rfl | ⟨nothing, rfl⟩ := alike
      · exact .inl rfl
      · exact .inr ⟨nothing, rfl⟩
    · have flags (changes : FlagChanges) : Agree Alike (pure (.inl (.flags changes)))
          (pure (.inl (.flags changes))) HeadRead :=
        .return fun alike => ⟨alike, nofun⟩
      refine (bumpIf_agree (by decide)).bind fun _ => .ite (fun _ => .get fun _ => ?_) fun _ => ?_
      · refine (flagChanges_agree ..).bind fun changes => next_agree.bind fun c => ?_
        refine bump_agree.bind fun _ => .ite (fun _ => ?_) fun _ => flags changes
        exact .ite (fun _ => .fail) fun _ => .return fun alike => ⟨alike, nofun⟩
      · refine newGroup_agree.bind fun index => .assume fun positive => ?_
        exact .return (headRead_capture positive)

/-! ## Repetition -/

/-- A number ends where the first run sees a character that is no digit, or at the end of its input,
where the second sees the closing. -/
theorem decimalDigits_agree (fuel more : Nat) :
    Agree Alike (decimalDigits fuel) (decimalDigits more) fun _ => Alike := by
  induction fuel generalizing more with
  | zero => exact .fail
  | succ fuel ih =>
    cases more with
    | zero => exact nofun
    | succ more =>
      refine .next? (fun c => .ite (fun _ => ?_) fun _ => .return Onward.alike) (.return id) ?_
      · exact bumpSkip_agree.bind fun _ => (ih more).bind fun _ => .return id
      · exact .return id

/-- Blanks inside braces end before the closing. -/
theorem dropBlanks_agree : Agree Alike dropBlanks dropBlanks fun _ => Alike := by
  refine .modify fun {cursor other} alike => ?_
  obtain rfl | ⟨nothing, rfl⟩ := alike
  · refine .inl ?_
    rw [Cursor.closed, Cursor.closed, dropWhile_isSpace_closing]
  · exact .inr ⟨by rw [nothing]; rfl, rfl⟩

/-- A number between blanks is the same in both runs. -/
theorem count_agree : Agree Alike count count fun _ => Alike := by
  refine dropBlanks_agree.bind fun _ => .get fun _ => ?_
  refine (decimalDigits_agree _ _).bind fun digits => ?_
  refine dropBlanks_agree.bind fun _ => skip_agree.bind fun _ => ?_
  exact .ite (fun _ => .return id) fun _ => .ite (fun _ => .return id) fun _ => .fail

theorem demand_agree (number : Option Nat) :
    Agree Alike (demand number) (demand number) fun _ => Alike := by
  cases number with
  | none => exact .fail
  | some => exact .return id

/-- The brace that ends the bounds is not passed. -/
theorem bounds_agree : Agree Onward bounds bounds fun _ => Onward := by
  have ending (range : Nat × Option Nat) : Agree Alike
      (do
        if (← next) ≠ '\x7d' then Parse.fail
        return (range.1, range.2))
      (do
        if (← next) ≠ '\x7d' then Parse.fail
        return (range.1, range.2)) fun _ => Onward :=
    next_agree.bind fun c => .ite (fun _ => .failThen) fun _ => .return id
  refine bumpSkip_agree.bind fun _ => next_agree.bind fun _ => ?_
  refine (count_agree.before Onward.alike).bind fun least => next_agree.bind fun c => ?_
  have demanded := (demand_agree least).before Onward.alike
  refine .ite (fun _ => ?_) fun _ => ?_
  · refine bumpSkip_agree.bind fun _ => next_agree.bind fun c => .ite (fun _ => ?_) fun _ => ?_
    · exact demanded.bind fun least => (Agree.return id).bind ending
    · refine demanded.bind fun least => count_agree.bind fun most => ?_
      exact (demand_agree most).bind fun most => (Agree.return id).bind ending
  · exact demanded.bind fun least => (Agree.return id).bind ending

theorem isLazy_agree : Agree Alike isLazy isLazy fun _ => Alike :=
  bumpIf_agree (by decide)

/-- Repeating the last item leaves the groups numbered from one on. -/
theorem repeatLast_agree (least : Nat) (most : Option Nat) (lazily : Bool) {items : List Expr}
    (numbered : ∀ item ∈ items, item.IsNumbered) :
    Agree Alike (repeatLast least most lazily items) (repeatLast least most lazily items)
      fun items cursor other => cursor.Alike other ∧ ∀ item ∈ items, item.IsNumbered := by
  rw [repeatLast.eq_def]
  split
  · exact .fail
  · exact .fail
  · exact .fail
  · rw [List.forall_mem_cons] at numbered
    exact .return fun alike => ⟨alike, List.forall_mem_cons.mpr numbered⟩

/-! ## Expressions -/

/-- A single character, an escape or an anchor is read alike. -/
theorem atom_agree : Agree Alike atom atom fun _ => Alike := by
  refine next_agree.bind fun c => ?_
  split
  · exact escape_agree
  all_goals exact bump_agree.bind fun _ => .return id

/-- A group is closed by a parenthesis of its own, which is not that of the closing. -/
theorem group_agree {p q : Parse Expr} {f g : Expr → Parse α} (inside before : Bool)
    (body : Agree Alike p q fun expr cursor other => cursor.Alike other ∧ expr.IsNumbered)
    (onward : ∀ body : Expr, body.IsNumbered → Agree Alike (f body) (g body) S) :
    Agree Alike
      (do
        modify fun cursor => { cursor with skipsSpace := inside }
        let body ← p
        if (← next?) ≠ some ')' then Parse.fail
        modify fun cursor => { cursor with skipsSpace := before }
        bump
        f body)
      (do
        modify fun cursor => { cursor with skipsSpace := inside }
        let body ← q
        if (← next?) ≠ some ')' then Parse.fail
        modify fun cursor => { cursor with skipsSpace := before }
        bump
        g body) S := by
  refine (Agree.modify (S := fun _ => Alike) fun alike => alike.skipping _).bind fun _ => ?_
  refine body.bind fun body => .assume fun numbered => .next? (fun c => ?_) ?_ ?_
  · refine .ite (fun _ => .failThen) fun _ => ?_
    refine (Agree.modify (S := fun _ => Onward) fun onward => onward.skipping _).bind fun _ => ?_
    exact bump_agree.bind fun _ => onward body numbered
  · rw [if_pos nofun]
    exact .failThen
  · rw [if_pos nofun]
    exact .failThen

/-- What is read alike is also numbered. -/
theorem alternatives_agree (fuel more : Nat) {branches items : List Expr}
    (numbered : ∀ branch ∈ branches, branch.IsNumbered)
    (itemsNumbered : ∀ item ∈ items, item.IsNumbered) :
    Agree Alike (alternatives fuel branches items) (alternatives more branches items)
      fun expr cursor other => cursor.Alike other ∧ expr.IsNumbered := by
  induction fuel generalizing more branches items with
  | zero => exact .fail
  | succ fuel ih =>
    cases more with
    | zero => exact nofun
    | succ more =>
      have allNumbered : ∀ branch ∈ concatOf items :: branches, branch.IsNumbered :=
        List.forall_mem_cons.mpr ⟨isNumbered_concatOf itemsNumbered, numbered⟩
      have ending {R : Cursor → Cursor → Prop} (alike : ∀ {c c'}, R c c' → Alike c c') :
          Agree R (pure (alternativesOf (concatOf items :: branches)))
            (pure (alternativesOf (concatOf items :: branches)))
            fun expr cursor other => cursor.Alike other ∧ expr.IsNumbered :=
        .return fun before => ⟨alike before, isNumbered_alternativesOf allNumbered⟩
      have item {item : Expr} (itemNumbered : item.IsNumbered) :=
        ih more numbered (List.forall_mem_cons.mpr ⟨itemNumbered, itemsNumbered⟩)
      have repeated (least : Nat) (most : Option Nat) (lazily : Bool) :=
        (repeatLast_agree least most lazily itemsNumbered).bind fun items =>
          .assume fun repeatedNumbered => ih more numbered repeatedNumbered
      rw [alternatives, alternatives]
      refine skip_agree.bind fun _ => .next? (fun c => ?_) (ending id) (ending id)
      split
      · cases ‹some c = none›
      · exact ending Onward.alike
      · exact bump_agree.bind fun _ => ih more allNumbered nofun
      · refine bump_agree.bind fun _ => .get fun {cursor other} alike => ?_
        rw [alike.skipsSpace_eq]
        refine groupHead_agree.bind fun head => .assume fun capturing => ?_
        cases head with
        | inr changes =>
          refine (Agree.modify (S := fun _ => Alike) fun alike => ?_).bind fun _ =>
            item List.not_mem_nil
          rw [alike.skipsSpace_eq]
          exact alike.skipping _
        | inl kind =>
          have body := ih more (List.forall_mem_nil Expr.IsNumbered) (List.forall_mem_nil _)
          refine group_agree _ _ body fun body bodyNumbered => item ?_
          exact isNumbered_group bodyNumbered fun same => capturing (same ▸ rfl)
      · refine (bracketed_agree_setBody_agree fuel more).1.bind fun (negated, body) => ?_
        exact item List.not_mem_nil
      · exact bump_agree.bind fun _ => isLazy_agree.bind fun lazily => repeated 0 (some 1) lazily
      · exact bump_agree.bind fun _ => isLazy_agree.bind fun lazily => repeated 0 none lazily
      · exact bump_agree.bind fun _ => isLazy_agree.bind fun lazily => repeated 1 none lazily
      · refine bounds_agree.bind fun (least, most) => bumpSkip_agree.bind fun _ => ?_
        refine isLazy_agree.bind fun lazily => .ite (fun _ => .failThen) fun _ => ?_
        exact repeated least most lazily
      · exact (atom_agree.before Onward.alike).bind fun atom => item (isNumbered_toExpr atom)

/-! ## Patterns between their anchors -/

section Steps

variable (fuel : Nat) (branches items : List Expr) (rest : List Char) (groups : Nat)
  (names : List (String × Nat))

theorem alternatives_lineStart :
    alternatives (fuel + 1) branches items ⟨'^' :: rest, false, groups, names⟩ =
      alternatives fuel branches (.anchor .lineStart :: items) ⟨rest, false, groups, names⟩ := by
  rw [alternatives]
  rfl

theorem alternatives_lineEnd :
    alternatives (fuel + 1) branches items ⟨'$' :: rest, false, groups, names⟩ =
      alternatives fuel branches (.anchor .lineEnd :: items) ⟨rest, false, groups, names⟩ := by
  rw [alternatives]
  rfl

theorem alternatives_end :
    alternatives (fuel + 1) branches items ⟨[], false, groups, names⟩ =
      some (alternativesOf (concatOf items :: branches), ⟨[], false, groups, names⟩) := by
  rw [alternatives]
  rfl

/-- A group that does not capture is read by reading alternatives up to its parenthesis. -/
theorem alternatives_group :
    alternatives (fuel + 1) branches items ⟨'(' :: '?' :: ':' :: rest, false, groups, names⟩ =
      (do
        let body ← alternatives fuel [] []
        if (← next?) ≠ some ')' then Parse.fail
        modify fun cursor => { cursor with skipsSpace := false }
        bump
        alternatives fuel branches (.group (.flags []) body :: items) : Parse Expr)
          ⟨rest, false, groups, names⟩ := by
  rw [alternatives]
  rfl

end Steps

/-- An expression that was parsed has been read to the end of the pattern. -/
theorem alternatives_of_parse? {pattern : String} {expr : Expr} {cursor : Cursor}
    (read : Expr.parse? pattern = some (expr, cursor)) :
    alternatives (pattern.toList.length + 1) [] [] ⟨pattern.toList, false, 0, []⟩ =
      some (expr, cursor) ∧ cursor.rest = [] := by
  obtain ⟨⟨expr', cursor'⟩, run, accepted⟩ := Option.bind_eq_some_iff.mp read
  rw [Option.ite_none_right_eq_some, Bool.and_eq_true, List.isEmpty_iff] at accepted
  obtain ⟨⟨ended, _⟩, same⟩ := accepted
  cases same
  exact ⟨run, ended⟩

/-- An anchored pattern is the pattern between the opening of a group and its closing. -/
theorem toList_anchored (pattern : String) :
    (Regex.anchored pattern).toList = '^' :: '(' :: '?' :: ':' :: (pattern.toList ++ closing) := by
  rw [Regex.anchored, String.toList_append, String.toList_append]
  rfl

/-- A pattern that can be read alone is read alike between its anchors. -/
theorem parse?_anchored {pattern : String} {expr whole : Expr} {cursor cursor' : Cursor}
    (alone : Expr.parse? pattern = some (expr, cursor))
    (between : Expr.parse? (Regex.anchored pattern) = some (whole, cursor')) :
    whole = .concat [.anchor .lineStart, .group (.flags []) expr, .anchor .lineEnd] ∧
      expr.IsNumbered := by
  obtain ⟨read, ended⟩ := alternatives_of_parse? alone
  obtain ⟨readBetween, _⟩ := alternatives_of_parse? between
  rw [toList_anchored, List.length_cons, List.length_cons, alternatives_lineStart,
    alternatives_group] at readBetween
  obtain ⟨⟨body, behind⟩, bodyRead, closed⟩ := Option.bind_eq_some_iff.mp readBetween
  obtain ⟨rfl, alike, numbered⟩ := alternatives_agree _ _ (List.forall_mem_nil _)
    (List.forall_mem_nil _) (.inl rfl) read bodyRead
  refine ⟨?_, numbered⟩
  obtain rfl | ⟨_, rfl⟩ := alike
  · rw [Cursor.closed, ended] at closed
    change alternatives _ [] [.group (.flags []) expr, .anchor .lineStart]
      ⟨['$'], false, _, _⟩ = _ at closed
    rw [List.length_cons, alternatives_lineEnd, List.length_cons, alternatives_end] at closed
    cases closed
    rfl
  · -- A comment that swallows the closing leaves the group open.
    obtain ⟨rest, skipsSpace, groups, names⟩ := behind
    cases ended
    cases closed

end Parse

end AttributeRelease.Pattern
