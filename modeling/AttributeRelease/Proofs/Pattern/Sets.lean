import AttributeRelease.Proofs.Pattern.Agreement

/-!
# Reading escapes and sets

What stands behind a backslash or in brackets is read alike whether or not the closing of a group
stands behind the input; the runs may have different fuel.
-/

namespace AttributeRelease.Pattern

open Text (isSpace)
open Cursor (Alike Onward)

namespace Parse

variable {α : Type} {S : α → Cursor → Cursor → Prop}

/-! ## Escapes -/

theorem hexChar_agree (digits : List Char) :
    Agree Alike (hexChar digits) (hexChar digits) fun _ => Alike :=
  .ite (fun _ => .return id) fun _ => .fail

/-- A fixed number of digits either stands before the closing or is not read at all. -/
theorem hexDigits_agree (count : Nat) :
    Agree Alike (hexDigits count) (hexDigits count) fun _ => Alike := by
  induction count with
  | zero => exact .return id
  | succ count ih =>
    refine next_agree.bind fun c => .ite (fun _ => .failThen) fun _ => ?_
    exact bumpSkip_agree.bind fun _ => ih.bind fun _ => .return id

/-- The brace that ends the characters is not passed. -/
theorem untilBrace_agree (accepts : Char → Bool) (fuel more : Nat) :
    Agree Alike (untilBrace accepts fuel) (untilBrace accepts more) fun _ => Onward := by
  induction fuel generalizing more with
  | zero => exact .fail
  | succ fuel ih =>
    cases more with
    | zero => exact nofun
    | succ more =>
      refine next_agree.bind fun c => .ite (fun _ => .return id) fun _ => ?_
      refine .ite (fun _ => .failThen) fun _ => ?_
      exact bumpSkip_agree.bind fun _ => (ih more).bind fun _ => .return id

/-- What stands in braces ends before the closing, which has no brace in it. -/
theorem braced_agree (accepts : Char → Bool) :
    Agree Onward (braced accepts) (braced accepts) fun _ => Onward :=
  bumpSkip_agree.bind fun _ => .get fun _ => untilBrace_agree accepts _ _

/-- A character that is given by its number is the same in both runs. -/
theorem hexLiteral_agree : Agree Alike hexLiteral hexLiteral fun _ => Alike := by
  refine next_agree.bind fun mark => bumpSkip_agree.bind fun _ => next_agree.bind fun c => ?_
  refine .ite (fun _ => (braced_agree isHex).bind fun digits => ?_) fun _ => ?_
  · refine bumpSkip_agree.bind fun _ => .ite (fun _ => .failThen) fun _ => ?_
    exact (hexChar_agree digits).bind fun _ => .return id
  · refine ((hexDigits_agree _).before Onward.alike).bind fun digits => ?_
    exact (hexChar_agree digits).bind fun _ => .return id

/-- A class of a property has the same name in both runs, in braces or as one letter. -/
theorem propertyClass_agree : Agree Alike propertyClass propertyClass fun _ => Alike := by
  refine next_agree.bind fun mark => bumpSkip_agree.bind fun _ => next_agree.bind fun c => ?_
  refine .ite (fun _ => (braced_agree _).bind fun name => bump_agree.bind fun _ => ?_) fun _ => ?_
  · dsimp only
    split <;> exact .return id
  · refine .ite (fun _ => .failThen) fun _ => ?_
    exact bumpSkip_agree.bind fun _ => .return id

/-- The boundary of a word is read alike, with or without the name of a half in braces. -/
theorem wordBoundary_agree : Agree Alike wordBoundary wordBoundary fun _ => Alike := by
  refine .get fun {cursor other} alike => .next? (fun c => ?_) ?_ ?_
  · refine .ite (fun _ => .return Onward.alike) fun _ => ?_
    refine bumpSkip_agree.bind fun _ => next_agree.bind fun c => .ite (fun _ => ?_) fun _ => ?_
    · exact (Agree.set alike).bind fun _ => .return id
    · refine .get fun _ => ((untilBrace_agree _ _ _).before Onward.alike).bind fun name => ?_
      refine bump_agree.bind fun _ => ?_
      split <;> first | exact .return id | exact .fail
  · rw [if_pos nofun]
    exact .return id
  · rw [if_pos nofun, if_pos (by decide)]
    exact .return id

/-- Something stands behind the backslash before the closing, so both runs read the same escape. -/
theorem escape_agree : Agree Onward escape escape fun _ => Alike := by
  refine bump_agree.bind fun _ => next_agree.bind fun c => ?_
  split
  case h_1 | h_2 | h_3 => exact (hexLiteral_agree.before Onward.alike).bind fun _ => .return id
  case h_4 | h_5 => exact (propertyClass_agree.before Onward.alike).bind fun _ => .return id
  case h_6 =>
    refine bump_agree.bind fun _ => ?_
    split
    case h_15 => exact wordBoundary_agree.bind fun _ => .return id
    case h_19 => exact .ite (fun _ => .return id) fun _ => .fail
    all_goals exact .return id

/-! ## Sets in brackets -/

/-- Whether a class is negated, and what follows the mark that says so. -/
def classHead (input : List Char) : Bool × List Char :=
  match input with
  | '^' :: rest => (true, rest)
  | _ => (false, input)

/-- The name of a class and its end, which are read behind the head of the class. -/
def classEnd (cursor : Cursor) (head : Bool × List Char) : Parse (Option SetExpr) :=
  let name := String.ofList (head.2.takeWhile (· != ':'))
  match head.2.dropWhile (· != ':') with
  | ':' :: ']' :: rest =>
    if name ∈ asciiNames then do
      set { cursor with rest }
      return some (.ascii name head.1)
    else return none
  | _ => return none

theorem asciiClass_eq : asciiClass = (do
    let cursor ← get
    match cursor.rest with
    | '[' :: ':' :: rest => classEnd cursor (classHead rest)
    | _ => return none) :=
  rfl

/-- A circumflex at the head of a class is not part of the closing. -/
theorem classHead_closing (input : List Char) :
    classHead (input ++ closing) = ((classHead input).1, (classHead input).2 ++ closing) := by
  cases input with
  | nil => rfl
  | cons c input =>
    by_cases circumflex : c = '^'
    · rw [circumflex]
      rfl
    · simp [classHead, circumflex]

/-- What is known behind `asciiClass`: if it found nothing, it has read nothing. -/
def Unread (item : Option SetExpr) (cursor other : Cursor) : Prop :=
  cursor.Alike other ∧ (item = none → cursor.Onward other)

theorem unread_agree : Agree Onward (pure none) (pure none) Unread :=
  .return fun onward => ⟨onward.alike, fun _ => onward⟩

/-- The closing holds no colon, so it neither ends the name of a class nor is read into it. -/
theorem classEnd_agree (cursor : Cursor) (head : Bool × List Char) :
    Agree Onward (classEnd cursor head) (classEnd cursor.closed (head.1, head.2 ++ closing))
      Unread := by
  rw [classEnd, classEnd]
  obtain ⟨behind, found, foundClosed, before⟩ | ⟨missing, missingClosed⟩ :=
    dropWhile_closing ':' (by decide) head.2
  · dsimp only
    rw [found, foundClosed, before]
    cases behind with
    | nil => exact unread_agree
    | cons c rest =>
      by_cases bracket : c = ']'
      · subst bracket
        refine .ite (fun _ => ?_) fun _ => unread_agree
        refine (Agree.set (S := fun _ => Alike) (.inl rfl)).bind fun _ => .return fun alike => ?_
        exact ⟨alike, nofun⟩
      · simp [bracket]
        exact unread_agree
  · dsimp only
    rw [missing, missingClosed]
    exact unread_agree

/-- A named class is found by both runs or by none, and one that is not found leaves the input as it
is. -/
theorem asciiClass_agree : Agree Onward asciiClass asciiClass Unread := by
  rw [asciiClass_eq]
  refine .get fun {cursor other} onward => ?_
  obtain ⟨rfl, more⟩ := onward
  split
  · rename_i rest opened
    have agree := classEnd_agree cursor (classHead rest)
    rw [← classHead_closing, Cursor.closed, opened] at agree
    rw [Cursor.closed, opened]
    exact agree
  · rename_i unopened
    split
    · rename_i rest opened
      change cursor.rest ++ closing = _ at opened
      cases input : cursor.rest with
      | nil => exact absurd input more
      | cons c behind =>
        rw [input] at opened
        injection opened with first opened
        cases behind with
        | nil => cases opened
        | cons d behind =>
          injection opened with second opened
          exact absurd (first ▸ second ▸ input) (unopened behind)
    · exact unread_agree

theorem setAtom_agree : Agree Alike setAtom setAtom fun _ => Alike := by
  refine next_agree.bind fun c => .ite (fun _ => escape_agree) fun _ => ?_
  exact bump_agree.bind fun _ => .return id

/-- What `peekSkip` finds in the input behind the next character. -/
def wordBehind (skipsSpace : Bool) (behind : List Char) : Option Char :=
  if !skipsSpace then behind.head?
  else
    let word := behind.dropWhile isSpace
    match word with
    | '#' :: comment => (comment.dropWhile isSpace).head?
    | _ => word.head?

theorem peekSkip_eq (cursor : Cursor) :
    peekSkip cursor = some (wordBehind cursor.skipsSpace cursor.rest.tail, cursor) := by
  change (if !cursor.skipsSpace then (pure cursor.rest.tail.head? : Parse _) else _) cursor = _
  rw [wordBehind]
  by_cases skips : !cursor.skipsSpace
  · rw [if_pos skips, if_pos skips]
    rfl
  · rw [if_neg skips, if_neg skips]
    dsimp only
    generalize cursor.rest.tail.dropWhile isSpace = word
    cases word with
    | nil => rfl
    | cons c word =>
      by_cases comment : c = '#'
      · subst comment
        rfl
      · simp [comment]
        rfl

/-- Behind the closing of a group only an empty input looks different. -/
theorem head?_closing (input : List Char) :
    (input ++ closing).head? = input.head? ∨
      input.head? = none ∧ (input ++ closing).head? = some ')' := by
  cases input with
  | nil => exact .inr ⟨rfl, rfl⟩
  | cons c input => exact .inl rfl

/-- What stands behind the next character is the same, unless the input ends there and the closing
is seen instead. -/
theorem wordBehind_closing (skipsSpace : Bool) (behind : List Char) :
    wordBehind skipsSpace (behind ++ closing) = wordBehind skipsSpace behind ∨
      wordBehind skipsSpace behind = none ∧
        wordBehind skipsSpace (behind ++ closing) = some ')' := by
  cases skipsSpace with
  | false => exact head?_closing behind
  | true =>
    rw [wordBehind, wordBehind, dropWhile_isSpace_closing]
    generalize behind.dropWhile isSpace = word
    cases word with
    | nil => exact .inr ⟨rfl, rfl⟩
    | cons c word =>
      by_cases comment : c = '#'
      · subst comment
        have seen := head?_closing (word.dropWhile isSpace)
        rw [← dropWhile_isSpace_closing] at seen
        exact seen
      · simp [comment]

/-- Where a word begins only in the closing, the second run sees a parenthesis. -/
theorem peekSkip_agree {f g : Option Char → Parse α}
    (found : ∀ c c', (c' = c ∨ c = none ∧ c' = some ')') → Agree Onward (f c) (g c') S) :
    Agree Onward (peekSkip >>= f) (peekSkip >>= g) S := by
  intro cursor other onward _ _ _ _ left right
  obtain ⟨rfl, more⟩ := onward
  obtain ⟨_, peeked, left⟩ := Option.bind_eq_some_iff.mp left
  obtain ⟨_, peeked', right⟩ := Option.bind_eq_some_iff.mp right
  rw [peekSkip_eq] at peeked peeked'
  cases peeked
  cases peeked'
  have seen := wordBehind_closing cursor.skipsSpace cursor.rest.tail
  rw [← List.tail_append_of_ne_nil more] at seen
  exact found _ _ seen ⟨rfl, more⟩ left right

/-- A range in a set is told from a single character alike: the closing is no hyphen. -/
theorem setItem_agree : Agree Alike setItem setItem fun _ => Alike := by
  refine setAtom_agree.bind fun first => skip_agree.bind fun _ => next_agree.bind fun c => ?_
  refine peekSkip_agree fun behind behind' seen => ?_
  have sameEnd : (c ≠ '-' ∨ behind' = some ']' ∨ behind' = some '-') ↔
      (c ≠ '-' ∨ behind = some ']' ∨ behind = some '-') := by
    obtain rfl | ⟨rfl, rfl⟩ := seen
    · rfl
    · simp
  simp only [sameEnd]
  refine .ite (fun _ => ?_) fun _ => ?_
  · split <;> first | exact .return Onward.alike | exact .fail
  · refine bumpSkip_agree.bind fun _ => setAtom_agree.bind fun last => ?_
    split
    · exact .ite (fun _ => .return id) fun _ => .fail
    · exact .fail

/-- Dropping blanks and comments makes the input no longer. -/
theorem length_dropSpace_le (inComment : Bool) (input : List Char) :
    (dropSpace inComment input).length ≤ input.length := by
  fun_induction dropSpace inComment input with
  | case1 => exact Nat.le_refl _
  | case2 c rest ih => exact Nat.le_succ_of_le ih
  | case3 c rest space ih => exact Nat.le_succ_of_le ih
  | case4 rest space ih => exact Nat.le_succ_of_le ih
  | case5 => exact Nat.le_refl _

theorem next_eq (cursor : Cursor) : next cursor = cursor.rest.head?.map (·, cursor) := by
  obtain ⟨rest, skipsSpace, groups, names⟩ := cursor
  cases rest <;> rfl

theorem eq_of_next {cursor cursor' : Cursor} {c : Char} (read : next cursor = some (c, cursor')) :
    cursor' = cursor := by
  rw [next_eq] at read
  obtain ⟨_, _, same⟩ := Option.map_eq_some_iff.mp read
  cases same
  rfl

/-- Passing a character makes the input shorter, which is what the fuel counts. -/
theorem shorter_of_bumpSkip {cursor cursor' : Cursor} {u : Unit} (more : cursor.rest ≠ [])
    (read : bumpSkip cursor = some (u, cursor')) : cursor'.rest.length < cursor.rest.length := by
  have shorter : cursor.rest.tail.length < cursor.rest.length := by
    rw [List.length_tail]
    exact Nat.sub_one_lt (mt List.length_eq_zero_iff.mp more)
  cases read
  change (if cursor.skipsSpace then { cursor with rest := dropSpace false cursor.rest.tail }
    else { cursor with rest := cursor.rest.tail } : Cursor).rest.length < _
  split
  · exact Nat.lt_of_le_of_lt (length_dropSpace_le false _) shorter
  · exact shorter

/-- Two cursors that have less to read than their runs have fuel. -/
def Short (fuel more : Nat) (cursor other : Cursor) : Prop :=
  cursor.rest.length < fuel ∧ other.rest.length < more

/-- Looking at the next character keeps both runs within their fuel. -/
theorem next_agree_short (fuel more : Nat) :
    Agree (fun cursor other => cursor.Alike other ∧ Short fuel more cursor other) next next
      fun _ cursor other => cursor.Onward other ∧ Short fuel more cursor other := by
  intro _ _ ⟨alike, short⟩ _ _ _ _ left right
  obtain ⟨same, onward⟩ := next_agree alike left right
  rw [eq_of_next left, eq_of_next right] at onward ⊢
  exact ⟨same, onward, short⟩

/-- Passing a character costs each run one unit of fuel and at least one character. -/
theorem bumpSkip_agree_short (fuel more : Nat) :
    Agree (fun cursor other => cursor.Onward other ∧ Short (fuel + 1) (more + 1) cursor other)
      bumpSkip bumpSkip
      fun _ cursor other => cursor.Alike other ∧ Short fuel more cursor other := by
  intro _ _ ⟨onward, enough, enoughOther⟩ _ _ _ _ left right
  refine (bumpSkip_agree onward left right).imp_right fun alike => ⟨alike, ?_⟩
  have shorter := shorter_of_bumpSkip onward.2 left
  have shorterOther := shorter_of_bumpSkip onward.other_ne_nil right
  constructor <;> omega

/-- Without fuel the hyphens end, so a run must not run out of it before its input ends. -/
theorem leadingHyphens_agree (fuel more : Nat) :
    Agree (fun cursor other => cursor.Alike other ∧ Short fuel more cursor other)
      (leadingHyphens fuel) (leadingHyphens more) fun _ => Alike := by
  induction fuel generalizing more with
  | zero => exact fun _ _ before => absurd before.2.1 (Nat.not_lt_zero _)
  | succ fuel ih =>
    cases more with
    | zero => exact fun _ _ before => absurd before.2.2 (Nat.not_lt_zero _)
    | succ more =>
      refine (next_agree_short _ _).bind fun c => .ite (fun _ => ?_) fun _ => ?_
      · exact (bumpSkip_agree_short _ _).bind fun _ => (ih more).bind fun _ => .return id
      · exact .return fun before => before.1.alike

/-- The fuel is enough for the hyphens. -/
theorem hyphens_agree {f g : List SetExpr → Parse α}
    (onward : ∀ hyphens, Agree Alike (f hyphens) (g hyphens) S) :
    Agree Alike (do f (← leadingHyphens ((← get).rest.length + 1)))
      (do g (← leadingHyphens ((← get).rest.length + 1))) S :=
  fun _ _ alike => (leadingHyphens_agree _ _).bind onward
    ⟨alike, Nat.lt_succ_self _, Nat.lt_succ_self _⟩

/-- A character may be passed or not. -/
theorem Agree.optional {P : Prop} [Decidable P] {f g : Unit → Parse α}
    (onward : Agree Alike (f ()) (g ()) S) :
    Agree Onward (if P then bumpSkip >>= f else f ()) (if P then bumpSkip >>= g else g ()) S :=
  .ite (fun _ => bumpSkip_agree.bind fun _ => onward) fun _ => onward.before Onward.alike

/-- A set and what stands in it are read by calls of each other, so they agree by one induction on
the fuel of the first run. -/
theorem bracketed_agree_setBody_agree (fuel more : Nat) :
    (Agree Onward (bracketed fuel) (bracketed more) fun _ => Alike) ∧
      ∀ pending items,
        Agree Alike (setBody fuel pending items) (setBody more pending items) fun _ => Alike := by
  induction fuel generalizing more with
  | zero => exact ⟨.fail, fun _ _ => .fail⟩
  | succ fuel ih =>
    cases more with
    | zero => exact ⟨nofun, fun _ _ => nofun⟩
    | succ more =>
      obtain ⟨inner, body⟩ := ih more
      constructor
      · rw [bracketed, bracketed]
        refine bumpSkip_agree.bind fun _ => next_agree.bind fun mark => .optional ?_
        refine hyphens_agree fun hyphens => next_agree.bind fun c => ?_
        have ending (items : List SetExpr) : Agree Alike
            (do let _ ← next; return (decide (mark = '^'), ← setBody fuel none items))
            (do let _ ← next; return (decide (mark = '^'), ← setBody more none items))
            fun _ => Alike :=
          next_agree.bind fun _ => ((body none items).before Onward.alike).bind fun _ => .return id
        refine .ite (fun _ => ?_) fun _ => ?_
        · exact bumpSkip_agree.bind fun _ => (Agree.return id).bind fun items => ending items
        · exact (Agree.return Onward.alike).bind fun items => ending items
      · intro pending items
        rw [setBody, setBody]
        refine skip_agree.bind fun _ => next_agree.bind fun c => ?_
        split
        · refine asciiClass_agree.bind fun item => ?_
          cases item with
          | some item => exact (body pending _).before And.left
          | none =>
            refine (inner.before fun unread => unread.2 rfl).bind fun (negated, inside) => ?_
            exact body pending _
        · exact bump_agree.bind fun _ => .return id
        · refine ((bumpIf_agree (by decide)).before Onward.alike).bind fun _ => ?_
          refine .ite (fun _ => body _ _) fun _ => ?_
          refine (bumpIf_agree (by decide)).bind fun _ => .ite (fun _ => body _ _) fun _ => ?_
          refine (bumpIf_agree (by decide)).bind fun _ => .ite (fun _ => body _ _) fun _ => ?_
          exact setItem_agree.bind fun item => body pending _

end Parse

end AttributeRelease.Pattern
