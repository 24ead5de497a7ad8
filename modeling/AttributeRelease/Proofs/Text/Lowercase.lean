import AttributeRelease.Text.Lowercase
import Mathlib.Data.List.TakeWhile

/-!
# Parts of texts in lower case

A character's lower case depends on what stands around it only if it is a capital sigma. So a part
of a text is, in lower case, a part of it in lower case, if the part settles the forms of its own
sigmas (`SigmasSettled`). No other part stays one in every text (`infix_lowerAfter_iff`).
-/

namespace AttributeRelease

/-! ## A letter with case -/

namespace Unicode

/-- The code points of several runs. -/
def CodeSet.ofRuns (runs : List Run) : CodeSet :=
  ⟨runs.flatMap fun run =>
    if run.step = 1 then [(run.first, run.last)] else run.members.map fun code => (code, code)⟩

theorem CodeSet.contains_union (first second : CodeSet) (code : Nat) :
    (first.union second).contains code = (first.contains code || second.contains code) :=
  List.any_append

theorem contains_categoriesSet (names : List String) (code : Nat) :
    (categoriesSet names).contains code =
      names.any fun name => (categorySet name).contains code := by
  suffices onward : ∀ start : CodeSet,
      (names.foldl (fun set name => set.union (categorySet name)) start).contains code =
        (start.contains code || names.any fun name => (categorySet name).contains code) from
    onward .empty
  induction names with
  | nil => exact fun start => (Bool.or_false _).symm
  | cons name rest ih =>
      intro start
      rw [List.foldl_cons, ih, CodeSet.contains_union, List.any_cons, Bool.or_assoc]

/-- Whether a set has a code point can be told from the characters that it is written with. -/
theorem contains_of_eq_read {set : CodeSet} {chars : List Char} {code : Nat} {inside : Bool}
    (written : set = .read (String.ofList chars))
    (told : (CodeSet.ofRuns ((wordsOf chars).map readRun)).contains code = inside) :
    set.contains code = inside := by
  rw [written, CodeSet.read, readRuns, String.toList_ofList]
  exact told

end Unicode

namespace Text

open Unicode

set_option maxRecDepth 20000 in
theorem isCased_A : isCased 'A' = true := by
  have property : propertySet "cased" =
      (categoriesSet ["Ll", "Lt", "Lu"]).union (.read (String.ofList _)) := rfl
  have capital : (categorySet "Lu").contains 'A'.toNat = true :=
    contains_of_eq_read rfl (by decide +kernel)
  rw [isCased, property, CodeSet.contains_union, contains_categoriesSet]
  simp only [List.any_cons, capital, Bool.true_or, Bool.or_true]

set_option maxRecDepth 20000 in
/-- The letter A counts when the end of a word is looked for: it is in none of the ignored
categories. -/
theorem isCaseIgnorable_A : isCaseIgnorable 'A' = false := by
  have property : propertySet "caseignorable" =
      (categoriesSet ["Cf", "Lm", "Me", "Mn", "Sk"]).union (.read (String.ofList _)) := rfl
  have format : (categorySet "Cf").contains 'A'.toNat = false :=
    contains_of_eq_read rfl (by decide +kernel)
  have modifier : (categorySet "Lm").contains 'A'.toNat = false :=
    contains_of_eq_read rfl (by decide +kernel)
  have enclosing : (categorySet "Me").contains 'A'.toNat = false :=
    contains_of_eq_read rfl (by decide +kernel)
  have nonspacing : (categorySet "Mn").contains 'A'.toNat = false :=
    contains_of_eq_read rfl (by decide +kernel)
  have symbol : (categorySet "Sk").contains 'A'.toNat = false :=
    contains_of_eq_read rfl (by decide +kernel)
  rw [isCaseIgnorable, property, CodeSet.contains_union, contains_categoriesSet]
  simp only [List.any_cons, format, modifier, enclosing, nonspacing, symbol, List.any_nil,
    Bool.or_false, Bool.false_or]
  exact contains_of_eq_read rfl (by decide +kernel)

/-! ## Characters in their places -/

/-- Some character is not ignored when the end of a word is looked for. -/
def Counts (chars : List Char) : Prop := ∃ c ∈ chars, isCaseIgnorable c = false

instance (chars : List Char) : Decidable (Counts chars) :=
  inferInstanceAs (Decidable (∃ c ∈ chars, _))

theorem dropWhile_isCaseIgnorable_eq_nil_iff {chars : List Char} :
    chars.dropWhile isCaseIgnorable = [] ↔ ¬ Counts chars := by
  rw [List.dropWhile_eq_nil_iff]
  simp [Counts]

/-- Characters further on make a difference only if all before are ignored. -/
theorem startsCased_append (chars more : List Char) :
    startsCased (chars ++ more) =
      if Counts chars then startsCased chars else startsCased more := by
  unfold startsCased
  rw [List.dropWhile_append]
  by_cases counts : Counts chars
  · have something := mt dropWhile_isCaseIgnorable_eq_nil_iff.mp (not_not.mpr counts)
    rw [if_pos counts]
    cases first : chars.dropWhile isCaseIgnorable with
    | nil => exact absurd first something
    | cons c rest => simp
  · simp [counts, dropWhile_isCaseIgnorable_eq_nil_iff.mpr counts]

theorem counts_of_startsCased {chars : List Char} (cased : startsCased chars = true) :
    Counts chars := by
  by_contra nothing
  rw [startsCased, dropWhile_isCaseIgnorable_eq_nil_iff.mpr nothing] at cased
  cases cased

theorem startsCased_A : startsCased ['A'] = true := by
  rw [startsCased, List.dropWhile_cons_of_neg (Bool.eq_false_iff.mp isCaseIgnorable_A)]
  exact isCased_A

/-- With a cased letter at its end a text starts cased unless something else counts before. -/
theorem startsCased_append_A {chars : List Char} :
    startsCased (chars ++ ['A']) = true ↔ (Counts chars → startsCased chars = true) := by
  rw [startsCased_append]
  by_cases counts : Counts chars <;> simp [counts, startsCased_A]

/-- A capital sigma in lower case between characters, of which those before are given backwards. -/
def lowerSigma (before behind : List Char) : Char :=
  if startsCased before && !startsCased behind then 'ς' else 'σ'

/-- A sigma takes its final form behind a cased letter and before none. -/
theorem lowerSigma_eq_final_iff {before behind : List Char} :
    lowerSigma before behind = 'ς' ↔ startsCased before = true ∧ startsCased behind = false := by
  unfold lowerSigma
  cases startsCased before <;> cases startsCased behind <;> decide

/-- A sigma takes its inner form unless it ends a word. -/
theorem lowerSigma_eq_inner_iff {before behind : List Char} :
    lowerSigma before behind = 'σ' ↔ (startsCased before = true → startsCased behind = true) := by
  unfold lowerSigma
  cases startsCased before <;> cases startsCased behind <;> decide

/-- A character in lower case between others. -/
def lowerAt (before : List Char) (c : Char) (behind : List Char) : List Char :=
  if c = 'Σ' then [lowerSigma before behind] else lowerChar c

/-- A list of characters in lower case between others. -/
def lowerBetween (behind : List Char) : (before : List Char) → List Char → List Char
  | _, [] => []
  | before, c :: rest => lowerAt before c (rest ++ behind) ++ lowerBetween behind (c :: before) rest

/-- A text is written in lower case as one with nothing behind it. -/
theorem lowerAfter_eq_lowerBetween (before chars : List Char) :
    lowerAfter before chars = lowerBetween [] before chars := by
  induction chars generalizing before with
  | nil => rfl
  | cons c rest ih =>
      rw [lowerAfter, lowerBetween, ih, List.append_nil, lowerAt, lowerSigma]
      by_cases sigma : c = 'Σ'
      · by_cases final : startsCased before && !startsCased rest <;> simp [sigma, final]
      · simp [sigma]

/-- A text is written in lower case part by part, each between the others. -/
theorem lowerBetween_append (behind before chars more : List Char) :
    lowerBetween behind before (chars ++ more) =
      lowerBetween (more ++ behind) before chars ++
        lowerBetween behind (chars.reverse ++ before) more := by
  induction chars generalizing before with
  | nil => rfl
  | cons c rest ih =>
      simp only [List.cons_append, lowerBetween, ih, List.append_assoc, List.reverse_cons,
        List.nil_append]

theorem lowerBetween_sigma (behind before rest : List Char) :
    lowerBetween behind before ('Σ' :: rest) =
      lowerSigma before (rest ++ behind) :: lowerBetween behind ('Σ' :: before) rest := rfl

theorem lowerBetween_A (behind before : List Char) : lowerBetween behind before ['A'] = ['a'] := rfl

/-! ## Settled sigmas -/

/-- What stands next to a capital sigma settles its form, whatever stands further away. -/
def Settled (before behind : List Char) : Prop :=
  (Counts before ∨ startsCased behind = true) ∧ (startsCased before = true → Counts behind)

/-- A text settles the forms of its capital sigmas: to the left of each something counts or a cased
letter follows, and to the right something counts if a cased letter precedes. -/
def SigmasSettled (chars : List Char) : Prop :=
  ∀ front rest, chars = front ++ 'Σ' :: rest → Settled front.reverse rest

/-- A text without capital sigmas has none to settle. -/
theorem sigmasSettled_of_notMem {chars : List Char} (without : 'Σ' ∉ chars) :
    SigmasSettled chars := by
  intro front rest split
  rw [split] at without
  exact absurd (List.mem_append_right front List.mem_cons_self) without

/-- Where the neighbours settle a sigma, what stands further away does not change its form. -/
theorem Settled.lowerSigma_eq {before behind : List Char} (settled : Settled before behind)
    (further beyond : List Char) :
    lowerSigma (before ++ further) (behind ++ beyond) = lowerSigma before behind := by
  obtain ⟨never, final⟩ := settled
  unfold lowerSigma
  rw [startsCased_append, startsCased_append]
  by_cases cased : startsCased before = true
  · rw [if_pos (counts_of_startsCased cased), if_pos (final cased)]
  · rcases never with counts | follows
    · simp [counts, cased]
    · simp [counts_of_startsCased follows, follows]

/-- A part with settled sigmas is the same in lower case wherever it stands. -/
theorem lowerBetween_eq_of_settled {chars before : List Char}
    (settled : ∀ front rest, chars = front ++ 'Σ' :: rest → Settled (front.reverse ++ before) rest)
    (further beyond : List Char) :
    lowerBetween beyond (before ++ further) chars = lowerBetween [] before chars := by
  induction chars generalizing before with
  | nil => rfl
  | cons c rest ih =>
      have first : lowerAt (before ++ further) c (rest ++ beyond) = lowerAt before c rest := by
        by_cases sigma : c = 'Σ'
        · have here : Settled before rest := settled [] rest (by rw [sigma]; rfl)
          rw [lowerAt, lowerAt, if_pos sigma, if_pos sigma, here.lowerSigma_eq]
        · rw [lowerAt, lowerAt, if_neg sigma, if_neg sigma]
      have others : lowerBetween beyond (c :: before ++ further) rest =
          lowerBetween [] (c :: before) rest := by
        apply ih
        intro front behind split
        have whole := settled (c :: front) behind (by rw [split]; rfl)
        rwa [List.reverse_cons, List.append_assoc] at whole
      rw [lowerBetween, lowerBetween, List.append_nil, first, ← List.cons_append, others]

/-- A text in lower case has that of each part between those of the others. -/
theorem lowerAfter_part (front part rest : List Char) :
    lowerAfter [] (front ++ part ++ rest) = lowerBetween (part ++ rest) [] front ++
      lowerBetween rest front.reverse part ++
        lowerBetween [] (part.reverse ++ front.reverse) rest := by
  simp only [lowerAfter_eq_lowerBetween, lowerBetween_append, List.append_nil, List.reverse_append]

/-- A part whose sigmas are settled is written in lower case inside a text as it is by itself. -/
theorem infix_lowerAfter {part whole : List Char} (settled : SigmasSettled part)
    (inside : part <:+: whole) : lowerAfter [] part <:+: lowerAfter [] whole := by
  obtain ⟨front, rest, rfl⟩ := inside
  have same : lowerBetween rest ([] ++ front.reverse) part = lowerBetween [] [] part := by
    refine lowerBetween_eq_of_settled (fun before behind split => ?_) _ _
    rw [List.append_nil]
    exact settled before behind split
  rw [List.nil_append] at same
  rw [lowerAfter_part, same, lowerAfter_eq_lowerBetween]
  exact ⟨_, _, rfl⟩

/-! ## Sigmas that are not settled -/

section Counting

variable {form : Char} {further beyond : List Char}
  (keeps : ∀ before behind, lowerSigma (before ++ further) (behind ++ beyond) = form →
    lowerSigma before behind = form)
include keeps

/-- Where what stands further away gives no sigma a form that it has not by itself, there are not
more of that form. -/
theorem count_lowerBetween_le (before behind chars : List Char) :
    (lowerBetween (behind ++ beyond) (before ++ further) chars).count form ≤
      (lowerBetween behind before chars).count form := by
  induction chars generalizing before with
  | nil => exact Nat.le_refl _
  | cons c rest ih =>
      rw [lowerBetween, lowerBetween, List.count_append, List.count_append]
      refine Nat.add_le_add ?_ (ih (c :: before))
      by_cases sigma : c = 'Σ'
      · rw [lowerAt, lowerAt, if_pos sigma, if_pos sigma, ← List.append_assoc rest]
        by_cases same : lowerSigma (before ++ further) (rest ++ behind ++ beyond) = form
        · rw [same, keeps _ _ same]
        · rw [List.count_singleton, beq_false_of_ne same]
          exact Nat.zero_le _
      · rw [lowerAt, lowerAt, if_neg sigma, if_neg sigma]

/-- There are fewer of a form than there were when one sigma has lost it. -/
theorem count_lowerBetween_lt {front rest : List Char}
    (before : lowerSigma front.reverse rest = form)
    (after : lowerSigma (front.reverse ++ further) (rest ++ beyond) ≠ form) :
    (lowerBetween beyond further (front ++ 'Σ' :: rest)).count form <
      (lowerBetween [] [] (front ++ 'Σ' :: rest)).count form := by
  have left := count_lowerBetween_le keeps [] ('Σ' :: rest) front
  have right := count_lowerBetween_le keeps ('Σ' :: front.reverse) [] rest
  rw [lowerBetween_append, lowerBetween_append, lowerBetween_sigma, lowerBetween_sigma,
    List.count_append, List.count_append, List.count_cons_of_ne after, List.append_nil,
    List.append_nil, List.append_nil, before, List.count_cons_self]
  simp only [List.nil_append, List.cons_append] at left right ⊢
  omega

/-- A part of a text is no part of it in lower case if a sigma of it has lost its form and there is
none of that form around the part. -/
theorem not_infix_of_changed {front rest : List Char}
    (before : lowerSigma front.reverse rest = form)
    (after : lowerSigma (front.reverse ++ further) (rest ++ beyond) ≠ form)
    (outside : ∀ behind, form ∉ lowerBetween behind [] further.reverse)
    (onward : ∀ before, form ∉ lowerBetween [] before beyond) :
    ¬ lowerAfter [] (front ++ 'Σ' :: rest) <:+:
      lowerAfter [] (further.reverse ++ (front ++ 'Σ' :: rest) ++ beyond) := by
  intro inside
  have fewer := count_lowerBetween_lt keeps before after
  have more := inside.sublist.count_le form
  rw [lowerAfter_part, lowerAfter_eq_lowerBetween, List.count_append, List.count_append,
    List.count_eq_zero_of_not_mem (outside _), List.count_eq_zero_of_not_mem (onward _),
    List.reverse_reverse] at more
  omega

end Counting

/-- A cased letter in front makes a sigma final that was not, if nothing counts between them. -/
theorem not_infix_behind_A {front rest : List Char} (nothing : ¬ Counts front.reverse)
    (uncased : startsCased rest = false) :
    ¬ lowerAfter [] (front ++ 'Σ' :: rest) <:+: lowerAfter [] ('A' :: (front ++ 'Σ' :: rest)) := by
  have keeps : ∀ before behind, lowerSigma (before ++ ['A']) (behind ++ []) = 'σ' →
      lowerSigma before behind = 'σ' := by
    intro before behind inner
    rw [List.append_nil, lowerSigma_eq_inner_iff, startsCased_append_A] at inner
    exact lowerSigma_eq_inner_iff.mpr fun cased => inner fun _ => cased
  have before : lowerSigma front.reverse rest = 'σ' :=
    lowerSigma_eq_inner_iff.mpr fun cased => absurd (counts_of_startsCased cased) nothing
  have after : lowerSigma (front.reverse ++ ['A']) (rest ++ []) = 'ς' := by
    rw [List.append_nil, lowerSigma_eq_final_iff, startsCased_append_A]
    exact ⟨fun counts => absurd counts nothing, uncased⟩
  have lost := not_infix_of_changed keeps before (by rw [after]; decide)
    (fun behind => by rw [List.reverse_singleton, lowerBetween_A]; decide)
    (fun _ => List.not_mem_nil)
  rwa [List.append_nil] at lost

/-- A cased letter behind makes a sigma not final that was, if nothing counts between them. -/
theorem not_infix_before_A {front rest : List Char} (cased : startsCased front.reverse = true)
    (nothing : ¬ Counts rest) :
    ¬ lowerAfter [] (front ++ 'Σ' :: rest) <:+: lowerAfter [] (front ++ 'Σ' :: rest ++ ['A']) := by
  have keeps : ∀ before behind, lowerSigma (before ++ []) (behind ++ ['A']) = 'ς' →
      lowerSigma before behind = 'ς' := by
    intro before behind final
    rw [List.append_nil, lowerSigma_eq_final_iff] at final
    refine lowerSigma_eq_final_iff.mpr ⟨final.1, ?_⟩
    by_contra follows
    rw [startsCased_append_A.mpr fun _ => Bool.not_eq_false _ ▸ follows] at final
    cases final.2
  have before : lowerSigma front.reverse rest = 'ς' :=
    lowerSigma_eq_final_iff.mpr
      ⟨cased, Bool.eq_false_iff.mpr fun cased => nothing (counts_of_startsCased cased)⟩
  have after : lowerSigma (front.reverse ++ []) (rest ++ ['A']) = 'σ' := by
    rw [lowerSigma_eq_inner_iff, startsCased_append_A]
    exact fun _ counts => absurd counts nothing
  exact not_infix_of_changed keeps before (by rw [after]; decide)
    (fun _ => List.not_mem_nil) (fun before => by rw [lowerBetween_A]; decide)

/-- A text is in lower case a part of every text in lower case that it is a part of, exactly if it
settles the forms of its sigmas. -/
theorem infix_lowerAfter_iff (part : List Char) :
    (∀ whole, part <:+: whole → lowerAfter [] part <:+: lowerAfter [] whole) ↔
      SigmasSettled part := by
  refine ⟨fun kept front rest split => ⟨?_, ?_⟩, fun settled whole inside =>
    infix_lowerAfter settled inside⟩
  · by_contra unsettled
    obtain ⟨nothing, uncased⟩ := not_or.mp unsettled
    refine not_infix_behind_A nothing (Bool.not_eq_true _ ▸ uncased) ?_
    rw [← split]
    exact kept _ ⟨['A'], [], by simp⟩
  · intro cased
    by_contra nothing
    refine not_infix_before_A cased nothing ?_
    rw [← split]
    exact kept _ ⟨[], ['A'], by simp⟩

end Text

end AttributeRelease
