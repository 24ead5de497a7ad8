import AttributeRelease.Filter.Comparison
import AttributeRelease.Proofs.Pattern.Programs
import AttributeRelease.Proofs.Pattern.Reading
import AttributeRelease.Resolver.Config.Basic

/-!
# Matching whole texts

Comparisons and mapping rules put a pattern between anchors before it is compiled. If the pattern is
a regular expression of its own, the anchors hold for all of it: every match is the whole text.
-/

namespace AttributeRelease.Pattern

/-! ## Programs between anchors -/

/-- A program that matches a part between the beginning and the end of the text. -/
def enclosed (part : List Instr) : List Instr :=
  .save 0 :: .look .textStart :: (part ++ [.look .textEnd, .save 1, .accept])

/-- The instructions of an enclosed program by their addresses. -/
inductive EnclosedAt (part : List Instr) : Nat → Instr → Prop where
  | opening : EnclosedAt part 0 (.save 0)
  | textStart : EnclosedAt part 1 (.look .textStart)
  | inside {address : Nat} {instr : Instr} (above : 2 ≤ address)
      (below : address < 2 + part.length) (member : instr ∈ part) : EnclosedAt part address instr
  | textEnd : EnclosedAt part (part.length + 2) (.look .textEnd)
  | closing : EnclosedAt part (part.length + 3) (.save 1)
  | accept : EnclosedAt part (part.length + 4) .accept

variable {part : List Instr} {text : Array Char} {thread next : Thread} {instr : Instr}

/-- Each instruction of an enclosed part belongs to the enclosure or to the part. -/
theorem enclosedAt_of_getElem? {address : Nat}
    (present : (enclosed part)[address]? = some instr) : EnclosedAt part address instr := by
  match address with
  | 0 =>
    cases present
    exact .opening
  | 1 =>
    cases present
    exact .textStart
  | address + 2 =>
    change (part ++ [.look .textEnd, .save 1, .accept])[address]? = some instr at present
    by_cases before : address < part.length
    · rw [List.getElem?_append_left before] at present
      exact .inside (by omega) (by omega) (List.mem_of_getElem? present)
    · obtain ⟨offset, rfl⟩ := Nat.exists_eq_add_of_le (Nat.le_of_not_lt before)
      rw [List.getElem?_append_right (by omega), Nat.add_sub_cancel_left] at present
      match offset with
      | 0 =>
        cases present
        exact .textEnd
      | 1 =>
        cases present
        exact .closing
      | 2 =>
        cases present
        exact .accept
      | offset + 3 => cases present

/-- The start of the text holds at position zero only. -/
theorem position_eq_zero_of_textStart (inside : thread.position ≤ text.size)
    (holds : Look.holds .textStart
      (if thread.position = 0 then none else text[thread.position - 1]?)
        text[thread.position]? = true) : thread.position = 0 := by
  by_contra later
  have before : thread.position - 1 < text.size := by omega
  rw [if_neg later, Array.getElem?_eq_getElem before] at holds
  cases holds

/-- The end of the text holds behind the last character only. -/
theorem position_eq_size_of_textEnd (inside : thread.position ≤ text.size) {before : Option Char}
    (holds : Look.holds .textEnd before text[thread.position]? = true) :
    thread.position = text.size := by
  apply Nat.le_antisymm inside
  exact Array.getElem?_eq_none_iff.mp (Option.isNone_iff_eq_none.mp holds)

/-- What is known of a thread of an enclosed program: behind the first anchor the match begins with
the text, behind the second it ends with the text. -/
structure Enclosed (text : Array Char) (size : Nat) (thread : Thread) : Prop where
  inside : thread.position ≤ text.size
  opening : thread.address = 1 → thread.slots.lookup 0 = some thread.position
  opened : 2 ≤ thread.address → thread.slots.lookup 0 = some 0
  closing : thread.address = size + 3 → thread.position = text.size
  closed : thread.address = size + 4 → thread.slots.lookup 1 = some text.size

/-- Each instruction keeps a thread inside the enclosure, from the start of the text to its end. -/
theorem Enclosed.step (fits : Fits part 2) (known : Enclosed text part.length thread)
    (present : (enclosed part)[thread.address]? = some instr)
    (listed : next ∈ step text instr thread) : Enclosed text part.length next := by
  have inside := position_le_of_step known.inside listed
  have place := enclosedAt_of_getElem? present
  generalize here : thread.address = address at place
  cases place with
  | opening =>
    cases mem_step_save listed
    refine ⟨inside, fun _ => List.lookup_cons_self, ?_, ?_, ?_⟩
    all_goals
      simp only [here]
      omega
  | textStart =>
    obtain ⟨holds, rfl⟩ := mem_step_look listed
    have first := position_eq_zero_of_textStart known.inside holds
    refine ⟨inside, ?_, fun _ => first ▸ known.opening here, ?_, ?_⟩
    all_goals
      simp only [here]
      omega
  | inside above below member =>
    obtain ⟨⟨nextAbove, nextBelow⟩, same⟩ :=
      step_stays (fits instr member) (here ▸ above) (here ▸ below) listed
    refine ⟨inside, by omega, fun _ => ?_, by omega, by omega⟩
    rw [same 0 Nat.zero_lt_two]
    exact known.opened (here ▸ above)
  | textEnd =>
    obtain ⟨holds, rfl⟩ := mem_step_look listed
    have last := position_eq_size_of_textEnd known.inside holds
    refine ⟨inside, ?_, fun _ => known.opened (by omega), fun _ => last, ?_⟩
    all_goals
      simp only [here]
      omega
  | closing =>
    cases mem_step_save listed
    have last := known.closing here
    refine ⟨inside, ?_, fun _ => known.opened (by omega), fun _ => last, fun _ => ?_⟩
    · simp only [here]
      omega
    · exact List.lookup_cons_self.trans (congrArg some last)
  | accept => cases listed

/-- Only the last instruction of an enclosed part accepts. -/
theorem address_of_accept (fits : Fits part 2) {address : Nat}
    (present : (enclosed part)[address]? = some .accept) : address = part.length + 4 := by
  cases enclosedAt_of_getElem? present with
  | inside above below member => exact (fits .accept member).elim
  | accept => rfl

/-- A match of an enclosed program begins and ends with the text. -/
theorem search_enclosed (fits : Fits part 2) {slots : Slots}
    (found : search (enclosed part).toArray text = some slots) :
    slots.lookup 0 = some 0 ∧ slots.lookup 1 = some text.size := by
  have known : ∀ thread ∈ (List.range (text.size + 1)).map fun position => Thread.mk 0 position [],
      Enclosed text part.length thread := by
    intro thread listed
    obtain ⟨position, inside, rfl⟩ := List.mem_map.mp listed
    exact ⟨Nat.le_of_lt_succ (List.mem_range.mp inside), nofun, nofun, nofun, nofun⟩
  obtain ⟨thread, ended, accepts, rfl⟩ := exists_of_run (fun known present next listed =>
    Enclosed.step fits known (List.getElem?_toArray ▸ present) listed) known found
  have here := address_of_accept fits (List.getElem?_toArray ▸ accepts)
  exact ⟨ended.opened (by omega), ended.closed here⟩

/-! ## Patterns between anchors -/

/-- The flags of a pattern have no effect behind the group in which it stands. -/
theorem toNode?_anchored {flags : Flags} (oneLine : flags.multiLine = false) (expr : Expr) :
    Expr.toNode? flags (.concat [.anchor .lineStart, .group (.flags []) expr, .anchor .lineEnd]) =
      (expr.toNode? flags).map fun applied =>
        (.cat (.look .textStart) (.cat applied.1 (.cat (.look .textEnd) .empty)), flags) := by
  have behind : flags.update [] = flags := rfl
  have first : lookOf flags .lineStart = .textStart := by simp [lookOf, oneLine]
  have last : lookOf flags .lineEnd = .textEnd := by simp [lookOf, oneLine]
  simp only [Expr.toNode?, concatNode?, Option.bind_eq_bind, Option.bind_some, behind, first]
  cases expr.toNode? flags with
  | none => rfl
  | some applied => simp [last]

/-- An anchored pattern is laid out as the part of its body, enclosed. -/
theorem layout_anchored (body : Node) :
    (Node.group 0 (.cat (.look .textStart) (.cat body (.cat (.look .textEnd) .empty)))).layout 0 ++
      [Instr.accept] = enclosed (body.layout 2) := by
  simp [Node.layout, enclosed]

/-- The match is the whole of a text, from its first to its last character. -/
def Match.IsWhole (found : Match) (text : String) : Prop :=
  found.span? 0 = some (0, text.length) ∧ found.group? 0 = some text

namespace Regex

/-- The program of an anchored pattern that can be read alone. -/
theorem program_anchored {pattern : String} {ignoreCase : Bool} {regex : Regex}
    (alone : (Expr.parse? pattern).isSome)
    (compiled : compile? (anchored pattern) ignoreCase = some regex) :
    ∃ part, Fits part 2 ∧ regex.program = (enclosed part).toArray := by
  obtain ⟨⟨expr, cursor⟩, read⟩ := Option.isSome_iff_exists.mp alone
  obtain ⟨⟨whole, cursor'⟩, between, compiled⟩ := Option.bind_eq_some_iff.mp compiled
  obtain ⟨⟨node, after⟩, applied, compiled⟩ := Option.bind_eq_some_iff.mp compiled
  obtain ⟨_, _, same⟩ := Option.bind_eq_some_iff.mp compiled
  obtain ⟨rfl, numbered⟩ := Parse.parse?_anchored read between
  rw [toNode?_anchored rfl] at applied
  obtain ⟨⟨body, _⟩, bodyApplied, sameNode⟩ := Option.map_eq_some_iff.mp applied
  cases sameNode
  cases same
  refine ⟨body.layout 2, fits_layout body ?_ 2, congrArg List.toArray (layout_anchored body)⟩
  exact fun listed => numbered (groups_toNode? expr bodyApplied listed)

/-- A pattern that is a regular expression of its own matches whole texts only. -/
theorem find?_anchored {pattern text : String} {ignoreCase : Bool} {regex : Regex} {found : Match}
    (alone : (Expr.parse? pattern).isSome)
    (compiled : compile? (anchored pattern) ignoreCase = some regex)
    (matched : regex.find? text = some found) : found.IsWhole text := by
  obtain ⟨part, fits, program⟩ := program_anchored alone compiled
  obtain ⟨slots, searched, rfl⟩ := Option.map_eq_some_iff.mp matched
  rw [program] at searched
  obtain ⟨first, last⟩ := search_enclosed fits searched
  have span : (Match.mk text.toList.toArray slots regex.names).span? 0 = some (0, text.length) := by
    change (do return (← slots.lookup 0, ← slots.lookup 1)) = _
    rw [first, last]
    rfl
  refine ⟨span, ?_⟩
  have whole : text.toList.take text.length = text.toList :=
    List.take_of_length_le (Nat.le_of_eq String.length_toList)
  rw [Match.group?, span]
  simp [whole]

end Regex

end AttributeRelease.Pattern

namespace AttributeRelease

open AttributeRelease.Filter (Comparison)
open Pattern (Expr Match Regex)
open Resolver (Mapping MappingConfig)

/-- A comparison by a pattern is prepared by compiling the anchored pattern. -/
theorem exists_of_compile_regex {pattern : String} {caseSensitive : Bool} {comparison : Comparison}
    (prepared : Comparison.Spec.compile ⟨.regex, pattern, caseSensitive⟩ = .ok comparison) :
    ∃ regex, comparison = .regex regex ∧
      Regex.compile? (Regex.anchored pattern) (!caseSensitive) = some regex := by
  rw [Comparison.Spec.compile] at prepared
  dsimp only at prepared
  split at prepared
  · rename_i regex compiled
    cases prepared
    exact ⟨regex, rfl, compiled⟩
  · cases prepared

/-- A mapping by a pattern is prepared by compiling the anchored pattern. -/
theorem compile?_of_compile_mapping {pattern returnValue pluginId : String} {caseSensitive : Bool}
    {mapping : Mapping}
    (prepared : MappingConfig.compile ⟨pattern, returnValue, caseSensitive, false⟩ pluginId =
      .ok mapping) :
    Regex.compile? (Regex.anchored pattern) (!caseSensitive) = some mapping.source ∧
      mapping.returnValue = returnValue := by
  change (do
    let regex ← Resolver.compileFor pluginId (Regex.anchored pattern) caseSensitive
    return Mapping.mk regex returnValue) = Except.ok mapping at prepared
  rw [Resolver.compileFor] at prepared
  split at prepared
  · rename_i regex compiled
    cases prepared
    exact ⟨compiled, rfl⟩
  · cases prepared

/-- A pattern that is a regular expression of its own is compared with whole texts, and maps whole
texts, with or without regard to case: a comparison accepts a text, and a rule that may not match a
part applies to it, exactly if there is a match, and the match is the text from its first to its
last character. -/
theorem whole_texts_matched (pattern : String) (alone : (Expr.parse? pattern).isSome) :
    (∀ caseSensitive comparison,
      Comparison.Spec.compile ⟨.regex, pattern, caseSensitive⟩ = .ok comparison →
        ∃ regex, comparison = .regex regex ∧ ∀ text, comparison.accepts text = true ↔
          ∃ found, regex.find? text = some found ∧ found.IsWhole text) ∧
      ∀ returnValue caseSensitive pluginId mapping,
        MappingConfig.compile ⟨pattern, returnValue, caseSensitive, false⟩ pluginId = .ok mapping →
          ∀ text mapped, mapping.apply? text = some mapped ↔
            ∃ found, mapping.source.find? text = some found ∧ found.IsWhole text ∧
              found.expand returnValue = mapped := by
  constructor
  · intro caseSensitive comparison prepared
    obtain ⟨regex, rfl, compiled⟩ := exists_of_compile_regex prepared
    refine ⟨regex, rfl, fun text => ?_⟩
    rw [Comparison.accepts, Regex.isMatch, Option.isSome_iff_exists]
    exact exists_congr fun found =>
      ⟨fun matched => ⟨matched, Regex.find?_anchored alone compiled matched⟩, And.left⟩
  · intro returnValue caseSensitive pluginId mapping prepared text mapped
    obtain ⟨compiled, rfl⟩ := compile?_of_compile_mapping prepared
    unfold Mapping.apply?
    rw [Option.map_eq_some_iff]
    refine exists_congr fun found => and_congr_right fun matched => ?_
    exact ⟨fun same => ⟨Regex.find?_anchored alone compiled matched, same⟩, And.right⟩

/-- The program of `a|b` between anchors. -/
def eitherLetter : Regex :=
  ⟨#[.save 0, .look .textStart, .split 3 5, .char (.single 97), .jump 6, .char (.single 98),
    .look .textEnd, .save 1, .accept], []⟩

/-- Of two letters either is accepted and mapped, and a text that only begins with one is not. -/
theorem whole_texts_matched_letters :
    (Expr.parse? "a|b").isSome ∧
      Comparison.Spec.compile ⟨.regex, "a|b", true⟩ = .ok (.regex eitherLetter) ∧
      (∃ found, eitherLetter.find? "b" = some found ∧ found.IsWhole "b") ∧
      (Comparison.regex eitherLetter).accepts "ab" = false ∧
      MappingConfig.compile ⟨"a|b", "x", true, false⟩ "letters" = .ok ⟨eitherLetter, "x"⟩ ∧
      (∃ found, eitherLetter.find? "b" = some found ∧ found.IsWhole "b" ∧ found.expand "x" = "x") ∧
      Mapping.apply? ⟨eitherLetter, "x"⟩ "ab" = none := by
  obtain ⟨compares, maps⟩ := whole_texts_matched "a|b" rfl
  obtain ⟨regex, same, accepts⟩ := compares true (.regex eitherLetter) rfl
  cases same
  have mapped := maps "x" true "letters" ⟨eitherLetter, "x"⟩ rfl "b" "x"
  exact ⟨rfl, rfl, (accepts "b").mp rfl, rfl, rfl, mapped.mp rfl, rfl⟩

/-- The program of `a)|(?:b` between anchors: each of its alternatives has one of the anchors. -/
def loosened : Regex :=
  ⟨#[.save 0, .split 2 5, .look .textStart, .char (.single 97), .jump 7, .char (.single 98),
    .look .textEnd, .save 1, .accept], []⟩

/-- A pattern that closes the group around it is no regular expression of its own, but is accepted
between anchors. It then matches the beginning of a text, and the text is accepted and mapped. -/
theorem beginning_matched :
    Expr.parse? "a)|(?:b" = none ∧
      Comparison.Spec.compile ⟨.regex, "a)|(?:b", true⟩ = .ok (.regex loosened) ∧
      (Comparison.regex loosened).accepts "ab" = true ∧
      MappingConfig.compile ⟨"a)|(?:b", "x", true, false⟩ "letters" = .ok ⟨loosened, "x"⟩ ∧
      Mapping.apply? ⟨loosened, "x"⟩ "ab" = some "x" ∧
      ∃ found, loosened.find? "ab" = some found ∧ found.span? 0 = some (0, 1) ∧
        ¬ found.IsWhole "ab" := by
  refine ⟨rfl, rfl, rfl, rfl, rfl, ⟨#['a', 'b'], [(1, 1), (0, 0)], []⟩, rfl, rfl, fun whole => ?_⟩
  cases whole.1

end AttributeRelease
