import AttributeRelease.Pattern.Node

/-!
# Matching

A pattern is laid out as a program whose instructions test a character or a position, note where a
group begins or ends, or branch. `search` runs it by backtracking: of two branches the first is
tried first, and no instruction is tried twice at one position, since it would fail again. So the
match found begins as far left as possible and prefers earlier branches, and the running time is
bounded by the length of the program times that of the text.
-/

namespace AttributeRelease.Pattern

open Unicode (CodeSet)

/-- An instruction. All but the branches go on with the next one. -/
inductive Instr where
  | char (chars : CodeSet)
  | look (condition : Look)
  | save (slot : Nat)
  | split (first second : Nat)
  | jump (target : Nat)
  | accept
  deriving Repr, Inhabited

/-- A branch that goes on or jumps away, in the preferred order. -/
def branch (greedy : Bool) (onward away : Nat) : Instr :=
  if greedy then .split onward away else .split away onward

/-- Copies of a part laid out one after the other from an address on. -/
def copies (layout : Nat → List Instr) : Nat → Nat → List Instr
  | 0, _ => []
  | count + 1, start =>
    let first := layout start
    first ++ copies layout count (start + first.length)

/-- Optional copies nested in one another: whoever skips one skips all that follow. -/
def optionals (layout : Nat → List Instr) (greedy : Bool) (size finish : Nat) :
    Nat → Nat → List Instr
  | 0, _ => []
  | count + 1, start =>
    branch greedy (start + 1) finish ::
      (layout (start + 1) ++ optionals layout greedy size finish count (start + 1 + size))

/-- The instructions of a pattern from an address on; they go on behind the last one. -/
def Node.layout : Node → Nat → List Instr
  | .empty, _ => []
  | .set chars, _ => [.char chars]
  | .look condition, _ => [.look condition]
  | .group index body, start =>
    .save (2 * index) :: (body.layout (start + 1) ++ [.save (2 * index + 1)])
  | .cat first second, start =>
    let first := first.layout start
    first ++ second.layout (start + first.length)
  | .alt first second, start =>
    let first := first.layout (start + 1)
    let middle := start + 1 + first.length + 1
    let second := second.layout middle
    .split (start + 1) middle :: (first ++ .jump (middle + second.length) :: second)
  | .repeated min max greedy body, start =>
    let size := (body.layout 0).length
    match max with
    | some max =>
      let required := copies body.layout min start
      let middle := start + required.length
      required ++
        optionals body.layout greedy size (middle + (max - min) * (size + 1)) (max - min) middle
    | none =>
      match min with
      | 0 =>
        let finish := start + 1 + size + 1
        branch greedy (start + 1) finish ::
          (body.layout (start + 1) ++ [branch greedy (start + 1) finish])
      | min + 1 =>
        let required := copies body.layout min start
        let last := start + required.length
        required ++ body.layout last ++ [branch greedy last (last + size + 1)]

/-- Roughly the space, in bytes, that a pattern takes when all repetitions are written out. -/
def Node.weight : Node → Nat
  | .empty => 0
  | .set chars =>
    32 + (chars.ranges.map fun range => if range.2 < 128 then 8 else 24).sum
  | .look _ => 32
  | .group _ body => body.weight + 64
  | .cat first second => first.weight + second.weight
  | .alt first second => first.weight + second.weight + 32
  | .repeated min max _ body =>
    match max with
    | some max => min * body.weight + (max - min) * (body.weight + 32)
    | none => Nat.max min 1 * body.weight + 64

/-- The greatest weight of a pattern that is accepted. -/
def weightLimit : Nat := 10 * Nat.pow 2 20

/-! ## Running a program -/

/-- Whether a character counts as part of a word. -/
def isWordChar (unicode : Bool) (c : Option Char) : Bool :=
  match c with
  | some c => (perlSet unicode .word).contains c.toNat
  | none => false

/-- Whether a condition holds between two characters, which are missing at the ends of the text. -/
def Look.holds : Look → Option Char → Option Char → Bool
  | .textStart, before, _ => before.isNone
  | .textEnd, _, after => after.isNone
  | .lineStart, before, _ => before.isNone || before == some '\n'
  | .lineEnd, _, after => after.isNone || after == some '\n'
  | .crlfLineStart, before, after =>
    before.isNone || before == some '\n' || (before == some '\r' && after != some '\n')
  | .crlfLineEnd, before, after =>
    after.isNone || after == some '\r' || (after == some '\n' && before != some '\r')
  | .word boundary unicode, before, after =>
    let left := isWordChar unicode before
    let right := isWordChar unicode after
    match boundary with
    | .edge => left != right
    | .noEdge => left == right
    | .opening => !left && right
    | .closing => left && !right
    | .openingHalf => !left
    | .closingHalf => !right

/-- The positions noted for groups, the latest first. -/
abbrev Slots := List (Nat × Nat)

/-- A way to go on: an instruction, a position, and what was noted on the way. -/
structure Thread where
  address : Nat
  position : Nat
  slots : Slots

/-- The ways to go on from a thread, the preferred one first. -/
def step (text : Array Char) (instr : Instr) (thread : Thread) : List Thread :=
  let position := thread.position
  let onward := { thread with address := thread.address + 1 }
  match instr with
  | .char chars =>
    match text[position]? with
    | some c => if chars.contains c.toNat then [{ onward with position := position + 1 }] else []
    | none => []
  | .look condition =>
    let before := if position = 0 then none else text[position - 1]?
    if condition.holds before text[position]? then [onward] else []
  | .save slot => [{ onward with slots := (slot, position) :: thread.slots }]
  | .split first second => [{ thread with address := first }, { thread with address := second }]
  | .jump target => [{ thread with address := target }]
  | .accept => []

/-- Runs threads in order until one accepts; `seen` marks the pairs of instruction and position that
were tried. -/
def run (program : Array Instr) (text : Array Char) : Nat → Array Bool → List Thread → Option Slots
  | 0, _, _ => none
  | _, _, [] => none
  | fuel + 1, seen, thread :: rest =>
    let mark := thread.position * program.size + thread.address
    if seen.getD mark true then run program text fuel seen rest
    else
      match program[thread.address]? with
      | none => run program text fuel seen rest
      | some .accept => some thread.slots
      | some instr =>
        run program text fuel (seen.setIfInBounds mark true) (step text instr thread ++ rest)

/-- The positions of the groups in the first match of a program in a text, tried from each position
in turn. -/
def search (program : Array Instr) (text : Array Char) : Option Slots :=
  let places := program.size * (text.size + 1)
  run program text (2 * places + text.size + 2) (Array.replicate places false)
    ((List.range (text.size + 1)).map fun position => ⟨0, position, []⟩)

end AttributeRelease.Pattern
