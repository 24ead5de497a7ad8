import AttributeRelease.Pattern.Expr
import AttributeRelease.Unicode.CaseFolding
import AttributeRelease.Unicode.Category

/-!
# Patterns with their flags applied

A `Node` says what a pattern matches without regard to flags: sets of characters, conditions on
positions, groups, sequences, alternatives and repetitions. `Expr.toNode?` applies the flags. It
answers `none` where a name of a property is unknown and where, with Unicode off, something other
than ASCII could match: negated classes, the dot, and characters above ASCII in classes.
-/

namespace AttributeRelease.Pattern

open Unicode (CodeSet)

/-- How the characters before and after a position must relate, as far as they are word
characters. -/
inductive Boundary where
  | edge
  | noEdge
  | opening
  | closing
  | openingHalf
  | closingHalf
  deriving DecidableEq, Repr

/-- A condition on a position. -/
inductive Look where
  | textStart
  | textEnd
  | lineStart
  | lineEnd
  | crlfLineStart
  | crlfLineEnd
  | word (boundary : Boundary) (unicode : Bool)
  deriving DecidableEq, Repr

/-- What a pattern matches. -/
inductive Node where
  | empty
  | set (chars : CodeSet)
  | look (condition : Look)
  | group (index : Nat) (body : Node)
  | cat (first second : Node)
  | alt (first second : Node)
  | repeated (min : Nat) (max : Option Nat) (greedy : Bool) (body : Node)
  deriving Repr

/-- The flags in force. -/
structure Flags where
  ignoreCase : Bool := false
  multiLine : Bool := false
  dotMatchesNewline : Bool := false
  swapGreed : Bool := false
  unicode : Bool := true
  crlf : Bool := false
  deriving DecidableEq, Repr

namespace Flags

/-- Sets or clears one flag. -/
def put (flags : Flags) : Flag × Bool → Flags
  | (.ignoreCase, value) => { flags with ignoreCase := value }
  | (.multiLine, value) => { flags with multiLine := value }
  | (.dotMatchesNewline, value) => { flags with dotMatchesNewline := value }
  | (.swapGreed, value) => { flags with swapGreed := value }
  | (.unicode, value) => { flags with unicode := value }
  | (.crlf, value) => { flags with crlf := value }
  | (.ignoreSpace, _) => flags

/-- Sets and clears several flags. -/
def update (flags : Flags) (changes : FlagChanges) : Flags := changes.foldl put flags

end Flags

/-! ## Classes -/

/-- The set of an ASCII class. -/
def asciiSet (name : String) : CodeSet :=
  match name with
  | "alnum" => ⟨[(0x30, 0x39), (0x41, 0x5A), (0x61, 0x7A)]⟩
  | "alpha" => ⟨[(0x41, 0x5A), (0x61, 0x7A)]⟩
  | "ascii" => .range 0 0x7F
  | "blank" => ⟨[(0x9, 0x9), (0x20, 0x20)]⟩
  | "cntrl" => ⟨[(0, 0x1F), (0x7F, 0x7F)]⟩
  | "digit" => .range 0x30 0x39
  | "graph" => .range 0x21 0x7E
  | "lower" => .range 0x61 0x7A
  | "print" => .range 0x20 0x7E
  | "punct" => ⟨[(0x21, 0x2F), (0x3A, 0x40), (0x5B, 0x60), (0x7B, 0x7E)]⟩
  | "space" => ⟨[(0x9, 0xD), (0x20, 0x20)]⟩
  | "upper" => .range 0x41 0x5A
  | "word" => ⟨[(0x30, 0x39), (0x41, 0x5A), (0x5F, 0x5F), (0x61, 0x7A)]⟩
  | "xdigit" => ⟨[(0x30, 0x39), (0x41, 0x46), (0x61, 0x66)]⟩
  | _ => .empty

/-- The set of a class named by one letter. -/
def perlSet (unicode : Bool) : PerlClass → CodeSet
  | .digit => if unicode then Unicode.digits else asciiSet "digit"
  | .space => if unicode then Unicode.spaces else asciiSet "space"
  | .word => if unicode then Unicode.wordCharacters else asciiSet "word"

/-- The set with the other case of its ASCII letters. -/
def foldAscii (set : CodeSet) : CodeSet :=
  set.union ⟨((List.range 26).filter fun i =>
    set.contains (0x41 + i) || set.contains (0x61 + i)).flatMap fun i =>
      [(0x41 + i, 0x41 + i), (0x61 + i, 0x61 + i)]⟩

/-- The set as it matches under the flags, before it is negated. -/
def foldSet (flags : Flags) (set : CodeSet) : CodeSet :=
  if flags.ignoreCase then
    if flags.unicode then set.foldCase else foldAscii set
  else set

/-- Negates a class. With Unicode off that is refused, since it would match parts of characters. -/
def negate? (flags : Flags) (negated : Bool) (set : CodeSet) : Option CodeSet :=
  if negated then
    if flags.unicode then some set.complement else none
  else some set

/-- The set of a class named by a property. -/
def propertySet? (flags : Flags) (name : PropertyName) (negated : Bool) : Option CodeSet := do
  guard flags.unicode
  let set ←
    match name with
    | .single name => Unicode.named? name
    | .valued name value => Unicode.valued? name value
  negate? flags negated (foldSet flags set)

/-- The set of a class named by one letter, which is closed under case. -/
def perlSet? (flags : Flags) (kind : PerlClass) (negated : Bool) : Option CodeSet :=
  negate? flags negated (perlSet flags.unicode kind)

/-- Whether a literal may stand in a class, and with Unicode off whether it is ASCII. -/
def memberCode? (flags : Flags) (l : Literal) : Option Nat :=
  if flags.unicode || l.char.toNat < 128 then some l.char.toNat else none

mutual

/-- The set of what stands in brackets. -/
def SetExpr.toSet? (flags : Flags) : SetExpr → Option CodeSet
  | .empty => some .empty
  | .literal l => (memberCode? flags l).map .single
  | .range first last => do
    return .range (← memberCode? flags first) (← memberCode? flags last)
  | .ascii name negated => negate? flags negated (foldSet flags (asciiSet name))
  | .property name negated => propertySet? flags name negated
  | .perl kind negated => perlSet? flags kind negated
  | .bracketed negated body => do
    negate? flags negated (foldSet flags (← body.toSet? flags))
  | .union items => unionSet? flags items
  | .op kind left right => do
    let left := foldSet flags (← left.toSet? flags)
    let right := foldSet flags (← right.toSet? flags)
    match kind with
    | .inter => return left.inter right
    | .diff => return left.diff right
    | .symmDiff => return left.symmDiff right

/-- The union of several sets. -/
def unionSet? (flags : Flags) : List SetExpr → Option CodeSet
  | [] => some .empty
  | item :: rest => do return (← item.toSet? flags).union (← unionSet? flags rest)

end

/-! ## Expressions -/

/-- The set of a literal, `none` where it is a byte that is no character. -/
def literalSet? (flags : Flags) (l : Literal) : Option CodeSet :=
  let code := l.char.toNat
  if flags.unicode then
    some (if flags.ignoreCase then ⟨(Unicode.orbit code).map fun code => (code, code)⟩
      else .single code)
  else if l.twoDigits && 128 ≤ code then none
  else some (if flags.ignoreCase then foldAscii (.single code) else .single code)

/-- The characters the dot matches. -/
def dotSet? (flags : Flags) : Option CodeSet :=
  if !flags.unicode then none
  else if flags.dotMatchesNewline then some .full
  else if flags.crlf then some (CodeSet.complement ⟨[(0xA, 0xA), (0xD, 0xD)]⟩)
  else some (CodeSet.complement (.single 0xA))

/-- The condition of an anchor. -/
def lookOf (flags : Flags) : Anchor → Look
  | .lineStart =>
    if flags.multiLine then (if flags.crlf then .crlfLineStart else .lineStart) else .textStart
  | .lineEnd =>
    if flags.multiLine then (if flags.crlf then .crlfLineEnd else .lineEnd) else .textEnd
  | .textStart => .textStart
  | .textEnd => .textEnd
  | .wordBoundary => .word .edge flags.unicode
  | .notWordBoundary => .word .noEdge flags.unicode
  | .wordStart => .word .opening flags.unicode
  | .wordEnd => .word .closing flags.unicode
  | .wordStartHalf => .word .openingHalf flags.unicode
  | .wordEndHalf => .word .closingHalf flags.unicode

/-- Whether a pattern can match nothing but the empty text. -/
def Node.isZeroWidth : Node → Bool
  | .empty => true
  | .set _ => false
  | .look _ => true
  | .group _ body => body.isZeroWidth
  | .cat first second => first.isZeroWidth && second.isZeroWidth
  | .alt first second => first.isZeroWidth && second.isZeroWidth
  | .repeated _ _ _ body => body.isZeroWidth

/-- A repetition; what matches only the empty text need not be repeated. -/
def Node.times (min : Nat) (max : Option Nat) (greedy : Bool) (body : Node) : Node :=
  let (min, max) :=
    if body.isZeroWidth then (Nat.min min 1, some ((max.map (Nat.min · 1)).getD 1)) else (min, max)
  if max = some 0 then .empty
  else if min = 1 ∧ max = some 1 then body
  else .repeated min max greedy body

mutual

/-- What an expression matches under the flags, and the flags in force behind it. -/
def Expr.toNode? (flags : Flags) : Expr → Option (Node × Flags)
  | .empty => some (.empty, flags)
  | .flags changes => some (.empty, flags.update changes)
  | .literal l => (literalSet? flags l).map fun set => (.set set, flags)
  | .dot => (dotSet? flags).map fun set => (.set set, flags)
  | .anchor kind => some (.look (lookOf flags kind), flags)
  | .property name negated => (propertySet? flags name negated).map fun set => (.set set, flags)
  | .perl kind negated => (perlSet? flags kind negated).map fun set => (.set set, flags)
  | .bracketed negated body => do
    let set ← negate? flags negated (foldSet flags (← body.toSet? flags))
    return (.set set, flags)
  | .repeated min max greedy body => do
    let (body, flags) ← body.toNode? flags
    return (.times min max (greedy != flags.swapGreed) body, flags)
  | .group (.capture index) body => do
    let (body, _) ← body.toNode? flags
    return (.group index body, flags)
  | .group (.flags changes) body => do
    let (body, _) ← body.toNode? (flags.update changes)
    return (body, flags)
  | .concat items => concatNode? flags items
  | .alternatives items => alternativesNode? flags items

/-- A sequence; flags set in one item hold in the next. -/
def concatNode? (flags : Flags) : List Expr → Option (Node × Flags)
  | [] => some (.empty, flags)
  | item :: rest => do
    let (first, flags) ← item.toNode? flags
    let (second, flags) ← concatNode? flags rest
    return (.cat first second, flags)

/-- Alternatives; flags set in one hold in the next. -/
def alternativesNode? (flags : Flags) : List Expr → Option (Node × Flags)
  | [] => some (.empty, flags)
  | [item] => item.toNode? flags
  | item :: rest => do
    let (first, flags) ← item.toNode? flags
    let (second, flags) ← alternativesNode? flags rest
    return (.alt first second, flags)

end

end AttributeRelease.Pattern
