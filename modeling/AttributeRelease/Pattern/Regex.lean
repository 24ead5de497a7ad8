import AttributeRelease.Pattern.Parser
import AttributeRelease.Pattern.Program

/-!
# Regular expressions

`Regex.compile?` turns the text of a pattern into a program; it answers `none` when the pattern is
malformed or too large. `Regex.find?` finds the leftmost match, of which `Match.group?` gives the
groups and `Match.expand` fills in a replacement text: `$1`, `$name` and `${name}` stand for groups,
`$$` for a dollar sign.
-/

namespace AttributeRelease.Pattern

/-- A compiled pattern: its program and the numbers of its named groups. Group 0 is the match. -/
structure Regex where
  program : Array Instr
  names : List (String × Nat)

/-- A match in a text. -/
structure Match where
  text : Array Char
  slots : Slots
  names : List (String × Nat)

namespace Regex

/-- Compiles a pattern. -/
def compile? (pattern : String) (ignoreCase : Bool := false) : Option Regex := do
  let (expr, cursor) ← Expr.parse? pattern
  let (node, _) ← expr.toNode? { ignoreCase }
  let node := Node.group 0 node
  guard (node.weight ≤ weightLimit)
  return ⟨(node.layout 0 ++ [Instr.accept]).toArray, cursor.names⟩

/-- A pattern that must match a text from its beginning to its end. -/
def anchored (pattern : String) : String := "^(?:" ++ pattern ++ ")$"

/-- The leftmost match in a text. -/
def find? (regex : Regex) (text : String) : Option Match :=
  let chars := text.toList.toArray
  (search regex.program chars).map fun slots => ⟨chars, slots, regex.names⟩

/-- Whether there is a match in a text. -/
def isMatch (regex : Regex) (text : String) : Bool := (regex.find? text).isSome

end Regex

namespace Match

/-- The bounds of a group, if it took part in the match. -/
def span? (found : Match) (index : Nat) : Option (Nat × Nat) := do
  return (← found.slots.lookup (2 * index), ← found.slots.lookup (2 * index + 1))

/-- The text of a group, if it took part in the match. -/
def group? (found : Match) (index : Nat) : Option String :=
  (found.span? index).map fun (first, last) => String.ofList (found.text.extract first last).toList

/-! ## Replacement texts -/

/-- The characters in the name of a group that stands without braces. -/
def isReferenceChar (c : Char) : Bool := c.isAlphanum || c == '_'

/-- The group a reference means: a number, which a plus sign may precede, or else a name. -/
def index? (found : Match) (reference : List Char) : Option Nat :=
  let digits :=
    match reference with
    | '+' :: digits => digits
    | _ => reference
  let number := digits.foldl (fun value c => value * 10 + (c.toNat - '0'.toNat)) 0
  if !digits.isEmpty && digits.all Char.isDigit && number < Nat.pow 2 64 then some number
  else found.names.lookup (String.ofList reference)

/-- The text a reference stands for; groups that are unknown or took no part are empty. -/
def referenceText (found : Match) (reference : List Char) : List Char :=
  match (found.index? reference).bind found.group? with
  | some text => text.toList
  | none => []

/-- The reference at the beginning of a text behind its dollar sign, and what follows it. -/
def reference? : List Char → Option (List Char × List Char)
  | '\x7b' :: rest =>
    match rest.dropWhile (· != '\x7d') with
    | _ :: behind => some (rest.takeWhile (· != '\x7d'), behind)
    | [] => none
  | rest =>
    let name := rest.takeWhile isReferenceChar
    if name.isEmpty then none else some (name, rest.dropWhile isReferenceChar)

/-- Fills in the groups of a match in a replacement text; the fuel is the length of the text. -/
def expandList (found : Match) : Nat → List Char → List Char
  | 0, chars => chars
  | _, [] => []
  | fuel + 1, '$' :: rest =>
    match rest with
    | '$' :: rest => '$' :: found.expandList fuel rest
    | _ =>
      match reference? rest with
      | some (name, behind) => found.referenceText name ++ found.expandList fuel behind
      | none => '$' :: found.expandList fuel rest
  | fuel + 1, c :: rest => c :: found.expandList fuel rest

/-- A replacement text with the groups of a match filled in. -/
def expand (found : Match) (replacement : String) : String :=
  let chars := replacement.toList
  String.ofList (found.expandList chars.length chars)

end Match

end AttributeRelease.Pattern
