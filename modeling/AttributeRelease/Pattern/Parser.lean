import AttributeRelease.Pattern.Expr
import AttributeRelease.Text.Blank
import AttributeRelease.Unicode.Category

/-!
# Reading patterns

`Expr.parse?` reads a pattern and answers `none` where it is malformed. There is no look-around and
there are no references back to groups. With the flag `x` white space and comments are skipped. An
opening brace always begins a count, a closing one stands for itself. An expression may be nested
`nestingLimit` deep.
-/

namespace AttributeRelease.Pattern

open Text (isSpace)

/-- How deep an expression may be nested. -/
def nestingLimit : Nat := 250

/-- What is left to read, and what was seen so far: whether space is skipped, the number of capture
groups, and the names among them. -/
structure Cursor where
  rest : List Char
  skipsSpace : Bool := false
  groups : Nat := 0
  names : List (String × Nat) := []

/-- A step of the reader, which may fail. -/
abbrev Parse := StateT Cursor Option

namespace Parse

/-- The input without the white space and the comments in front; `inComment` says whether it begins
inside a comment. -/
def dropSpace : Bool → List Char → List Char
  | _, [] => []
  | true, c :: rest => dropSpace (c != '\n') rest
  | false, c :: rest =>
    if isSpace c then dropSpace false rest
    else if c = '#' then dropSpace true rest
    else c :: rest

def fail {α : Type} : Parse α := fun _ => none

/-- The next character. -/
def next? : Parse (Option Char) := return (← get).rest.head?

/-- The next character, which must be there. -/
def next : Parse Char := do
  match ← next? with
  | some c => return c
  | none => fail

/-- Moves past the next character. -/
def bump : Parse Unit := modify fun cursor => { cursor with rest := cursor.rest.tail }

/-- Skips white space and comments if the flag `x` is set. -/
def skip : Parse Unit := modify fun cursor =>
  if cursor.skipsSpace then { cursor with rest := dropSpace false cursor.rest } else cursor

/-- Moves past the next character and what may be skipped behind it. -/
def bumpSkip : Parse Unit := do bump; skip

/-- Moves past a text if it is next. -/
def bumpIf (text : String) : Parse Bool := do
  let cursor ← get
  let expected := text.toList
  if expected.isPrefixOf cursor.rest then
    set { cursor with rest := cursor.rest.drop expected.length }
    return true
  else return false

/-- The first character of the next word, where the input that follows the next character is
searched. A comment is not searched to its end: its first letter counts. -/
def peekSkip : Parse (Option Char) := do
  let cursor ← get
  let behind := cursor.rest.tail
  if !cursor.skipsSpace then return behind.head?
  let behind := behind.dropWhile isSpace
  match behind with
  | '#' :: comment => return (comment.dropWhile isSpace).head?
  | _ => return behind.head?

/-! ## Escapes -/

def isHex (c : Char) : Bool :=
  c.isDigit || ('a' ≤ c && c ≤ 'f') || ('A' ≤ c && c ≤ 'F')

def hexDigitValue (c : Char) : Nat :=
  if c.isDigit then c.toNat - '0'.toNat else (c.toNat &&& 0xDF) - 'A'.toNat + 10

/-- The character of hexadecimal digits, if there is one. -/
def hexChar (digits : List Char) : Parse Char :=
  let code := digits.foldl (fun value c => value * 16 + hexDigitValue c) 0
  if code < 0xD800 ∨ (0xDFFF < code ∧ code < 0x110000) then return Char.ofNat code else fail

/-- A fixed number of hexadecimal digits, the first of which is next. -/
def hexDigits : Nat → Parse (List Char)
  | 0 => return []
  | count + 1 => do
    let c ← next
    if !isHex c then fail
    bumpSkip
    return c :: (← hexDigits count)

/-- Characters up to a closing brace, which is left; the fuel is the length of the input. -/
def untilBrace (accepts : Char → Bool) : Nat → Parse (List Char)
  | 0 => fail
  | fuel + 1 => do
    let c ← next
    if c = '\x7d' then return []
    if !accepts c then fail
    bumpSkip
    return c :: (← untilBrace accepts fuel)

/-- The characters between braces; the opening one is next, the closing one is left. -/
def braced (accepts : Char → Bool) : Parse (List Char) := do
  bumpSkip
  untilBrace accepts ((← get).rest.length + 1)

/-- A character given by number: `x`, `u` or `U` is next. -/
def hexLiteral : Parse Literal := do
  let mark ← next
  bumpSkip
  if (← next) = '\x7b' then
    let digits ← braced isHex
    bumpSkip
    if digits.isEmpty then fail
    return ⟨← hexChar digits, false⟩
  else
    let digits ← hexDigits (if mark = 'x' then 2 else if mark = 'u' then 4 else 8)
    return ⟨← hexChar digits, mark = 'x'⟩

/-- Splits at the first occurrence of a mark. -/
def splitName (mark : List Char) : List Char → List Char → Option (List Char × List Char)
  | _, [] => none
  | before, c :: rest =>
    if mark.isPrefixOf (c :: rest) then some (before.reverse, (c :: rest).drop mark.length)
    else splitName mark (c :: before) rest

/-- A class given by a property: `p` or `P` is next. -/
def propertyClass : Parse (PropertyName × Bool) := do
  let negated := (← next) = 'P'
  bumpSkip
  let c ← next
  if c = '\x7b' then
    let name ← braced fun _ => true
    bump
    let split := ((splitName ['!', '='] [] name).or (splitName [':'] [] name)).or
      (splitName ['='] [] name)
    match split with
    | some (property, value) =>
      return (.valued (String.ofList property) (String.ofList value), negated)
    | none => return (.single (String.ofList name), negated)
  else
    if c = '\\' then fail
    bumpSkip
    return (.single (String.singleton c), negated)

/-- An escape, or something that needs none. -/
inductive Atom where
  | literal (l : Literal)
  | dot
  | anchor (kind : Anchor)
  | property (name : PropertyName) (negated : Bool)
  | perl (kind : PerlClass) (negated : Bool)

/-- Characters with a meaning of their own. -/
def isMeta (c : Char) : Bool := "\\.+*?()|[]\x7b\x7d^$#&-~".toList.contains c

/-- Other characters that stand for themselves behind a backslash. -/
def isEscapable (c : Char) : Bool :=
  c.toNat < 128 && !c.isAlphanum && c != '<' && c != '>'

/-- The name of a word boundary between braces, if that is what the brace begins; otherwise it
begins a count and is left. -/
def wordBoundary : Parse Anchor := do
  let cursor ← get
  if (← next?) ≠ some '\x7b' then return .wordBoundary
  let accepts := fun (c : Char) => c.isAlpha || c == '-'
  bumpSkip
  if !accepts (← next) then
    set cursor
    return .wordBoundary
  let name ← untilBrace accepts ((← get).rest.length + 1)
  bump
  match String.ofList name with
  | "start" => return .wordStart
  | "end" => return .wordEnd
  | "start-half" => return .wordStartHalf
  | "end-half" => return .wordEndHalf
  | _ => fail

/-- What follows a backslash, which is next. -/
def escape : Parse Atom := do
  bump
  let c ← next
  match c with
  | 'x' | 'u' | 'U' => return .literal (← hexLiteral)
  | 'p' | 'P' => do
    let (name, negated) ← propertyClass
    return .property name negated
  | _ =>
    bump
    match c with
    | 'd' => return .perl .digit false
    | 's' => return .perl .space false
    | 'w' => return .perl .word false
    | 'D' => return .perl .digit true
    | 'S' => return .perl .space true
    | 'W' => return .perl .word true
    | 'a' => return .literal ⟨'\x07', false⟩
    | 'f' => return .literal ⟨'\x0c', false⟩
    | 't' => return .literal ⟨'\t', false⟩
    | 'n' => return .literal ⟨'\n', false⟩
    | 'r' => return .literal ⟨'\r', false⟩
    | 'v' => return .literal ⟨'\x0b', false⟩
    | 'A' => return .anchor .textStart
    | 'z' => return .anchor .textEnd
    | 'b' => return .anchor (← wordBoundary)
    | 'B' => return .anchor .notWordBoundary
    | '<' => return .anchor .wordStart
    | '>' => return .anchor .wordEnd
    | _ => if isMeta c || isEscapable c then return .literal ⟨c, false⟩ else fail

/-! ## Sets in brackets -/

/-- The names of the classes that stand in brackets between colons. -/
def asciiNames : List String :=
  ["alnum", "alpha", "ascii", "blank", "cntrl", "digit", "graph", "lower", "print", "punct",
    "space", "upper", "word", "xdigit"]

/-- A class such as `[:alpha:]`; if the input does not begin with one, nothing is read. -/
def asciiClass : Parse (Option SetExpr) := do
  let cursor ← get
  match cursor.rest with
  | '[' :: ':' :: rest =>
    let (negated, rest) :=
      match rest with
      | '^' :: rest => (true, rest)
      | _ => (false, rest)
    let name := String.ofList (rest.takeWhile (· != ':'))
    match rest.dropWhile (· != ':') with
    | ':' :: ']' :: rest =>
      if name ∈ asciiNames then
        set { cursor with rest }
        return some (.ascii name negated)
      else return none
    | _ => return none
  | _ => return none

/-- A member of a set, or an end of a range of them. -/
def setAtom : Parse Atom := do
  let c ← next
  if c = '\\' then escape
  else
    bump
    return .literal ⟨c, false⟩

/-- A member of a set or a range; conditions on positions are no members. -/
def setItem : Parse SetExpr := do
  let first ← setAtom
  skip
  let c ← next
  let behind ← peekSkip
  if c ≠ '-' ∨ behind = some ']' ∨ behind = some '-' then
    match first with
    | .literal l => return .literal l
    | .property name negated => return .property name negated
    | .perl kind negated => return .perl kind negated
    | _ => fail
  else
    bumpSkip
    match first, ← setAtom with
    | .literal first, .literal last =>
      if first.char ≤ last.char then return .range first last else fail
    | _, _ => fail

/-- Several members of a set as one, in the order in which they were read, given backwards. -/
def unionOf : List SetExpr → SetExpr
  | [] => .empty
  | [item] => item
  | items => .union items.reverse

/-- Combines a pending operation with its right side. -/
def combine : Option (SetOp × SetExpr) → SetExpr → SetExpr
  | none, right => right
  | some (kind, left), right => .op kind left right

/-- Hyphens at the beginning of a set stand for themselves. -/
def leadingHyphens : Nat → Parse (List SetExpr)
  | 0 => return []
  | fuel + 1 => do
    if (← next) = '-' then
      bumpSkip
      return .literal ⟨'-', false⟩ :: (← leadingHyphens fuel)
    else return []

mutual

/-- A set; its opening bracket is next. A closing bracket that comes first stands for itself. -/
def bracketed : Nat → Parse (Bool × SetExpr)
  | 0 => fail
  | fuel + 1 => do
    bumpSkip
    let negated := (← next) = '^'
    if negated then bumpSkip
    let hyphens ← leadingHyphens ((← get).rest.length + 1)
    let items ←
      if hyphens.isEmpty && (← next) = ']' then do
        bumpSkip
        pure [SetExpr.literal ⟨']', false⟩]
      else pure hyphens
    let _ ← next
    return (negated, ← setBody fuel none items)

/-- The members of a set up to its closing bracket, which is passed; `items` are those read since
the last operation, backwards. -/
def setBody : Nat → Option (SetOp × SetExpr) → List SetExpr → Parse SetExpr
  | 0, _, _ => fail
  | fuel + 1, pending, items => do
    skip
    match ← next with
    | '[' =>
      match ← asciiClass with
      | some item => setBody fuel pending (item :: items)
      | none => do
        let (negated, body) ← bracketed fuel
        setBody fuel pending (.bracketed negated body :: items)
    | ']' => do
      bump
      return combine pending (unionOf items)
    | _ =>
      if ← bumpIf "&&" then setBody fuel (some (.inter, combine pending (unionOf items))) []
      else if ← bumpIf "--" then setBody fuel (some (.diff, combine pending (unionOf items))) []
      else if ← bumpIf "~~" then
        setBody fuel (some (.symmDiff, combine pending (unionOf items))) []
      else do
        let item ← setItem
        setBody fuel pending (item :: items)

end

/-! ## Groups -/

/-- A flag by its letter. -/
def flag? : Char → Option Flag
  | 'i' => some .ignoreCase
  | 'm' => some .multiLine
  | 's' => some .dotMatchesNewline
  | 'U' => some .swapGreed
  | 'u' => some .unicode
  | 'R' => some .crlf
  | 'x' => some .ignoreSpace
  | _ => none

/-- Flags up to a colon or a closing parenthesis, which is left; each flag and the hyphen may stand
once, and a flag must follow the hyphen. -/
def flagChanges (value afterHyphen : Bool) (seen : FlagChanges) : Nat → Parse FlagChanges
  | 0 => fail
  | fuel + 1 => do
    let c ← next
    if c = ':' ∨ c = ')' then
      if afterHyphen then fail else return seen.reverse
    else
      bump
      if c = '-' then
        if value then flagChanges false true seen fuel else fail
      else
        match flag? c with
        | some flag =>
          if seen.any fun change => change.1 == flag then fail
          else flagChanges value false ((flag, value) :: seen) fuel
        | none => fail

/-- Whether a character may stand in the name of a group, at its beginning or later. -/
def isNameChar (first : Bool) (c : Char) : Bool :=
  if first then c == '_' || Unicode.isAlphabetic c
  else c == '_' || c == '.' || c == '[' || c == ']' || Unicode.isAlphanumeric c

/-- The name of a group up to its closing angle, which is passed. -/
def groupName : Parse String := do
  let cursor ← get
  let name := cursor.rest.takeWhile (· != '>')
  match cursor.rest.dropWhile (· != '>') with
  | '>' :: rest =>
    match name with
    | [] => fail
    | first :: others =>
      if isNameChar true first && others.all (isNameChar false) then
        set { cursor with rest }
        return String.ofList name
      else fail
  | _ => fail

/-- Numbers a new capture group. -/
def newGroup : Parse Nat := do
  let cursor ← get
  set { cursor with groups := cursor.groups + 1 }
  return cursor.groups + 1

/-- The head of a group behind its opening parenthesis, or flags that are set from there on; the
parenthesis that closes those is passed. -/
def groupHead : Parse (GroupKind ⊕ FlagChanges) := do
  skip
  for mark in ["?=", "?!", "?<=", "?<!"] do
    if ← bumpIf mark then fail
  let named ← do
    if ← bumpIf "?P<" then pure true else bumpIf "?<"
  if named then
    let index ← newGroup
    let name ← groupName
    let cursor ← get
    if cursor.names.any fun entry => entry.1 == name then fail
    set { cursor with names := cursor.names ++ [(name, index)] }
    return .inl (.capture index)
  else if ← bumpIf "?" then
    let changes ← flagChanges true false [] ((← get).rest.length + 1)
    let c ← next
    bump
    if c = ')' then
      if changes.isEmpty then fail else return .inr changes
    else return .inl (.flags changes)
  else return .inl (.capture (← newGroup))

/-- Whether flags set or clear the skipping of space. -/
def spaceChange? (changes : FlagChanges) : Option Bool := changes.lookup .ignoreSpace

/-! ## Repetition -/

/-- Decimal digits, between which space is skipped like anywhere else; the fuel is the length of the
input. -/
def decimalDigits : Nat → Parse (List Char)
  | 0 => fail
  | fuel + 1 => do
    match ← next? with
    | some c =>
      if c.isDigit then
        bumpSkip
        return c :: (← decimalDigits fuel)
      else return []
    | none => return []

/-- Drops white space, whether or not the flag `x` is set. -/
def dropBlanks : Parse Unit := modify fun cursor =>
  { cursor with rest := cursor.rest.dropWhile isSpace }

/-- A decimal number below `2 ^ 32` with optional space around it, `none` if there are no digits. -/
def count : Parse (Option Nat) := do
  dropBlanks
  let digits ← decimalDigits ((← get).rest.length + 1)
  dropBlanks
  skip
  let value := digits.foldl (fun value c => value * 10 + (c.toNat - '0'.toNat)) 0
  if digits.isEmpty then return none
  else if value < Nat.pow 2 32 then return some value
  else fail

/-- A count that must be there. -/
def demand : Option Nat → Parse Nat
  | some n => return n
  | none => fail

/-- The bounds of a counted repetition, whose opening brace is next. -/
def bounds : Parse (Nat × Option Nat) := do
  bumpSkip
  let _ ← next
  let least ← count
  let c ← next
  let (least, most) ←
    if c = ',' then do
      bumpSkip
      if (← next) = '\x7d' then do
        let least ← demand least
        pure (least, none)
      else do
        let least ← demand least
        let most ← demand (← count)
        pure (least, some most)
    else do
      let least ← demand least
      pure (least, some least)
  if (← next) ≠ '\x7d' then fail
  return (least, most)

/-- Whether a question mark follows, which is then passed. -/
def isLazy : Parse Bool := bumpIf "?"

/-- Replaces the last expression, given first, by its repetition. -/
def repeatLast (least : Nat) (most : Option Nat) (lazily : Bool) :
    List Expr → Parse (List Expr)
  | [] => fail
  | .empty :: _ => fail
  | .flags _ :: _ => fail
  | last :: before => return .repeated least most (!lazily) last :: before

/-! ## Expressions -/

/-- Several expressions in a row as one, given backwards. -/
def concatOf : List Expr → Expr
  | [] => .empty
  | [item] => item
  | items => .concat items.reverse

/-- Several alternatives as one, given backwards. -/
def alternativesOf : List Expr → Expr
  | [item] => item
  | items => .alternatives items.reverse

/-- The expression of a single item. -/
def Atom.toExpr : Atom → Expr
  | .literal l => .literal l
  | .dot => .dot
  | .anchor kind => .anchor kind
  | .property name negated => .property name negated
  | .perl kind negated => .perl kind negated

/-- A character, an escape or a condition on the position. -/
def atom : Parse Atom := do
  match ← next with
  | '\\' => escape
  | '.' => do bump; return .dot
  | '^' => do bump; return .anchor .lineStart
  | '$' => do bump; return .anchor .lineEnd
  | c => do bump; return .literal ⟨c, false⟩

/-- Alternatives up to a closing parenthesis or the end, which is left; `items` are the expressions
since the last bar and `branches` the alternatives before it, both backwards. -/
def alternatives : Nat → List Expr → List Expr → Parse Expr
  | 0, _, _ => fail
  | fuel + 1, branches, items => do
    skip
    match ← next? with
    | none => return alternativesOf (concatOf items :: branches)
    | some ')' => return alternativesOf (concatOf items :: branches)
    | some '|' => do
      bump
      alternatives fuel (concatOf items :: branches) []
    | some '(' => do
      bump
      let before := (← get).skipsSpace
      match ← groupHead with
      | .inr changes => do
        modify fun cursor =>
          { cursor with skipsSpace := (spaceChange? changes).getD cursor.skipsSpace }
        alternatives fuel branches (.flags changes :: items)
      | .inl kind => do
        let inside :=
          match kind with
          | .capture _ => before
          | .flags changes => (spaceChange? changes).getD before
        modify fun cursor => { cursor with skipsSpace := inside }
        let body ← alternatives fuel [] []
        if (← next?) ≠ some ')' then fail
        modify fun cursor => { cursor with skipsSpace := before }
        bump
        alternatives fuel branches (.group kind body :: items)
    | some '[' => do
      let (negated, body) ← bracketed fuel
      alternatives fuel branches (.bracketed negated body :: items)
    | some '?' => do
      bump
      let items ← repeatLast 0 (some 1) (← isLazy) items
      alternatives fuel branches items
    | some '*' => do
      bump
      let items ← repeatLast 0 none (← isLazy) items
      alternatives fuel branches items
    | some '+' => do
      bump
      let items ← repeatLast 1 none (← isLazy) items
      alternatives fuel branches items
    | some '\x7b' => do
      let (least, most) ← bounds
      bumpSkip
      let lazily ← isLazy
      if most.any (· < least) then fail
      let items ← repeatLast least most lazily items
      alternatives fuel branches items
    | some _ => do
      let item ← atom
      alternatives fuel branches (item.toExpr :: items)

end Parse

/-- Reads a pattern: its expression, the number of capture groups and the names among them. -/
def Expr.parse? (pattern : String) : Option (Expr × Cursor) := do
  let input := pattern.toList
  let (expr, cursor) ← (Parse.alternatives (input.length + 1) [] []).run ⟨input, false, 0, []⟩
  if cursor.rest.isEmpty && expr.depth ≤ nestingLimit then some (expr, cursor) else none

end AttributeRelease.Pattern
