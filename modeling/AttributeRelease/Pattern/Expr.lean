/-!
# Pattern expressions

The form of a regular expression as it is written: flags are not yet applied, names of character
properties not yet looked up. `Expr.depth` measures how deep an expression is nested.
-/

namespace AttributeRelease.Pattern

/-- A flag that can be set and cleared inside a pattern. -/
inductive Flag where
  | ignoreCase
  | multiLine
  | dotMatchesNewline
  | swapGreed
  | unicode
  | crlf
  | ignoreSpace
  deriving DecidableEq, Repr

/-- The flags a group sets (`true`) and clears (`false`). -/
abbrev FlagChanges := List (Flag × Bool)

/-- A single character; `twoDigits` marks the form `\xHH`, which is a byte where Unicode is off. -/
structure Literal where
  char : Char
  twoDigits : Bool := false
  deriving DecidableEq, Repr

/-- A condition on the position between two characters. -/
inductive Anchor where
  | lineStart
  | lineEnd
  | textStart
  | textEnd
  | wordBoundary
  | notWordBoundary
  | wordStart
  | wordEnd
  | wordStartHalf
  | wordEndHalf
  deriving DecidableEq, Repr

/-- A class named by one letter after a backslash. -/
inductive PerlClass where
  | digit
  | space
  | word
  deriving DecidableEq, Repr

/-- A class named by a property of characters, or by a property and its value. -/
inductive PropertyName where
  | single (name : String)
  | valued (name value : String)
  deriving DecidableEq, Repr

/-- How two sets are combined inside brackets. -/
inductive SetOp where
  | inter
  | diff
  | symmDiff
  deriving DecidableEq, Repr

/-- What stands inside brackets. -/
inductive SetExpr where
  | empty
  | literal (l : Literal)
  | range (first last : Literal)
  | ascii (name : String) (negated : Bool)
  | property (name : PropertyName) (negated : Bool)
  | perl (kind : PerlClass) (negated : Bool)
  | bracketed (negated : Bool) (body : SetExpr)
  | union (items : List SetExpr)
  | op (kind : SetOp) (left right : SetExpr)

/-- What a pair of parentheses is for. -/
inductive GroupKind where
  | capture (index : Nat)
  | flags (changes : FlagChanges)
  deriving DecidableEq, Repr

/-- A regular expression. -/
inductive Expr where
  | empty
  | flags (changes : FlagChanges)
  | literal (l : Literal)
  | dot
  | anchor (kind : Anchor)
  | property (name : PropertyName) (negated : Bool)
  | perl (kind : PerlClass) (negated : Bool)
  | bracketed (negated : Bool) (body : SetExpr)
  | repeated (min : Nat) (max : Option Nat) (greedy : Bool) (body : Expr)
  | group (kind : GroupKind) (body : Expr)
  | concat (items : List Expr)
  | alternatives (items : List Expr)

mutual

/-- How deep sets are nested; single items do not count. -/
def SetExpr.depth : SetExpr → Nat
  | .empty => 0
  | .literal _ => 0
  | .range _ _ => 0
  | .ascii _ _ => 0
  | .property _ _ => 0
  | .perl _ _ => 0
  | .bracketed _ body => body.depth + 1
  | .union items => depthOfSets items + 1
  | .op _ left right => max left.depth right.depth + 1

/-- The depth of the deepest of several sets. -/
def depthOfSets : List SetExpr → Nat
  | [] => 0
  | item :: rest => max item.depth (depthOfSets rest)

end

mutual

/-- How deep expressions are nested; single characters and conditions do not count. -/
def Expr.depth : Expr → Nat
  | .empty => 0
  | .flags _ => 0
  | .literal _ => 0
  | .dot => 0
  | .anchor _ => 0
  | .property _ _ => 0
  | .perl _ _ => 0
  | .bracketed _ body => body.depth + 1
  | .repeated _ _ _ body => body.depth + 1
  | .group _ body => body.depth + 1
  | .concat items => depthOfExprs items + 1
  | .alternatives items => depthOfExprs items + 1

/-- The depth of the deepest of several expressions. -/
def depthOfExprs : List Expr → Nat
  | [] => 0
  | item :: rest => max item.depth (depthOfExprs rest)

end

end AttributeRelease.Pattern
