import AttributeRelease.Json.Basic
import AttributeRelease.KeyMap

/-!
# Making sense of JSON documents

Readers turn a document into a value of some type, or answer `none`. A record is read from an
object, in which each of its fields stands at most once and others are skipped, or from an array of
its fields in their order, in which fields at the end may be missing.

Arrays and objects may be nested `nestingLimit` deep. The limit does not count inside the value of a
field that is skipped, except where a document is read as a whole before its tag is known
(`Json.isReadable`); such a document may also name a variant by its number or give a name an empty
object for its content, which `Stage` tells apart.
-/

namespace AttributeRelease.Json

/-- How deep arrays and objects may be nested. -/
def nestingLimit : Nat := 127

/-- Whether a document is read as it stands in the text, or out of a larger document that was read
as a whole first. -/
inductive Stage where
  | direct
  | buffered
  deriving DecidableEq

def text? : Json → Option String
  | .string text => some text
  | _ => none

def bool? : Json → Option Bool
  | .bool value => some value
  | _ => none

/-- An integer literal without a sign, below a bound. -/
def natBelow? (bound : Nat) : Json → Option Nat
  | .number n => n.toNat?.filter (· < bound)
  | _ => none

/-- An integer literal without a sign, within 64 bits. -/
def word? (document : Json) : Option UInt64 :=
  (document.natBelow? Number.wordBound).map UInt64.ofNat

def list? {α : Type} (read : Json → Option α) : Json → Option (List α)
  | .array items => items.mapM read
  | _ => none

/-- A map; of several fields with one key the last counts. -/
def map? {α : Type} (read : Json → Option α) : Json → Option (KeyMap α)
  | .object fields =>
    (fields.mapM fun field => (read field.2).map (field.1, ·)).map KeyMap.ofList
  | _ => none

def texts? : Json → Option (KeyMap String) := map? text?

def set? (document : Json) : Option KeySet := (list? text? document).map KeySet.ofMembers

/-- One of several names, as a text or as the only key of an object whose value is `null`. -/
def name? {α : Type} (stage : Stage) (names : List (String × α)) : Json → Option α
  | .string name => names.lookup name
  | .object [(name, .null)] => names.lookup name
  | .object [(name, .object [])] => if stage = .buffered then names.lookup name else none
  | _ => none

/-! ## Records -/

/-- The value of a field of an object, which may stand there once. -/
def field? (fields : List (String × Json)) (name : String) : Option (Option Json) :=
  match fields.filter (fun field => field.1 == name) with
  | [] => some none
  | [field] => some (some field.2)
  | _ => none

/-- The values of the fields of a record, given their names in order. -/
def record? (names : List String) : Json → Option (List (Option Json))
  | .object fields => names.mapM (field? fields)
  | .array items =>
    if items.length ≤ names.length then
      some (items.map some ++ List.replicate (names.length - items.length) none)
    else none
  | _ => none

/-- A field that must be there. -/
def required {α : Type} (read : Json → Option α) (field : Option Json) : Option α := field.bind read

/-- A field that may be missing and then has a default. -/
def orDefault {α : Type} (default : α) (read : Json → Option α) : Option Json → Option α
  | none => some default
  | some document => read document

/-- A field that may be missing or `null`. -/
def nullable {α : Type} (read : Json → Option α) : Option Json → Option (Option α)
  | none => some none
  | some .null => some none
  | some document => (read document).map some

/-! ## Variants told apart by a tag -/

/-- The tag of a variant: one of the names, or the number of one. -/
def tag? (stage : Stage) (names : List String) : Json → Option String
  | .string name => if name ∈ names then some name else none
  | .number n => if stage = .buffered then n.toNat?.bind (names[·]?) else none
  | _ => none

/-- A variant whose tag stands in the field `type` beside its own fields, or first in an array of
them: the tag and what remains. -/
def tagged? (stage : Stage) (names : List String) : Json → Option (String × Json)
  | .object fields => do
    let tag ← (← field? fields "type").bind (tag? stage names)
    return (tag, .object (fields.filter fun field => field.1 != "type"))
  | .array (first :: rest) => do return (← tag? stage names first, .array rest)
  | _ => none

/-- A variant without fields takes any object and the empty array. -/
def unit? : Json → Option Unit
  | .object _ => some ()
  | .array [] => some ()
  | _ => none

/-! ## Writing -/

def ofTexts (map : KeyMap String) : Json :=
  .object (map.entries.map fun entry => (entry.1, .string entry.2))

def ofMap {α : Type} (write : α → Json) (map : KeyMap α) : Json :=
  .object (map.entries.map fun entry => (entry.1, write entry.2))

def ofOption {α : Type} (write : α → Json) : Option α → Json
  | none => .null
  | some value => write value

def ofList {α : Type} (write : α → Json) (items : List α) : Json := .array (items.map write)

/-- A field that is left out when there is nothing to say. -/
def fieldUnless (omitted : Bool) (name : String) (value : Json) : List (String × Json) :=
  if omitted then [] else [(name, value)]

end AttributeRelease.Json
