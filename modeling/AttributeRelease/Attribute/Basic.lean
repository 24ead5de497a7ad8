import AttributeRelease.Attribute.Value
import AttributeRelease.Text.Blank

/-!
# Attributes

An attribute has an id, an ordered list of values in which values may repeat, and names and
descriptions for display by language. Maps of attributes are keyed by texts that need not be the ids
of the attributes under them.
-/

namespace AttributeRelease

/-- What follows a step that succeeds is what comes of its result. -/
theorem exists_of_bind_eq_ok {ε α β : Type} {first : Except ε α} {next : α → Except ε β}
    {result : β} (done : first >>= next = .ok result) :
    ∃ middle, first = .ok middle ∧ next middle = .ok result := by
  cases first with
  | error error => cases done
  | ok middle => exact ⟨middle, rfl, done⟩

/-- An identity attribute. -/
structure Attribute where
  id : String
  values : List Value := []
  displayNames : KeyMap String := ∅
  displayDescriptions : KeyMap String := ∅
  deriving DecidableEq

/-- Attributes by key. -/
abbrev AttributeMap := KeyMap Attribute

namespace Attribute

/-- An attribute without values; its id must not be blank. -/
def new? (id : String) : Except AttributeError Attribute :=
  if Text.isBlank id then .error (.blankId id) else .ok ⟨id, [], ∅, ∅⟩

/-- An attribute with values; its id must not be blank. -/
def withValues? (id : String) (values : List Value) : Except AttributeError Attribute :=
  (new? id).map fun attr => { attr with values }

/-- An attribute is made exactly under an id that is not blank, with the values as they are given
and nothing else set. -/
theorem withValues?_eq_ok_iff {id : String} {values : List Value} {attr : Attribute} :
    withValues? id values = .ok attr ↔ Text.isBlank id = false ∧ attr = { id, values } := by
  unfold withValues? new?
  cases Text.isBlank id with
  | false => simp [Except.map, eq_comm]
  | true => simp [Except.map]

theorem withValues?_of_isBlank {id : String} (blank : Text.isBlank id = true)
    (values : List Value) : withValues? id values = .error (.blankId id) := by
  rw [withValues?, new?, if_pos blank]
  rfl

theorem eq_of_withValues? {id : String} {values : List Value} {attr : Attribute}
    (made : withValues? id values = .ok attr) : attr = { id, values } :=
  (withValues?_eq_ok_iff.mp made).2

/-- Whether a value is among those of the attribute. -/
def holds (attr : Attribute) (value : Value) : Bool := attr.values.contains value

/-- The display name for a language. -/
def displayName? (attr : Attribute) (language : String) : Option String :=
  attr.displayNames.get? language

/-! ## As documents -/

def toJson (attr : Attribute) : Json :=
  .object
    ([("id", .string attr.id), ("values", Json.ofList Value.toJson attr.values)] ++
      Json.fieldUnless attr.displayNames.isEmpty "display_names"
        (Json.ofTexts attr.displayNames) ++
      Json.fieldUnless attr.displayDescriptions.isEmpty "display_descriptions"
        (Json.ofTexts attr.displayDescriptions))

/-- Reads an attribute; only the id is required, and it is not checked. -/
def ofJson? (budget : Nat) (document : Json) : Option Attribute := do
  let [id, values, displayNames, displayDescriptions] ←
    document.record? ["id", "values", "display_names", "display_descriptions"] | none
  return {
    id := ← Json.required Json.text? id
    values := ← Json.orDefault [] (Json.list? (Value.ofJson? (budget - 2))) values
    displayNames := ← Json.orDefault ∅ Json.texts? displayNames
    displayDescriptions := ← Json.orDefault ∅ Json.texts? displayDescriptions }

end Attribute

namespace AttributeMap

def toJson (attributes : AttributeMap) : Json := Json.ofMap Attribute.toJson attributes

def ofJson? (budget : Nat) (document : Json) : Option AttributeMap :=
  document.map? (Attribute.ofJson? (budget - 1))

end AttributeMap

end AttributeRelease
