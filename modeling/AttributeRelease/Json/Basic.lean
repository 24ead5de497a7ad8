import AttributeRelease.Json.Number

/-!
# JSON documents

A document keeps the fields of an object in the order in which they stand in the text, repetitions
included. Some literals are well formed and yet denote nothing: a string that escapes half a
surrogate pair, an object with such a key, a number beyond the range of doubles. They read as
`Json.unreadable`; a reader can skip them but makes nothing of them.
-/

namespace AttributeRelease

/-- A JSON document. -/
inductive Json where
  | null
  | bool (value : Bool)
  | number (value : Json.Number)
  | string (value : String)
  | array (items : List Json)
  | object (fields : List (String × Json))
  | unreadable
  deriving Repr, Inhabited

namespace Json

/-- A natural number as a document. -/
def nat (n : Nat) : Json := .number (.integer false n)

mutual

/-- Whether no literal in the document is unreadable and arrays and objects are nested at most
`budget` deep. -/
def isReadable : Nat → Json → Bool
  | _, .null => true
  | _, .bool _ => true
  | _, .number _ => true
  | _, .string _ => true
  | 0, .array _ => false
  | budget + 1, .array items => areReadable budget items
  | 0, .object _ => false
  | budget + 1, .object fields => fieldsReadable budget fields
  | _, .unreadable => false

/-- Whether all members of an array are readable. -/
def areReadable : Nat → List Json → Bool
  | _, [] => true
  | budget, item :: rest => isReadable budget item && areReadable budget rest

/-- Whether the values of all fields of an object are readable. -/
def fieldsReadable : Nat → List (String × Json) → Bool
  | _, [] => true
  | budget, field :: rest => isReadable budget field.2 && fieldsReadable budget rest

end

end Json

end AttributeRelease
