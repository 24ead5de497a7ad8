import AttributeRelease.Json.Reader

/-!
# Attribute values

A value is a text, a text with a scope, bytes, a placeholder for a value that is missing, or a
structure nobody looks into. `Value.ofText`, `Value.ofScoped` and `Value.ofBytes` never make a value
without content: they turn one into a placeholder or into a plain text (`Value.Normalised`). Values
read from a document are kept as they stand.
-/

namespace AttributeRelease

/-- Why a value is missing: the source held nothing, or something of length zero. -/
inductive Absence where
  | null
  | zeroLength
  deriving DecidableEq, Repr

/-- A text qualified by a security domain, its scope. -/
structure ScopedText where
  value : String
  scope : String
  deriving DecidableEq, Repr

/-- A single value of an attribute. -/
inductive Value where
  | text (content : String)
  | scoped (content : ScopedText)
  | bytes (content : List UInt8)
  | empty (absence : Absence)
  | structured (typeName : String) (content : String)
  deriving DecidableEq, Repr

/-- What is wrong with a part of an attribute. -/
inductive AttributeError where
  | blankId (id : String)
  | incompleteScope (value scope : String)
  deriving DecidableEq, Repr

namespace AttributeError

/-- The class of an error. -/
def code : AttributeError → String
  | .blankId _ => "INVALID_ATTRIBUTE_ID"
  | .incompleteScope _ _ => "INVALID_SCOPED_VALUE"

/-- The wording of an error. -/
def message : AttributeError → String
  | .blankId id => "invalid attribute id: '" ++ id ++ "'"
  | .incompleteScope value scope =>
    "invalid scoped value: value '" ++ value ++ "' and scope '" ++ scope ++
      "' must both be non-empty"

end AttributeError

/-- A scoped text, both parts of which have content. -/
def ScopedText.new? (value scope : String) : Except AttributeError ScopedText :=
  if value = "" ∨ scope = "" then .error (.incompleteScope value scope) else .ok ⟨value, scope⟩

namespace Value

/-- A text; one of length zero is missing. -/
def ofText (text : String) : Value := if text = "" then .empty .zeroLength else .text text

/-- A scoped text; without a scope it is a plain one. -/
def ofScoped (value scope : String) : Value :=
  match ScopedText.new? value scope with
  | .ok content => .scoped content
  | .error _ => ofText value

/-- Bytes; a list of length zero is missing. -/
def ofBytes (bytes : List UInt8) : Value :=
  if bytes = [] then .empty .zeroLength else .bytes bytes

/-- The value of a source that held nothing. -/
def null : Value := .empty .null

/-- The text of a text or of a scoped text without its scope. -/
def text? : Value → Option String
  | .text content => some content
  | .scoped content => some content.value
  | _ => none

/-- The scope of a scoped text. -/
def scope? : Value → Option String
  | .scoped content => some content.scope
  | _ => none

/-- The content of bytes. -/
def bytes? : Value → Option (List UInt8)
  | .bytes content => some content
  | _ => none

/-- Whether the value is a placeholder. -/
def isEmpty : Value → Bool
  | .empty _ => true
  | _ => false

/-- The name of the kind of a value. -/
def kind : Value → String
  | .text _ => "string"
  | .scoped _ => "scoped"
  | .bytes _ => "bytes"
  | .empty _ => "empty"
  | .structured _ _ => "object"

/-- A short text that stands for a value. -/
def display : Value → String
  | .text content => content
  | .scoped content => content.value ++ "@" ++ content.scope
  | .bytes content => "<" ++ toString content.length ++ " bytes>"
  | .empty .null => "<null>"
  | .empty .zeroLength => "<empty>"
  | .structured typeName _ => "<" ++ typeName ++ ">"

/-- A value that has content or is a placeholder: no text, scoped part or list of bytes of length
zero. -/
def Normalised : Value → Prop
  | .text content => content ≠ ""
  | .scoped content => content.value ≠ "" ∧ content.scope ≠ ""
  | .bytes content => content ≠ []
  | .empty _ => True
  | .structured _ _ => True

/-- Different texts make different values, the empty text and blanks included. -/
theorem ofText_injective : Function.Injective ofText := by
  intro first second same
  unfold ofText at same
  split at same <;> split at same <;> simp_all

/-- An empty text becomes an empty value and not a string without characters. -/
theorem normalised_ofText (text : String) : (ofText text).Normalised := by
  unfold ofText
  split
  · trivial
  · assumption

/-- A scoped value whose text or scope is empty is not kept as a scoped value. -/
theorem normalised_ofScoped (value scope : String) : (ofScoped value scope).Normalised := by
  unfold ofScoped ScopedText.new?
  split
  · rename_i content found
    split at found
    · cases found
    · rename_i full
      cases found
      exact not_or.1 full
  · exact normalised_ofText value

/-- No bytes become an empty value. -/
theorem normalised_ofBytes (bytes : List UInt8) : (ofBytes bytes).Normalised := by
  unfold ofBytes
  split
  · trivial
  · assumption

/-! ## As documents -/

def toJson (value : Value) : Json :=
  let content : Json :=
    match value with
    | .text content => .string content
    | .scoped content =>
      .object [("value", .string content.value), ("scope", .string content.scope)]
    | .bytes content => .array (content.map fun byte => Json.nat byte.toNat)
    | .empty .null => .string "null"
    | .empty .zeroLength => .string "zero_length"
    | .structured typeName content =>
      .object [("type_name", .string typeName), ("content", .string content)]
  .object [("type", .string value.kind), ("value", content)]

/-- The content of a value of a given kind. -/
def ofContent? (stage : Json.Stage) (kind : String) (content : Json) : Option Value :=
  match kind with
  | "string" => content.text?.map .text
  | "scoped" => do
    let [value, scope] ← content.record? ["value", "scope"] | none
    return .scoped ⟨← Json.required Json.text? value, ← Json.required Json.text? scope⟩
  | "bytes" => (content.list? (Json.natBelow? 256)).map fun bytes => .bytes (bytes.map .ofNat)
  | "empty" =>
    (content.name? stage [("null", Absence.null), ("zero_length", Absence.zeroLength)]).map .empty
  | "object" => do
    let [typeName, content] ← content.record? ["type_name", "content"] | none
    return .structured (← Json.required Json.text? typeName) (← Json.required Json.text? content)
  | _ => none

/-- The names of the kinds of values. -/
def kinds : List (String × String) :=
  ["string", "scoped", "bytes", "empty", "object"].map fun kind => (kind, kind)

/-- Reads a value: an object with its kind as `type` and its content as `value`, or an array of the
two. A content that stands before the kind is read as a whole first. -/
def ofJson? (budget : Nat) : Json → Option Value
  | .object fields => do
    let kind ← (← Json.field? fields "type").bind (Json.name? .direct kinds)
    let content ← ← Json.field? fields "value"
    match fields.find? fun field => field.1 == "type" || field.1 == "value" with
    | some ("value", _) =>
      guard (content.isReadable (budget - 1))
      ofContent? .buffered kind content
    | _ => ofContent? .direct kind content
  | .array [kind, content] => do ofContent? .direct (← kind.name? .direct kinds) content
  | _ => none

end Value

end AttributeRelease
