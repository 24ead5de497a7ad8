import AttributeRelease.Attribute.Basic
import AttributeRelease.Attribute.Request
import AttributeRelease.Filter.Comparison
import AttributeRelease.Filter.Verdict

/-!
# Matchers

A matcher judges one value of one attribute: by its text, by its scope, or by a party of the
request. Matchers combine by all, any and not. The same trees serve with comparisons as configured
and with comparisons ready for use; `Matcher.compile` leads from the one to the other.
-/

namespace AttributeRelease.Filter

/-- What a filter sees of a request: its parties and all attributes, released or not. -/
structure Context where
  request : Request
  attributes : AttributeMap

/-- A test on values, over comparisons of some kind. -/
inductive Matcher (κ : Type) where
  | any
  | value (comparison : κ)
  | scope (comparison : κ)
  | party (party : Request.Party) (comparison : κ)
  | all (members : List (Matcher κ))
  | either (members : List (Matcher κ))
  | not (member : Matcher κ)

/-- What holds of the simple matchers, and of a combination as soon as it holds of its members, holds
of every matcher. -/
@[elab_as_elim, induction_eliminator]
theorem Matcher.induct {κ : Type} {motive : Matcher κ → Prop} (any : motive .any)
    (value : ∀ comparison, motive (.value comparison))
    (scope : ∀ comparison, motive (.scope comparison))
    (party : ∀ who comparison, motive (.party who comparison))
    (all : ∀ members, (∀ member ∈ members, motive member) → motive (.all members))
    (either : ∀ members, (∀ member ∈ members, motive member) → motive (.either members))
    (not : ∀ member, motive member → motive (.not member)) : (matcher : Matcher κ) → motive matcher
  | .any => any
  | .value comparison => value comparison
  | .scope comparison => scope comparison
  | .party who comparison => party who comparison
  | .all members =>
    all members fun member _ => induct any value scope party all either not member
  | .either members =>
    either members fun member _ => induct any value scope party all either not member
  | .not member => not member (induct any value scope party all either not member)

/-- Judges a party of the request; there is no opinion on a party it does not name. -/
def judgeParty (request : Request) (party : Request.Party) (comparison : Comparison) : Verdict :=
  match request.get? party with
  | some actual => .ofBool (comparison.accepts actual)
  | none => .indeterminate

namespace Matcher

mutual

/-- Judges a value. A value without the text or the scope that is compared is denied. -/
def eval (context : Context) (value : Value) : Matcher Comparison → Verdict
  | .any => .permit
  | .value comparison => .ofBool (value.text?.any comparison.accepts)
  | .scope comparison => .ofBool (value.scope?.any comparison.accepts)
  | .party who comparison => judgeParty context.request who comparison
  | .all members => .all (evalEach context value members)
  | .either members => .any (evalEach context value members)
  | .not member => (eval context value member).opposite

/-- Judges a value by each of several matchers. -/
def evalEach (context : Context) (value : Value) : List (Matcher Comparison) → List Verdict
  | [] => []
  | member :: rest => eval context value member :: evalEach context value rest

end

theorem evalEach_eq_map (context : Context) (value : Value) (members : List (Matcher Comparison)) :
    evalEach context value members = members.map (eval context value) := by
  induction members with
  | nil => rfl
  | cons member rest ih => rw [evalEach, ih, List.map_cons]

mutual

/-- Prepares all comparisons of a matcher; the first that cannot be prepared decides the error. -/
def compile : Matcher Comparison.Spec → Except FilterError (Matcher Comparison)
  | .any => .ok .any
  | .value spec => do return .value (← spec.compile)
  | .scope spec => do return .scope (← spec.compile)
  | .party who spec => do return .party who (← spec.compile)
  | .all members => do return .all (← compileEach members)
  | .either members => do return .either (← compileEach members)
  | .not member => do return .not (← member.compile)

/-- Prepares several matchers in order. -/
def compileEach : List (Matcher Comparison.Spec) → Except FilterError (List (Matcher Comparison))
  | [] => .ok []
  | member :: rest => do
    let first ← member.compile
    return first :: (← compileEach rest)

end

/-! ## As documents -/

mutual

def toJson : Matcher Comparison.Spec → Json
  | .any => .object [("type", .string "any")]
  | .value spec => .object (("type", .string "value") :: spec.fields)
  | .scope spec => .object (("type", .string "scope") :: spec.fields)
  | .party who spec => .object (("type", .string who.name) :: spec.fields)
  | .all members => .object [("type", .string "and"), ("matchers", .array (toJsonEach members))]
  | .either members => .object [("type", .string "or"), ("matchers", .array (toJsonEach members))]
  | .not member => .object [("type", .string "not"), ("matcher", member.toJson)]

/-- The documents of several matchers. -/
def toJsonEach : List (Matcher Comparison.Spec) → List Json
  | [] => []
  | member :: rest => member.toJson :: toJsonEach rest

end

/-- The names of the kinds of matchers. -/
def kinds : List String :=
  ["any", "value", "scope", "requester", "issuer", "principal", "and", "or", "not"]

/-- Reads a matcher out of a document nested at most `depth` deep. -/
def read? (stage : Json.Stage) : (depth : Nat) → Json → Option (Matcher Comparison.Spec)
  | 0, _ => none
  | depth + 1, document => do
    let (kind, content) ← document.tagged? stage kinds
    match kind with
    | "any" => do let _ ← content.unit?; return .any
    | "value" => return .value (← Comparison.Spec.ofJson? .buffered content)
    | "scope" => return .scope (← Comparison.Spec.ofJson? .buffered content)
    | "requester" => return .party .requester (← Comparison.Spec.ofJson? .buffered content)
    | "issuer" => return .party .issuer (← Comparison.Spec.ofJson? .buffered content)
    | "principal" => return .party .principal (← Comparison.Spec.ofJson? .buffered content)
    | "not" => do
      let [member] ← content.record? ["matcher"] | none
      return .not (← Json.required (read? .buffered depth) member)
    | _ => do
      let [members] ← content.record? ["matchers"] | none
      let members ← Json.required (Json.list? (read? .buffered depth)) members
      return if kind = "and" then .all members else .either members

/-- Reads a matcher that stands in the text of a document, with arrays and objects nested at most
`budget` deep. -/
def ofJson? (budget : Nat) (document : Json) : Option (Matcher Comparison.Spec) := do
  guard (document.isReadable budget)
  read? .direct budget document

end Matcher

end AttributeRelease.Filter
