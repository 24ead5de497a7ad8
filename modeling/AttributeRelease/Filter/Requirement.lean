import AttributeRelease.Filter.Matcher

/-!
# Requirements

A requirement decides whether a policy applies to a request: by a party, by the values of some
attribute or of all of them, and by combinations of these.
-/

namespace AttributeRelease.Filter

/-- A test on a request and its attributes, over comparisons of some kind. -/
inductive Requirement (κ : Type) where
  | any
  | party (party : Request.Party) (comparison : κ)
  | attributeValue (attributeId : Option String) (matcher : Matcher κ)
  | all (members : List (Requirement κ))
  | either (members : List (Requirement κ))
  | not (member : Requirement κ)

/-- What holds of the simple requirements, and of a combination as soon as it holds of its members,
holds of every requirement. -/
@[elab_as_elim, induction_eliminator]
theorem Requirement.induct {κ : Type} {motive : Requirement κ → Prop} (any : motive .any)
    (party : ∀ who comparison, motive (.party who comparison))
    (attributeValue : ∀ attributeId matcher, motive (.attributeValue attributeId matcher))
    (all : ∀ members, (∀ member ∈ members, motive member) → motive (.all members))
    (either : ∀ members, (∀ member ∈ members, motive member) → motive (.either members))
    (not : ∀ member, motive member → motive (.not member)) :
    (requirement : Requirement κ) → motive requirement
  | .any => any
  | .party who comparison => party who comparison
  | .attributeValue attributeId matcher => attributeValue attributeId matcher
  | .all members => all members fun member _ => induct any party attributeValue all either not member
  | .either members =>
    either members fun member _ => induct any party attributeValue all either not member
  | .not member => not member (induct any party attributeValue all either not member)

/-- Judges an attribute by its values: any of them may be permitted. -/
def judgeAttribute (judge : Value → Verdict) (attr : Attribute) : Verdict :=
  .any (attr.values.map judge)

namespace Requirement

mutual

/-- Judges a request. An attribute that is missing is denied. -/
def eval (context : Context) : Requirement Comparison → Verdict
  | .any => .permit
  | .party who comparison => judgeParty context.request who comparison
  | .attributeValue (some id) matcher =>
    match context.attributes.get? id with
    | some attr => judgeAttribute (fun value => matcher.eval context value) attr
    | none => .deny
  | .attributeValue none matcher =>
    .any (context.attributes.values.map (judgeAttribute fun value => matcher.eval context value))
  | .all members => .all (evalEach context members)
  | .either members => .any (evalEach context members)
  | .not member => (eval context member).opposite

/-- Judges a request by each of several requirements. -/
def evalEach (context : Context) : List (Requirement Comparison) → List Verdict
  | [] => []
  | member :: rest => eval context member :: evalEach context rest

end

theorem evalEach_eq_map (context : Context) (members : List (Requirement Comparison)) :
    evalEach context members = members.map (eval context) := by
  induction members with
  | nil => rfl
  | cons member rest ih => rw [evalEach, ih, List.map_cons]

mutual

/-- Prepares all comparisons of a requirement. -/
def compile : Requirement Comparison.Spec → Except FilterError (Requirement Comparison)
  | .any => .ok .any
  | .party who spec => do return .party who (← spec.compile)
  | .attributeValue id matcher => do return .attributeValue id (← matcher.compile)
  | .all members => do return .all (← compileEach members)
  | .either members => do return .either (← compileEach members)
  | .not member => do return .not (← member.compile)

/-- Prepares several requirements in order. -/
def compileEach :
    List (Requirement Comparison.Spec) → Except FilterError (List (Requirement Comparison))
  | [] => .ok []
  | member :: rest => do
    let first ← member.compile
    return first :: (← compileEach rest)

end

/-! ## As documents -/

mutual

def toJson : Requirement Comparison.Spec → Json
  | .any => .object [("type", .string "any")]
  | .party who spec => .object (("type", .string who.name) :: spec.fields)
  | .attributeValue id matcher =>
    .object [("type", .string "attribute_value"), ("attribute_id", Json.ofOption .string id),
      ("matcher", matcher.toJson)]
  | .all members => .object [("type", .string "and"), ("rules", .array (toJsonEach members))]
  | .either members => .object [("type", .string "or"), ("rules", .array (toJsonEach members))]
  | .not member => .object [("type", .string "not"), ("rule", member.toJson)]

/-- The documents of several requirements. -/
def toJsonEach : List (Requirement Comparison.Spec) → List Json
  | [] => []
  | member :: rest => member.toJson :: toJsonEach rest

end

/-- The names of the kinds of requirements. -/
def kinds : List String :=
  ["any", "requester", "issuer", "principal", "attribute_value", "and", "or", "not"]

/-- Reads a requirement out of a document nested at most `depth` deep. -/
def read? (stage : Json.Stage) : (depth : Nat) → Json → Option (Requirement Comparison.Spec)
  | 0, _ => none
  | depth + 1, document => do
    let (kind, content) ← document.tagged? stage kinds
    match kind with
    | "any" => do let _ ← content.unit?; return .any
    | "requester" => return .party .requester (← Comparison.Spec.ofJson? .buffered content)
    | "issuer" => return .party .issuer (← Comparison.Spec.ofJson? .buffered content)
    | "principal" => return .party .principal (← Comparison.Spec.ofJson? .buffered content)
    | "attribute_value" => do
      let [id, matcher] ← content.record? ["attribute_id", "matcher"] | none
      return .attributeValue (← Json.nullable Json.text? id)
        (← Json.required (Matcher.read? .buffered depth) matcher)
    | "not" => do
      let [member] ← content.record? ["rule"] | none
      return .not (← Json.required (read? .buffered depth) member)
    | _ => do
      let [members] ← content.record? ["rules"] | none
      let members ← Json.required (Json.list? (read? .buffered depth)) members
      return if kind = "and" then .all members else .either members

/-- Reads a requirement that stands in the text of a document, with arrays and objects nested at
most `budget` deep. -/
def ofJson? (budget : Nat) (document : Json) : Option (Requirement Comparison.Spec) := do
  guard (document.isReadable budget)
  read? .direct budget document

end Requirement

end AttributeRelease.Filter
