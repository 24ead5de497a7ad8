import AttributeRelease.Filter.Release
import AttributeRelease.Json.Parser
import AttributeRelease.Json.Printer

/-!
# Configuration of filters

A filter is configured by a document that lists its policies. Policies are prepared in order, each
with its id checked before its requirement and its rules; ids must not repeat.
-/

namespace AttributeRelease.Filter

/-- A rule as it is configured. -/
structure RuleConfig where
  id : Option String := none
  attributeId : String
  deny : Bool := false
  matcher : Matcher Comparison.Spec

/-- A policy as it is configured. -/
structure PolicyConfig where
  id : String
  requirement : Requirement Comparison.Spec := .any
  rules : List RuleConfig := []

/-- The configuration of a filter. -/
structure FilterConfig where
  policies : List PolicyConfig := []

/-- A set of policies without repeated ids. -/
structure AttributeFilter where
  policies : List Policy
  distinct : (policies.map Policy.id).Nodup

namespace AttributeFilter

/-- The first policy whose id an earlier one has. -/
def repeated? : List String → List Policy → Option Policy
  | _, [] => none
  | seen, policy :: rest =>
    if policy.id ∈ seen then some policy else repeated? (policy.id :: seen) rest

theorem nodup_of_repeated? {seen : List String} {policies : List Policy}
    (none : repeated? seen policies = none) :
    (policies.map Policy.id).Nodup ∧ ∀ policy ∈ policies, policy.id ∉ seen := by
  induction policies generalizing seen with
  | nil => simp
  | cons policy rest ih =>
    simp only [repeated?] at none
    split at none
    · cases none
    · rename_i fresh
      obtain ⟨nodup, apart⟩ := ih none
      refine ⟨?_, ?_⟩
      · simp only [List.map_cons, List.nodup_cons, List.mem_map, not_exists, not_and]
        exact ⟨fun other member same => apart other member (same ▸ List.mem_cons_self), nodup⟩
      · intro other member
        rcases List.mem_cons.1 member with rfl | inside
        · exact fresh
        · exact fun seenBefore => apart other inside (List.mem_cons_of_mem _ seenBefore)

/-- A filter of several policies, whose ids must not repeat. -/
def new? (policies : List Policy) : Except FilterError AttributeFilter :=
  match h : repeated? [] policies with
  | some policy => .error (.duplicatePolicy policy.id)
  | none => .ok ⟨policies, (nodup_of_repeated? h).1⟩

/-- Filters attributes for a request. -/
def filter (attributeFilter : AttributeFilter) (context : Context) (attributes : AttributeMap) :
    AttributeMap :=
  release context attributeFilter.policies attributes

end AttributeFilter

/-- Prepares a rule, the one at a position in a policy. A rule without an id is named after its
policy, its attribute and its position. -/
def RuleConfig.build (config : RuleConfig) (policyId : String) (position : Nat) :
    Except FilterError Rule := do
  let matcher ← config.matcher.compile
  return {
    id := config.id.getD (policyId ++ ":" ++ config.attributeId ++ ":" ++ toString position)
    attributeId := config.attributeId
    denies := config.deny
    judge := fun context _ value => matcher.eval context value }

/-- Prepares rules from a position on. -/
def buildRules (policyId : String) : Nat → List RuleConfig → Except FilterError (List Rule)
  | _, [] => .ok []
  | position, rule :: rest => do
    let first ← rule.build policyId position
    return first :: (← buildRules policyId (position + 1) rest)

/-- Prepares a policy, whose id must not be blank. -/
def PolicyConfig.build (config : PolicyConfig) : Except FilterError Policy := do
  if Text.isBlank config.id then throw (.blankPolicy config.id)
  let requirement ← config.requirement.compile
  let rules ← buildRules config.id 0 config.rules
  return { id := config.id, requirement := fun context => requirement.eval context, rules }

/-- Prepares policies in order. -/
def buildPolicies : List PolicyConfig → Except FilterError (List Policy)
  | [] => .ok []
  | policy :: rest => do
    let first ← policy.build
    return first :: (← buildPolicies rest)

/-- Prepares a filter. -/
def FilterConfig.build (config : FilterConfig) : Except FilterError AttributeFilter := do
  AttributeFilter.new? (← buildPolicies config.policies)

/-! ## As documents -/

def RuleConfig.toJson (config : RuleConfig) : Json :=
  .object [("id", Json.ofOption .string config.id), ("attribute_id", .string config.attributeId),
    ("deny", .bool config.deny), ("matcher", config.matcher.toJson)]

def RuleConfig.ofJson? (budget : Nat) (document : Json) : Option RuleConfig := do
  let [id, attributeId, deny, matcher] ←
    document.record? ["id", "attribute_id", "deny", "matcher"] | none
  return {
    id := ← Json.nullable Json.text? id
    attributeId := ← Json.required Json.text? attributeId
    deny := ← Json.orDefault false Json.bool? deny
    matcher := ← Json.required (Matcher.ofJson? (budget - 1)) matcher }

def PolicyConfig.toJson (config : PolicyConfig) : Json :=
  .object [("id", .string config.id), ("requirement", config.requirement.toJson),
    ("rules", Json.ofList RuleConfig.toJson config.rules)]

def PolicyConfig.ofJson? (budget : Nat) (document : Json) : Option PolicyConfig := do
  let [id, requirement, rules] ← document.record? ["id", "requirement", "rules"] | none
  return {
    id := ← Json.required Json.text? id
    requirement := ← Json.orDefault .any (Requirement.ofJson? (budget - 1)) requirement
    rules := ← Json.orDefault [] (Json.list? (RuleConfig.ofJson? (budget - 2))) rules }

def FilterConfig.toJson (config : FilterConfig) : Json :=
  .object [("policies", Json.ofList PolicyConfig.toJson config.policies)]

def FilterConfig.ofJson? (document : Json) : Option FilterConfig := do
  let [policies] ← document.record? ["policies"] | none
  return {
    policies := ← Json.orDefault []
      (Json.list? (PolicyConfig.ofJson? (Json.nestingLimit - 2))) policies }

/-- Reads the configuration of a filter from its text. -/
def FilterConfig.parse? (text : String) : Option FilterConfig := do
  FilterConfig.ofJson? (← Json.parse? text)

end AttributeRelease.Filter
