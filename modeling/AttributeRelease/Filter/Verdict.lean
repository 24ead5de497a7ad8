import AttributeRelease.Json.Reader

/-!
# Verdicts

A test permits, denies, or has no opinion, for instance because the request lacks what it looks at.
Verdicts combine like truth values of which the third is unknown.
-/

namespace AttributeRelease.Filter

/-- The answer of a test. -/
inductive Verdict where
  | permit
  | deny
  | indeterminate
  deriving DecidableEq, Repr

namespace Verdict

/-- Permits what is true and denies what is false. -/
def ofBool (matched : Bool) : Verdict := if matched then .permit else .deny

/-- Both: a denial prevails, then having no opinion. -/
def both : Verdict → Verdict → Verdict
  | .deny, _ => .deny
  | _, .deny => .deny
  | .indeterminate, _ => .indeterminate
  | _, .indeterminate => .indeterminate
  | .permit, .permit => .permit

/-- Either: a permission prevails, then having no opinion. -/
def either : Verdict → Verdict → Verdict
  | .permit, _ => .permit
  | _, .permit => .permit
  | .indeterminate, _ => .indeterminate
  | _, .indeterminate => .indeterminate
  | .deny, .deny => .deny

/-- The opposite of an opinion. -/
def opposite : Verdict → Verdict
  | .permit => .deny
  | .deny => .permit
  | .indeterminate => .indeterminate

/-- All of several verdicts; of none, a permission. -/
def all (verdicts : List Verdict) : Verdict := verdicts.foldl both .permit

/-- Any of several verdicts; of none, a denial. -/
def any (verdicts : List Verdict) : Verdict := verdicts.foldl either .deny

/-- Whether the verdict is a permission. -/
def isPermit (verdict : Verdict) : Bool := verdict == .permit

/-- The name of a verdict. -/
def name : Verdict → String
  | .permit => "permit"
  | .deny => "deny"
  | .indeterminate => "indeterminate"

/-- All verdicts by name. -/
def names : List (String × Verdict) :=
  [.permit, .deny, .indeterminate].map fun verdict => (name verdict, verdict)

def toJson (verdict : Verdict) : Json := .string verdict.name

def ofJson? (document : Json) : Option Verdict := document.name? .direct names

end Verdict

end AttributeRelease.Filter
