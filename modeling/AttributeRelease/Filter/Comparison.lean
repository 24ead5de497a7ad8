import AttributeRelease.Json.Reader
import AttributeRelease.Pattern.Regex
import AttributeRelease.Text.Lowercase

/-!
# Comparing texts

A configured text is compared with a candidate as the whole of it, as a part of it, or as a regular
expression. Without regard to case, whole texts and parts are compared in lower case.
-/

namespace AttributeRelease.Filter

/-- What is wrong with the configuration of a filter. -/
inductive FilterError where
  | invalidRegex (pattern : String)
  | duplicatePolicy (id : String)
  | blankPolicy (id : String)
  deriving DecidableEq, Repr

namespace FilterError

/-- The class of an error. -/
def code : FilterError → String
  | .invalidRegex _ => "INVALID_REGEX"
  | .duplicatePolicy _ => "DUPLICATE_POLICY"
  | .blankPolicy _ => "INVALID_POLICY"

/-- The wording of an error, given the diagnostics of a pattern that does not compile. -/
def message (diagnose : String → String) : FilterError → String
  | .invalidRegex pattern => "invalid regex '" ++ pattern ++ "': " ++ diagnose pattern
  | .duplicatePolicy id => "duplicate filter policy id: " ++ id
  | .blankPolicy id => "invalid filter policy '" ++ id ++ "': policy id must not be blank"

end FilterError

namespace Comparison

/-- How a configured text is compared. -/
inductive Mode where
  | exact
  | substring
  | regex
  deriving DecidableEq, Repr

/-- The name of a mode. -/
def Mode.name : Mode → String
  | .exact => "exact"
  | .substring => "substring"
  | .regex => "regex"

/-- All modes by name. -/
def Mode.names : List (String × Mode) :=
  [.exact, .substring, .regex].map fun mode => (mode.name, mode)

/-- A comparison as it is configured. -/
structure Spec where
  mode : Mode := .exact
  value : String
  caseSensitive : Bool := true
  deriving DecidableEq, Repr

end Comparison

/-- A comparison ready for use. -/
inductive Comparison where
  | exact (expected : String) (caseSensitive : Bool)
  | substring (expected : String) (caseSensitive : Bool)
  | regex (compiled : Pattern.Regex)

namespace Comparison

/-- Prepares a comparison; a regular expression must match a candidate from end to end. -/
def Spec.compile (spec : Spec) : Except FilterError Comparison :=
  match spec.mode with
  | .exact => .ok (.exact spec.value spec.caseSensitive)
  | .substring => .ok (.substring spec.value spec.caseSensitive)
  | .regex =>
    match Pattern.Regex.compile? (Pattern.Regex.anchored spec.value) (!spec.caseSensitive) with
    | some compiled => .ok (.regex compiled)
    | none => .error (.invalidRegex spec.value)

/-- Whether a list stands somewhere in another. -/
def isInfix (part : List Char) : List Char → Bool
  | [] => part.isEmpty
  | c :: rest => part.isPrefixOf (c :: rest) || isInfix part rest

/-- The form in which texts are compared. -/
def normalForm (caseSensitive : Bool) (text : String) : String :=
  if caseSensitive then text else Text.lowercase text

/-- Whether a candidate satisfies the comparison. -/
def accepts (comparison : Comparison) (candidate : String) : Bool :=
  match comparison with
  | .exact expected caseSensitive =>
    normalForm caseSensitive candidate == normalForm caseSensitive expected
  | .substring expected caseSensitive =>
    isInfix (normalForm caseSensitive expected).toList (normalForm caseSensitive candidate).toList
  | .regex compiled => compiled.isMatch candidate

/-! ## As documents -/

/-- The fields of a comparison. -/
def Spec.fields (spec : Spec) : List (String × Json) :=
  [("mode", .string spec.mode.name), ("value", .string spec.value),
    ("case_sensitive", .bool spec.caseSensitive)]

/-- Reads a comparison; only the value is required. -/
def Spec.ofJson? (stage : Json.Stage) (document : Json) : Option Spec := do
  let [mode, value, caseSensitive] ←
    document.record? ["mode", "value", "case_sensitive"] | none
  return {
    mode := ← Json.orDefault .exact (Json.name? stage Mode.names) mode
    value := ← Json.required Json.text? value
    caseSensitive := ← Json.orDefault true Json.bool? caseSensitive }

end Comparison

end AttributeRelease.Filter
