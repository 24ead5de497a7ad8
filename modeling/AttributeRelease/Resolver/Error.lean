import AttributeRelease.Attribute.Value

/-!
# Errors of the resolver

A `ConfigError` arises while a resolver is set up, a `ResolutionError` while a request is resolved.
-/

namespace AttributeRelease.Resolver

/-- What goes wrong while a plugin is resolved. -/
inductive ResolutionError where
  | noResult (pluginId : String)
  | failed (pluginId : String) (message : String) (cause : Option String)
  | invalidInput (pluginId : String) (message : String)
  | noRetryWindow (connectorId : String)
  | attributeError (error : AttributeError)
  deriving DecidableEq, Repr

namespace ResolutionError

/-- Whether a source had no result. -/
def isNoResult : ResolutionError → Bool
  | .noResult _ => true
  | _ => false

/-- Whether a source failed. -/
def isSourceFailure : ResolutionError → Bool
  | .failed _ _ _ => true
  | _ => false

/-- The text of the error that caused this one. -/
def cause? : ResolutionError → Option String
  | .failed _ _ cause => cause
  | _ => none

/-- The class of an error. -/
def code : ResolutionError → String
  | .noResult _ => "NO_RESULT"
  | .failed _ _ _ => "RESOLUTION_FAILED"
  | .invalidInput _ _ => "INVALID_INPUT"
  | .noRetryWindow _ => "NO_RETRY_WINDOW"
  | .attributeError _ => "INVALID_ATTRIBUTE"

/-- The wording of an error. -/
def message : ResolutionError → String
  | .noResult pluginId => "no result from data connector '" ++ pluginId ++ "'"
  | .failed pluginId message _ => "plugin '" ++ pluginId ++ "' failed: " ++ message
  | .invalidInput pluginId message => "plugin '" ++ pluginId ++ "' has invalid input: " ++ message
  | .noRetryWindow connectorId =>
    "data connector '" ++ connectorId ++ "' failed recently and is not retried yet"
  | .attributeError error => error.message

/-- An error of an attribute as one of the plugin that builds it. -/
def ofAttribute {α : Type} : Except AttributeError α → Except ResolutionError α
  | .ok value => .ok value
  | .error error => .error (.attributeError error)

/-- Renaming an error makes no success out of it. -/
theorem eq_ok_of_ofAttribute {α : Type} {outcome : Except AttributeError α} {value : α}
    (done : ofAttribute outcome = .ok value) : outcome = .ok value := by
  cases outcome with
  | error error => cases done
  | ok own =>
      cases done
      rfl

end ResolutionError

/-- What is wrong with the plugins of a resolver. -/
inductive ConfigError where
  | duplicatePlugin (id : String)
  | idCollision (id : String)
  | missingDependency (pluginId dependencyId : String)
  | circularDependency (path : List String)
  | unknownFailover (connectorId failoverId : String)
  | failoverLoop (path : List String)
  | invalidPlugin (pluginId message : String)
  | invalidPattern (pluginId pattern : String)
  deriving DecidableEq, Repr

namespace ConfigError

/-- The class of an error. -/
def code : ConfigError → String
  | .duplicatePlugin _ => "DUPLICATE_PLUGIN"
  | .idCollision _ => "ID_COLLISION"
  | .missingDependency _ _ => "MISSING_DEPENDENCY"
  | .circularDependency _ => "CIRCULAR_DEPENDENCY"
  | .unknownFailover _ _ => "UNKNOWN_FAILOVER"
  | .failoverLoop _ => "FAILOVER_LOOP"
  | .invalidPlugin _ _ => "INVALID_PLUGIN"
  | .invalidPattern _ _ => "INVALID_PLUGIN"

/-- The wording of an error, given the diagnostics of a pattern that does not compile. -/
def message (diagnose : String → String) : ConfigError → String
  | .duplicatePlugin id => "duplicate plugin id: " ++ id
  | .idCollision id =>
    "id '" ++ id ++ "' is used by both an attribute definition and a data connector"
  | .missingDependency pluginId dependencyId =>
    "plugin '" ++ pluginId ++ "' depends on unknown plugin '" ++ dependencyId ++ "'"
  | .circularDependency path => "circular dependency: " ++ " -> ".intercalate path
  | .unknownFailover connectorId failoverId =>
    "data connector '" ++ connectorId ++ "' fails over to unknown connector '" ++ failoverId ++ "'"
  | .failoverLoop path => "failover loop: " ++ " -> ".intercalate path
  | .invalidPlugin pluginId message => "invalid plugin '" ++ pluginId ++ "': " ++ message
  | .invalidPattern pluginId pattern =>
    "invalid plugin '" ++ pluginId ++ "': " ++ diagnose pattern

end ConfigError

end AttributeRelease.Resolver
