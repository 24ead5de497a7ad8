import AttributeRelease.Filter.Config
import AttributeRelease.Resolver.Config.Document
import AttributeRelease.Resolver.Release
import AttributeRelease.Transcoding.Config

/-!
# From request to wire

A pipeline reads the attributes that come with a request, resolves the request with them, filters
what was resolved, and writes what is released in every known representation.
-/

namespace AttributeRelease

open Resolver Transcoding

/-- The three stations of a request. -/
structure Pipeline (σ : Type) where
  resolver : Resolver σ
  filter : Filter.AttributeFilter
  registry : Registry

namespace Pipeline

variable {σ : Type}

/-- Why a pipeline cannot be set up. -/
inductive SetupError where
  | unreadable
  | resolver (error : ConfigError)
  | filter (error : Filter.FilterError)
  | transcoding (error : RuleError)
  deriving DecidableEq, Repr

/-- Reads a configuration from its text. -/
def readConfig {α : Type} (config : Option α) : Except SetupError α :=
  match config with
  | some config => .ok config
  | none => .error .unreadable

/-- Sets up a pipeline from the texts of its configurations, each of which is read and built before
the next one is read. -/
def configure (resolver filter transcoding : String) : Except SetupError (Pipeline σ) := do
  let config ← readConfig (ResolverConfig.parse? resolver)
  let resolver ← config.build.mapError .resolver
  let config ← readConfig (Filter.FilterConfig.parse? filter)
  let filter ← config.build.mapError .filter
  let config ← readConfig (TranscodingConfig.parse? transcoding)
  let registry ← config.build.mapError .transcoding
  return { resolver, filter, registry }

/-- What comes of a request. -/
structure Outcome where
  resolved : AttributeMap
  released : AttributeMap
  wire : List Wire

/-- The attributes that arrived on the wire, by their ids; of two with one id the later counts. -/
def readInbound (registry : Registry) (request : Request) (inbound : List Wire) : AttributeMap :=
  .ofList ((inbound.flatMap (registry.decode request)).map fun attr => (attr.id, attr))

/-- The representations in which attributes are written. -/
def targets : List TypeTag := [TypeTag.saml2, TypeTag.saml1, TypeTag.claim]

/-- Attributes in every representation. -/
def writeAll (registry : Registry) (request : Request) (attributes : AttributeMap) : List Wire :=
  attributes.values.flatMap fun attr => targets.flatMap (registry.encode request attr)

/-- The state in which a request is before it is resolved. -/
def arrive (pipeline : Pipeline σ) (request : Request) (requestedIds : List String)
    (inbound : List Wire) : Resolution where
  request := request
  requestedIds := requestedIds
  inbound := readInbound pipeline.registry request inbound

/-- Filters what was resolved and writes what is released. -/
def finish (pipeline : Pipeline σ) (request : Request) (resolved : AttributeMap) : Outcome :=
  let released := pipeline.filter.filter ⟨request, resolved⟩ resolved
  ⟨resolved, released, writeAll pipeline.registry request released⟩

/-- Handles a request. The world and the failures of connectors outlive it. -/
def handle (pipeline : Pipeline σ) (clock : σ → Instant × σ) (request : Request)
    (requestedIds : List String) (inbound : List Wire) (world : σ) (failures : FailureLog) :
    Except Halt Outcome × σ × FailureLog :=
  let resolution := pipeline.arrive request requestedIds inbound
  let (outcome, progress) := resolve pipeline.resolver clock { world, failures, resolution }
  (outcome.map fun _ => pipeline.finish request progress.resolution.takeReleased.1,
    progress.world, progress.failures)

end Pipeline

end AttributeRelease
