import AttributeRelease.Pipeline
import AttributeRelease.Proofs.Filter.Survival
import AttributeRelease.Proofs.Graph.Blueprints
import AttributeRelease.Proofs.Release.Precedence
import AttributeRelease.Proofs.Walk.Invariants

/-!
# Keys and ids

The filter finds its rules by the key that an attribute stands under, the registry by the id of the
attribute. The two are one for what definitions have (`keyedById_definedAttributes`). A connector,
though, exports its attributes under the keys that it answered with, whatever their ids are. So the
released attributes stand under their ids as long as the connectors whose attributes may be exported
answer with them so (`released_under_ids`), as those of a configuration do
(`exportsUnderIds_of_build`).
-/

namespace AttributeRelease

/-- Everything in a map of attributes stands under its id. -/
def KeyedById (attributes : AttributeMap) : Prop :=
  ∀ key attr, attributes.get? key = some attr → attr.id = key

theorem keyedById_empty : KeyedById ∅ := by
  intro key attr found
  cases found

theorem KeyedById.insert {attributes : AttributeMap} (keyed : KeyedById attributes)
    {key : String} {attr : Attribute} (named : attr.id = key) :
    KeyedById (attributes.insert key attr) :=
  KeyMap.holds_of_get?_insert named keyed

namespace Filter

/-- The filter leaves keys and ids alone. -/
theorem keyedById_release {attributes : AttributeMap} (keyed : KeyedById attributes)
    (context : Context) (policies : List Policy) :
    KeyedById (release context policies attributes) := by
  intro key attr found
  obtain ⟨own, values, listed, rfl, -⟩ := exists_of_get?_release found
  exact keyed key own listed

end Filter

/-- Where everything stands under its id, the rules by which attributes are written are those for
their keys. -/
theorem writeAll_of_keyedById {attributes : AttributeMap} (keyed : KeyedById attributes)
    (registry : Transcoding.Registry) (request : Request) :
    Pipeline.writeAll registry request attributes =
      attributes.entries.flatMap fun entry => Pipeline.targets.flatMap fun target =>
        (registry.lookup entry.1 target).filterMap
          (Transcoding.Registry.encodeWith? request entry.2) := by
  rw [Pipeline.writeAll, KeyMap.values, List.flatMap_map]
  refine List.flatMap_congr fun entry listed => ?_
  rw [← keyed entry.1 entry.2 ((KeyMap.mem_entries_iff _ _ _).mp listed)]
  rfl

namespace Resolver

variable {σ : Type} {resolver : Resolver σ} {clock : σ → Instant × σ} {resolution : Resolution}

/-! ## Released attributes -/

/-- Definitions release their attributes under the ids that these have. -/
theorem keyedById_definedAttributes (resolver : Resolver σ) (includeDependencyOnly : Bool)
    (resolution : Resolution) :
    KeyedById (definedAttributes resolver includeDependencyOnly resolution) := by
  intro key attr found
  rw [get?_definedAttributes] at found
  obtain ⟨entry, -, here⟩ := List.exists_of_findSome?_eq_some found
  exact of_decide_eq_true (Option.filter_eq_some_iff.mp here).2

/-- The first connector to offer an attribute under a key, where no definition contributes one,
offers one with another id. -/
structure Misplaces (resolver : Resolver σ) (resolution : Resolution) (key : String)
    (attr : Attribute) (id : String) (connector : Connector σ) (kept : Attribute) : Prop where
  undefined : ∀ id record attr, ¬ Contributes resolver resolution key id record attr
  offers : Offers resolver resolution key id connector kept
  first : ∀ earlier other attr, earlier < id → ¬ Offers resolver resolution key earlier other attr
  shown : resolver.displayExported connector.settings key kept = attr
  misnamed : kept.id ≠ key

/-- An attribute is released under another key than its id exactly if a connector exports it there
and nothing comes before. -/
theorem releasedAttributes_misplaced_iff {key : String} {attr : Attribute} :
    ((releasedAttributes resolver resolution).get? key = some attr ∧ attr.id ≠ key) ↔
      ∃ id connector kept, Misplaces resolver resolution key attr id connector kept := by
  rw [releasedAttributes_iff_prevails]
  constructor
  · rintro ⟨prevails, misnamed⟩
    cases prevails with
    | contributed contributes last =>
        obtain ⟨own, -, named, keeps⟩ := contributes.keeps
        rw [displayDefined_id, keeps.id] at misnamed
        exact absurd named misnamed
    | offered undefined offers first =>
        rw [displayExported_id] at misnamed
        exact ⟨_, _, _, undefined, offers, first, rfl, misnamed⟩
  · rintro ⟨id, connector, kept, misplaces⟩
    rw [← misplaces.shown, displayExported_id]
    exact ⟨.offered misplaces.undefined misplaces.offers misplaces.first, misplaces.misnamed⟩

/-- What exporting connectors export was answered under the id of the attribute, by them or by a
connector that they fail over to. -/
def ExportsUnderIds (resolver : Resolver σ) : Prop :=
  ∀ id connector, resolver.connectors.get? id = some connector →
    ∀ source other, Relation.ReflTransGen resolver.graph.FailsOver id source →
      resolver.connectors.get? source = some other →
        ∀ attributes, other.Answers attributes → ∀ key attr,
          connector.settings.exported.Permits key → attributes.get? key = some attr →
            attr.id = key

/-- What a connector offers was answered by the connector that it has its attributes from. -/
theorem Offers.answered {key id : String} {connector : Connector σ} {kept : Attribute}
    (offers : Offers resolver resolution key id connector kept)
    (traceable : resolution.Traceable resolver) (answered : resolution.Answered resolver) :
    ∃ source other attributes own, Relation.ReflTransGen resolver.graph.FailsOver id source ∧
      resolver.connectors.get? source = some other ∧ other.Answers attributes ∧
        attributes.get? key = some own ∧ own.id = kept.id := by
  obtain ⟨record, attributes, own, recorded, has, listed, keeps⟩ := offers.keeps
  obtain ⟨other, found, answers⟩ := answered.connectors id record recorded attributes has
  have leads := (traceable.source id record recorded).1
  exact ⟨_, other, attributes, own, leads, found, answers, listed, keeps.id.symm⟩

/-- Where connectors export attributes under their ids only, all are released so. -/
theorem keyedById_releasedAttributes (underIds : ExportsUnderIds resolver)
    (traceable : resolution.Traceable resolver) (answered : resolution.Answered resolver) :
    KeyedById (releasedAttributes resolver resolution) := by
  intro key attr found
  by_contra misnamed
  obtain ⟨id, connector, kept, misplaces⟩ := releasedAttributes_misplaced_iff.mp ⟨found, misnamed⟩
  obtain ⟨source, other, attributes, own, leads, foundSource, answers, listed, same⟩ :=
    misplaces.offers.answered traceable answered
  refine misplaces.misnamed (same ▸ ?_)
  exact underIds id connector misplaces.offers.found source other leads foundSource attributes
    answers key own misplaces.offers.exported listed

/-! ## Configured connectors -/

theorem keyedById_fixedAttributes (fixed : List (String × List String)) :
    KeyedById ((KeyMap.ofList fixed).mapValues fixedAttribute) := by
  intro key attr found
  rw [KeyMap.get?_mapValues, Option.map_eq_some_iff] at found
  obtain ⟨texts, -, rfl⟩ := found
  rfl

theorem keyedById_computedId {connector : ComputedId} {seen : Resolution}
    {attributes : AttributeMap} (fetched : connector.fetch seen = .ok (some attributes)) :
    KeyedById attributes := by
  obtain ⟨-, _, _, -, rfl⟩ := ComputedId.fetch_eq_some_iff.mp fetched
  exact keyedById_empty.insert rfl

/-- A configured connector answers with attributes under their ids. -/
theorem ConnectorConfig.build_keyedById {config : ConnectorConfig} {connector : Connector σ}
    (built : config.build = .ok connector) {attributes : AttributeMap}
    (answers : connector.Answers attributes) : KeyedById attributes := by
  obtain ⟨seen, world, answer⟩ := answers
  cases kind : config.kind with
  | fixed fixed =>
      obtain ⟨-, rfl⟩ := (ConnectorConfig.build_eq_ok_iff_of_fixed kind).mp built
      cases answer
      exact keyedById_fixedAttributes fixed
  | computedId sourceId salt generatedId =>
      rw [ConnectorConfig.build, kind] at built
      obtain ⟨computed, -, last⟩ := exists_of_bind_eq_ok built
      cases last
      exact keyedById_computedId answer

/-- The connectors of a configured resolver answer with attributes under their ids. -/
theorem exportsUnderIds_of_build {config : ResolverConfig} {resolver : Resolver σ}
    (built : config.build = .ok resolver) : ExportsUnderIds resolver := by
  intro id connector _ source other _ foundSource attributes answers key attr _ listed
  obtain ⟨entry, -, prepared⟩ := (ResolverConfig.exists_of_build built).2 source other foundSource
  exact entry.build_keyedById prepared answers key attr listed

/-! ## What a request releases -/

/-- Let a request be used in any way and then be resolved with success. An attribute is released
under a key that is not its id exactly where no definition contributes one and the first connector
to offer one offers one with another id. When all that may be exported was answered under ids, so is
all that is released; and so is what a filter leaves of it, which is therefore written by the rules
for the very keys that the filter judged it by. -/
theorem released_under_ids (resolver : Resolver σ) (clock : σ → Instant × σ) (request : Request)
    (uses : List (Use σ)) (world : σ) (failures : FailureLog) {after : Progress σ}
    (succeeded : resolve resolver clock
      { world, failures, resolution := stateAfter resolver clock { request } uses } =
        (.ok (), after)) :
    (∀ key attr,
        (after.resolution.released.get? key = some attr ∧ attr.id ≠ key) ↔
          ∃ id connector kept, Misplaces resolver after.resolution key attr id connector kept) ∧
      (ExportsUnderIds resolver → KeyedById after.resolution.released ∧
        ∀ context policies registry,
          let filtered := Filter.release context policies after.resolution.released
          KeyedById filtered ∧ Pipeline.writeAll registry request filtered =
            filtered.entries.flatMap fun entry => Pipeline.targets.flatMap fun target =>
              (registry.lookup entry.1 target).filterMap
                (Transcoding.Registry.encodeWith? request entry.2)) := by
  let start : Progress σ :=
    { world, failures, resolution := stateAfter resolver clock { request } uses }
  have ended : (resolve resolver clock start).1 = .ok () := by rw [succeeded]
  have released := resolve_released ended
  obtain ⟨ran, -, unfolds⟩ := resolve_unfolds resolver clock start
    (stateAfter_traceable resolver clock request uses)
  have traceable := unfolds.finished
  have answered : (resolve resolver clock start).2.resolution.Answered resolver :=
    resolve_answered (stateAfter_answered resolver clock request uses)
  rw [succeeded] at released traceable answered
  rw [released]
  refine ⟨fun key attr => releasedAttributes_misplaced_iff, fun underIds => ?_⟩
  have keyed := keyedById_releasedAttributes underIds traceable answered
  refine ⟨keyed, fun context policies registry => ?_⟩
  have kept := Filter.keyedById_release keyed context policies
  exact ⟨kept, writeAll_of_keyedById kept registry request⟩

/-- A connector with fixed attributes answers with no others. -/
theorem answers_staticConnector {settings : ConnectorSettings} {attributes other : AttributeMap}
    (answers : (staticConnector settings attributes : Connector σ).Answers other) :
    other = attributes := by
  obtain ⟨seen, world, answer⟩ := answers
  cases answer
  rfl

/-- The reception exports its attributes under their own ids. -/
theorem reception_exportsUnderIds : ExportsUnderIds reception := by
  have each : ∀ entry ∈ reception.connectors.entries, ∀ attributes,
      entry.2.Answers attributes → ∀ item ∈ attributes.entries, item.2.id = item.1 := by
    intro entry listed attributes answers
    have entries : reception.connectors.entries = [("building", _), ("campus", _)] := rfl
    rw [entries, List.mem_cons, List.mem_singleton] at listed
    rcases listed with rfl | rfl
    · cases answers_staticConnector answers
      decide +kernel
    · cases answers_staticConnector answers
      decide +kernel
  intro id connector _ source other _ found attributes answers key attr _ listed
  have member := (KeyMap.mem_entries_iff _ source other).mpr found
  exact each (source, other) member attributes answers (key, attr)
    ((KeyMap.mem_entries_iff _ _ _).mpr listed)

/-- The reception releases its phone number and its room under their ids. -/
theorem released_under_ids_reception :
    receptionEnd.1 = .ok () ∧ KeyedById receptionEnd.2.resolution.released ∧
      (receptionEnd.2.resolution.released.get? "room").isSome = true := by
  have ended : receptionEnd.1 = .ok () := by decide +kernel
  have succeeded : resolve reception (fun world => (0, world)) {
      world := ()
      failures := .new ["building", "campus"]
      resolution := stateAfter reception (fun world => (0, world)) {} [] } =
        (.ok (), receptionEnd.2) :=
    Step.eq_of_ok ended
  have keyed := (released_under_ids reception _ {} [] () _ succeeded).2 reception_exportsUnderIds
  exact ⟨ended, keyed.1, by decide +kernel⟩

/-- The login names of a directory are user ids there. -/
def payrollConnectors : Keyed fun connector : Connector Unit => connector.settings.id :=
  Keyed.add .empty (staticConnector { id := "ldap", exported := .all }
    (.ofList [("login", ⟨"uid", [.ofText "js"], ∅, ∅⟩)]))

def payrollDefinitions : Keyed fun definition : Definition Unit => definition.settings.id :=
  Keyed.add .empty (fixedDefinition { id := "uid" } ⟨"uid", [.ofText "jsmith"], ∅, ∅⟩)

/-- A resolver with user ids of its own beside those of a directory. -/
def payroll : Resolver Unit where
  id := "payroll"
  definitions := payrollDefinitions.1
  connectors := payrollConnectors.1
  stripNulls := false
  suppressDisplay := false
  definitions_keyed := payrollDefinitions.2
  connectors_keyed := payrollConnectors.2
  accepted := by decide +kernel

def payrollEnd : Except Halt Unit × Progress Unit :=
  resolve payroll (fun world => (0, world))
    { world := (), failures := .new ["ldap"], resolution := {} }

/-- A filter that releases login names. -/
def loginPolicy : Filter.Policy where
  id := "logins"
  requirement _ := .permit
  rules := [
    { id := "login", attributeId := "login", denies := false, judge := fun _ _ _ => .permit }]

/-- A registry that writes user ids. -/
def uidPlan : Transcoding.RegistryPlan where
  installations := [
    { attributeId := "uid", codec := .ready .claim, rule := { name := some "sub" } }]

/-- The payroll releases two attributes with one id, the one from the directory under another key.
So a filter that knows of no user ids lets one pass, and it is written as such. -/
theorem payroll_not_keyedById :
    let released := payrollEnd.2.resolution.released
    payrollEnd.1 = .ok () ∧ ¬ KeyedById released ∧
      released.get? "login" = some ⟨"uid", [.text "js"], ∅, ∅⟩ ∧
      released.get? "uid" = some ⟨"uid", [.text "jsmith"], ∅, ∅⟩ ∧
      uidPlan.build.lookup "login" Transcoding.TypeTag.claim = [] ∧
      Pipeline.writeAll uidPlan.build {} (Filter.release ⟨{}, released⟩ [loginPolicy] released) =
        [.claim ⟨"sub", .string "js"⟩] := by
  have login : payrollEnd.2.resolution.released.get? "login" =
      some ⟨"uid", [.text "js"], ∅, ∅⟩ := by
    decide +kernel
  refine ⟨by decide +kernel, fun keyed => ?_, login, by decide +kernel, ?_, ?_⟩
  · exact absurd (keyed "login" _ login) (by decide)
  · rfl
  · rfl

end Resolver

end AttributeRelease
