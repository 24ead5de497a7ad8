import AttributeRelease.Proofs.Filter.Survival
import AttributeRelease.Proofs.Graph.Blueprints
import AttributeRelease.Proofs.Release.Distillation
import AttributeRelease.Proofs.Values.Origins
import AttributeRelease.Proofs.Walk.Invariants

/-!
# No blank values in disguise

Where all plugins are built in, every value of a request is normalised in every state that the
request is in, and so are those that are released, filtered or read from the wire
(`values_normalised`). Connectors that query a source may answer from caches. A cache starts empty,
and only such connectors write to it, so it keeps normalised values too.
-/

namespace AttributeRelease

/-- Attributes as a resolver hands them on: normalised, and without placeholders if these are
stripped. -/
structure AttributeMap.Presentable (stripNulls : Bool) (attributes : AttributeMap) : Prop where
  normalised : attributes.Normalised
  stripped : stripNulls = true → ∀ key attr, attributes.get? key = some attr →
    ∀ value ∈ attr.values, value.isEmpty = false

theorem AttributeMap.presentable_empty (stripNulls : Bool) :
    AttributeMap.Presentable stripNulls ∅ :=
  ⟨normalised_empty, fun _ _ _ found => nomatch found⟩

/-- The filter adds no values, so it leaves attributes presentable. -/
theorem Filter.presentable_release {stripNulls : Bool} {attributes : AttributeMap}
    (presentable : attributes.Presentable stripNulls) (context : Context)
    (policies : List Policy) : (release context policies attributes).Presentable stripNulls := by
  constructor
  · intro key attr found value member
    obtain ⟨own, values, listed, rfl, kept⟩ := exists_of_get?_release found
    exact presentable.normalised key own listed value (kept member)
  · intro strips key attr found value member
    obtain ⟨own, values, listed, rfl, kept⟩ := exists_of_get?_release found
    exact presentable.stripped strips key own listed value (kept member)

namespace Resolver

variable {σ ρ : Type} {resolver : Resolver σ} {clock : σ → Instant × σ} {resolution : Resolution}

/-! ## Released attributes -/

/-- What is distilled from normalised attributes is presentable. -/
theorem presentable_of_distilled {stripNulls : Bool} {attributes : AttributeMap}
    (taken : ∀ key attr, attributes.get? key = some attr →
      ∃ own : Attribute, own.Normalised ∧ Distilled stripNulls own.values attr.values) :
    attributes.Presentable stripNulls := by
  constructor
  · intro key attr found value member
    obtain ⟨own, normalised, distilled⟩ := taken key attr found
    exact normalised value (distilled.sound value member)
  · intro strips key attr found value member
    obtain ⟨own, -, distilled⟩ := taken key attr found
    exact distilled.stripped strips value member

/-- What is found among recorded definitions is presentable if their attributes are normalised. -/
theorem presentable_definedAttributes (normalised : resolution.ShowsNormalised)
    (includeDependencyOnly : Bool) :
    (definedAttributes resolver includeDependencyOnly resolution).Presentable
      resolver.stripNulls := by
  refine presentable_of_distilled fun key attr found => ?_
  obtain ⟨own, ⟨id, record, recorded, has, -⟩, distilled⟩ := definedAttributes_distilled found
  exact ⟨own, normalised.definitions id record recorded own has, distilled⟩

/-- What is released is presentable if what is recorded is normalised. -/
theorem presentable_releasedAttributes (normalised : resolution.ShowsNormalised) :
    (releasedAttributes resolver resolution).Presentable resolver.stripNulls := by
  refine presentable_of_distilled fun key attr found => ?_
  cases (releasedAttributes_iff_prevails resolver resolution key _).mp found with
  | contributed contributes last =>
      obtain ⟨own, has, -, keeps⟩ := contributes.keeps
      refine ⟨own, normalised.definitions _ _ contributes.recorded own has, ?_⟩
      rw [displayDefined_values]
      exact keeps.values
  | offered undefined offers first =>
      obtain ⟨record, attributes, own, recorded, has, listed, keeps⟩ := offers.keeps
      refine ⟨own, normalised.connectors _ record recorded attributes has key own listed, ?_⟩
      rw [displayExported_values]
      exact keeps.values

/-! ## Caches -/

open Query

/-- All that the caches of a world keep is normalised. -/
def CachesNormalised (caches : List (CacheSlot σ)) (world : σ) : Prop :=
  ∀ slot ∈ caches, ∀ query attributes, (slot.read world).get? query = some attributes →
    attributes.Normalised

/-- What is in a cache after a change was in it before. It may have been forgotten meanwhile. -/
def GainNothing (caches : List (CacheSlot σ)) (before after : σ) : Prop :=
  ∀ slot ∈ caches, ∀ query attributes, (slot.read after).get? query = some attributes →
    (slot.read before).get? query = some attributes

/-- Nothing comes into a cache but what is written to it or to another, and reading the clock puts
nothing there. -/
structure CacheLaws (caches : List (CacheSlot σ)) (clock : σ → Instant × σ) : Prop where
  writes : ∀ slot ∈ caches, ∀ cache world, ∀ other ∈ caches, ∀ query attributes,
    (other.read (slot.write cache world)).get? query = some attributes →
      (other.read world).get? query = some attributes ∨ cache.get? query = some attributes
  reads : ∀ world, GainNothing caches world (clock world).2

variable {caches : List (CacheSlot σ)}

/-- New caches are empty. -/
theorem CachesNormalised.of_empty {world : σ} (empty : ∀ slot ∈ caches, slot.read world = {}) :
    CachesNormalised caches world := by
  intro slot listed query attributes found
  rw [empty slot listed] at found
  cases found

/-- Caches that have lost entries at most stay normalised. -/
theorem CachesNormalised.of_gainNothing {before after : σ}
    (normalised : CachesNormalised caches before) (gain : GainNothing caches before after) :
    CachesNormalised caches after :=
  fun slot listed query attributes found =>
    normalised slot listed query attributes (gain slot listed query attributes found)

/-- Writing normalised attributes to a cache leaves all caches normalised, also those that share a
place with it. -/
theorem CachesNormalised.write {world : σ} (normalised : CachesNormalised caches world)
    (laws : CacheLaws caches clock) {slot : CacheSlot σ} (listed : slot ∈ caches) {query : String}
    {attributes : AttributeMap} (own : attributes.Normalised) :
    CachesNormalised caches (slot.write ((slot.read world).insert query attributes) world) := by
  intro other listedOther asked found held
  rcases laws.writes slot listed _ world other listedOther asked found held with earlier | written
  · exact normalised other listedOther asked found earlier
  · exact KeyMap.holds_of_get?_insert own (normalised slot listed) asked found written

/-! ## Built-in plugins -/

/-- A connector answers with normalised attributes and keeps no others in caches, whatever it is
shown. -/
def Connector.FetchesNormalised (caches : List (CacheSlot σ)) (connector : Connector σ) : Prop :=
  ∀ seen world, CachesNormalised caches world →
    (∀ attributes, (connector.fetch seen world).1 = .ok (some attributes) → attributes.Normalised) ∧
      CachesNormalised caches (connector.fetch seen world).2

/-- A source leaves caches alone when it is asked. -/
def LeavesCaches (caches : List (CacheSlot σ)) (ask : String → σ → Except String ρ × σ) : Prop :=
  ∀ query world, GainNothing caches world (ask query world).2

/-- A connector with fixed attributes as it is configured, a connector that computes ids, or one
that queries a directory or a database. -/
inductive Connector.IsBuiltIn (caches : List (CacheSlot σ)) : Connector σ → Prop
  | fixed {config : ConnectorConfig} {attributes : List (String × List String)}
      {connector : Connector σ} (kind : config.kind = .fixed attributes)
      (built : config.build = .ok connector) : IsBuiltIn caches connector
  | computedId (connector : ComputedId) : IsBuiltIn caches connector.toConnector
  | directory {settings : ConnectorSettings} {filter : String} {renames : KeyMap String}
      {multiple : Bool} {cache : Option (CacheSlot σ)}
      {search : String → σ → Except String (List Entry) × σ} {connector : Connector σ}
      (listed : ∀ slot ∈ cache, slot ∈ caches) (leaves : LeavesCaches caches search)
      (built : directory? settings filter renames multiple cache search = .ok connector) :
      IsBuiltIn caches connector
  | relational {settings : ConnectorSettings} {query : String} {renames : List (String × String)}
      {cache : Option (CacheSlot σ)} {run : String → σ → Except String (List Row) × σ}
      {connector : Connector σ} (listed : ∀ slot ∈ cache, slot ∈ caches)
      (leaves : LeavesCaches caches run)
      (built : relational? settings query renames cache run = .ok connector) :
      IsBuiltIn caches connector

namespace Query.QueryConnector

variable {connector : QueryConnector σ ρ}

/-- A source that is asked answers with normalised attributes, and only these are cached. -/
theorem ask_normalised (laws : CacheLaws caches clock)
    (listed : ∀ slot ∈ connector.cache, slot ∈ caches)
    (leaves : LeavesCaches caches connector.source.ask)
    (interprets : ∀ reply attributes, connector.source.interpret reply = .ok (some attributes) →
      attributes.Normalised) (query : String) {world : σ}
    (normalised : CachesNormalised caches world) :
    (∀ attributes, (connector.ask query world).1 = .ok (some attributes) →
        attributes.Normalised) ∧ CachesNormalised caches (connector.ask query world).2 := by
  have told := normalised.of_gainNothing (leaves query world)
  rcases asked : connector.source.ask query world with ⟨reply, after⟩
  rw [asked] at told
  simp only [ask, asked]
  cases reply with
  | error cause => exact ⟨fun _ found => (nomatch found), told⟩
  | ok reply =>
      dsimp only
      split
      · rename_i attributes made
        have own := interprets reply attributes made
        constructor
        · rintro _ ⟨⟩
          exact own
        · unfold store
          split
          · rename_i slot kept
            exact told.write laws (listed slot kept) own
          · exact told
      · exact ⟨fun attributes made => interprets reply attributes made, told⟩

/-- What a connector that queries a source makes of replies is normalised, and so is what it keeps
in its cache. -/
theorem fetchesNormalised (laws : CacheLaws caches clock)
    (listed : ∀ slot ∈ connector.cache, slot ∈ caches)
    (leaves : LeavesCaches caches connector.source.ask)
    (interprets : ∀ reply attributes, connector.source.interpret reply = .ok (some attributes) →
      attributes.Normalised) : connector.toConnector.FetchesNormalised caches := by
  intro seen world normalised
  simp only [toConnector, fetch]
  split
  · exact ⟨fun _ found => (nomatch found), normalised⟩
  · rename_i query rendered
    split
    · rename_i kept found
      obtain ⟨slot, own, here⟩ := Option.bind_eq_some_iff.mp found
      refine ⟨?_, normalised⟩
      rintro _ ⟨⟩
      exact normalised slot (listed slot own) query kept here
    · exact ask_normalised laws listed leaves interprets query normalised

end Query.QueryConnector

/-- A built-in connector of any kind fetches normalised attributes, whatever its source replies and
whether or not a cache answers for it. -/
theorem Connector.IsBuiltIn.fetchesNormalised {connector : Connector σ}
    (builtIn : connector.IsBuiltIn caches) (laws : CacheLaws caches clock) :
    connector.FetchesNormalised caches := by
  cases builtIn with
  | fixed kind built =>
      obtain ⟨-, rfl⟩ := (ConnectorConfig.build_eq_ok_iff_of_fixed kind).mp built
      refine fun seen world normalised => ⟨?_, normalised⟩
      rintro _ ⟨⟩
      exact normalised_fixedAttributes _
  | computedId connector =>
      exact fun seen world normalised =>
        ⟨fun attributes => connector.normalised_fetch, normalised⟩
  | directory listed leaves built =>
      obtain ⟨template, -, built⟩ := exists_of_bind_eq_ok built
      cases built
      exact QueryConnector.fetchesNormalised laws listed leaves fun _ _ =>
        normalised_interpretEntries
  | relational listed leaves built =>
      obtain ⟨template, -, built⟩ := exists_of_bind_eq_ok built
      cases built
      exact QueryConnector.fetchesNormalised laws listed leaves fun _ _ => normalised_interpretRows

/-- All plugins are built in, and the caches of connectors are among given ones. -/
structure IsBuiltIn (resolver : Resolver σ) (caches : List (CacheSlot σ)) : Prop where
  definitions : ∀ id definition, resolver.definitions.get? id = some definition →
    ∃ (kind : DefinitionKind) (settings : DefinitionSettings),
      definition = kind.toDefinition settings
  connectors : ∀ id connector, resolver.connectors.get? id = some connector →
    connector.IsBuiltIn caches

/-- A configured definition is of one of the kinds. -/
theorem DefinitionConfig.isKind_of_build {config : DefinitionConfig} {definition : Definition σ}
    (built : config.build = .ok definition) :
    ∃ (kind : DefinitionKind) (settings : DefinitionSettings),
      definition = kind.toDefinition settings := by
  obtain ⟨kind, -, built⟩ := exists_of_bind_eq_ok built
  cases built
  exact ⟨kind, config.settings, rfl⟩

/-- A configured connector is of one of the kinds that need no source. -/
theorem ConnectorConfig.isBuiltIn_of_build {config : ConnectorConfig} {connector : Connector σ}
    (built : config.build = .ok connector) : connector.IsBuiltIn caches := by
  cases kind : config.kind with
  | fixed attributes => exact .fixed kind built
  | computedId sourceId salt generatedId =>
      rw [build, kind] at built
      obtain ⟨own, -, built⟩ := exists_of_bind_eq_ok built
      cases built
      exact .computedId own

/-- The plugins of a configured resolver are built in. -/
theorem isBuiltIn_of_build {config : ResolverConfig} (built : config.build = .ok resolver) :
    IsBuiltIn resolver caches := by
  obtain ⟨definitions, connectors⟩ := ResolverConfig.exists_of_build built
  constructor
  · intro id definition found
    obtain ⟨entry, -, prepared⟩ := definitions id definition found
    exact entry.isKind_of_build prepared
  · intro id connector found
    obtain ⟨entry, -, prepared⟩ := connectors id connector found
    exact entry.isBuiltIn_of_build prepared

/-! ## Requests -/

/-- All values of a request are normalised: those that plugins are shown, and those of attributes
kept for other plugins or released, which have no placeholders if these are stripped. -/
structure Resolution.Normalised (resolver : Resolver σ) (resolution : Resolution) : Prop
    extends resolution.ShowsNormalised where
  preResolved : resolution.preResolved.Presentable resolver.stripNulls
  released : resolution.released.Presentable resolver.stripNulls

/-- How far a walk has come, with normalised values only in the request, in the states of it that
plugins were shown, and in caches. -/
structure Progress.Normalised (resolver : Resolver σ) (caches : List (CacheSlot σ))
    (progress : Progress σ) : Prop where
  world : CachesNormalised caches progress.world
  resolution : progress.resolution.Normalised resolver
  shown : ∀ ran ∈ invocations progress.journal, ran.2.Normalised resolver

/-- Recording a connector with normalised attributes keeps all normalised. -/
theorem Progress.Normalised.recordConnector {progress : Progress σ}
    (normalised : progress.Normalised resolver caches) {record : ConnectorRecord}
    (own : ∀ attributes, record.attributes = some attributes → attributes.Normalised) :
    (progress.recordConnector record).Normalised resolver caches where
  world := normalised.world
  resolution := { normalised.resolution with
    connectors := KeyMap.holds_of_get?_insert own normalised.resolution.connectors }
  shown := normalised.shown

/-- A connector that is run leaves behind normalised values, and has a normalised result if it has
one. -/
theorem fetchConnector_normalised {id : String} {connector : Connector σ}
    {progress ran : Progress σ} {answer : Except ResolutionError (Option AttributeMap)}
    (laws : CacheLaws caches clock) (fetches : connector.FetchesNormalised caches)
    (fetched : fetchConnector clock id connector progress = (answer, ran))
    (normalised : progress.Normalised resolver caches) :
    ran.Normalised resolver caches ∧
      ∀ attributes, answer = .ok (some attributes) → attributes.Normalised := by
  obtain ⟨answers, told⟩ := fetches progress.resolution progress.world normalised.world
  have facts := fetched_of_fetchConnector fetched
  constructor
  · refine ⟨?_, facts.resolution ▸ normalised.resolution, ?_⟩
    · have world := fetchConnector_world clock id connector progress
      rw [fetched] at world
      rcases world with same | read
      · exact same ▸ told
      · exact read ▸ told.of_gainNothing (laws.reads _)
    · rw [facts.invocations]
      exact List.forall_mem_append.mpr
        ⟨normalised.shown, List.forall_mem_singleton.mpr normalised.resolution⟩
  · rintro attributes rfl
    exact answers attributes (answers_of_fetchConnector fetched)

/-- Each step of a walk keeps values normalised: definitions compute, connectors fetch and failovers
hand over normalised attributes. -/
theorem normalised_invariant (laws : CacheLaws caches clock) (builtIn : IsBuiltIn resolver caches) :
    Invariant resolver clock (Progress.Normalised resolver caches) where
  reads := fun normalised =>
    ⟨normalised.world.of_gainNothing (laws.reads _), normalised.resolution, normalised.shown⟩
  passes := fun id normalised =>
    ⟨normalised.world, normalised.resolution, by
      rw [invocations_passedOver]
      exact normalised.shown⟩
  defines := fun {id definition} found {progress} normalised => by
    obtain ⟨kind, settings, rfl⟩ := builtIn.definitions id definition found
    refine ⟨?_, ?_, ?_⟩
    · rw [runDefinition_world]
      exact normalised.world
    · rw [runDefinition_resolution]
      refine { normalised.resolution with
        definitions := KeyMap.holds_of_get?_insert ?_ normalised.resolution.definitions }
      intro attr has
      have shows := normalised.resolution.toShowsNormalised
      simp only [DefinitionKind.toDefinition, Action.pure] at has
      cases outcome : kind.compute settings progress.resolution with
      | error error => simp [outcome, Except.toOption] at has
      | ok own =>
          simp only [outcome, Except.toOption] at has
          exact kind.normalised_compute shows (outcome.trans (congrArg _ has))
    · rw [runDefinition_invocations]
      exact List.forall_mem_append.mpr
        ⟨normalised.shown, List.forall_mem_singleton.mpr normalised.resolution⟩
  answers := fun {id connector} found {progress ran attributes} fetched normalised => by
    have fetches := (builtIn.connectors id connector found).fetchesNormalised laws
    obtain ⟨kept, own⟩ := fetchConnector_normalised laws fetches fetched normalised
    exact kept.recordConnector fun other same => own other (congrArg _ same)
  fails := fun {id connector} found {progress ran error} fetched normalised => by
    have fetches := (builtIn.connectors id connector found).fetchesNormalised laws
    exact (fetchConnector_normalised laws fetches fetched normalised).1
  substitutes := fun {progress} id next normalised => by
    refine normalised.recordConnector ?_
    unfold substituteRecord
    split
    · rename_i resolved found
      exact normalised.resolution.connectors next resolved found
    · exact nofun
  absorbs := fun id normalised => normalised.recordConnector nofun

/-- However a call ends, it leaves normalised values behind. -/
theorem resolve_normalised (laws : CacheLaws caches clock) (builtIn : IsBuiltIn resolver caches)
    {start : Progress σ} (normalised : start.Normalised resolver caches) :
    (resolve resolver clock start).2.Normalised resolver caches := by
  refine (normalised_invariant laws builtIn).resolves (fun {progress} kept => ?_)
    (fun {progress} kept => ?_) normalised
  · have shows := kept.resolution.toShowsNormalised
    exact ⟨kept.world, { kept.resolution with
      preResolved := presentable_definedAttributes shows true }, kept.shown⟩
  · have shows := kept.resolution.toShowsNormalised
    exact ⟨kept.world, { kept.resolution with
      released := presentable_releasedAttributes shows }, kept.shown⟩

/-- What is supplied to a request is normalised: the attributes that come with it, and what caches
keep when it is resolved. -/
def Use.SuppliesNormalised (caches : List (CacheSlot σ)) : Use σ → Prop
  | .ask _ inbound => inbound.Normalised
  | .resolve world _ => CachesNormalised caches world
  | .takeReleased => True

/-- One use of a request leaves values normalised, in the request and in all states that plugins
were shown. -/
theorem Use.perform_normalised (laws : CacheLaws caches clock)
    (builtIn : IsBuiltIn resolver caches) {use : Use σ} (supplies : use.SuppliesNormalised caches)
    (normalised : resolution.Normalised resolver) :
    (∀ ran ∈ (use.perform resolver clock resolution).1, ran.2.Normalised resolver) ∧
      (use.perform resolver clock resolution).2.Normalised resolver := by
  cases use with
  | ask requestedIds inbound =>
      exact ⟨fun _ member => (nomatch member), { normalised with inbound := supplies }⟩
  | takeReleased =>
      exact ⟨fun _ member => (nomatch member),
        { normalised with released := AttributeMap.presentable_empty _ }⟩
  | resolve world failures =>
      have start : Progress.Normalised resolver caches { world, failures, resolution } :=
        ⟨supplies, normalised, fun _ member => nomatch member⟩
      have kept := resolve_normalised laws builtIn start
      exact ⟨kept.shown, kept.resolution⟩

/-- All states that plugins are shown in any sequence of uses have normalised values only. -/
theorem statesOf_normalised (laws : CacheLaws caches clock) (builtIn : IsBuiltIn resolver caches)
    {uses : List (Use σ)} (supplied : ∀ use ∈ uses, use.SuppliesNormalised caches)
    (normalised : resolution.Normalised resolver) :
    ∀ state ∈ statesOf resolver clock resolution uses, state.Normalised resolver := by
  induction uses generalizing resolution with
  | nil => exact List.forall_mem_singleton.mpr normalised
  | cons use rest ih =>
      obtain ⟨supplies, later⟩ := List.forall_mem_cons.mp supplied
      obtain ⟨shown, after⟩ := use.perform_normalised laws builtIn supplies normalised
      refine List.forall_mem_cons.mpr ⟨normalised, List.forall_mem_append.mpr ⟨?_, ih later after⟩⟩
      exact List.forall_mem_map.mpr shown

/-- Let all plugins of a resolver be built in. However a request is used, as long as the attributes
that come with it are normalised and caches keep only such, as new ones do, all its values are
normalised in each state that it is in: those recorded, those kept for other plugins, and those
released, and none of the latter two is a placeholder if these are stripped. Calls leave caches so,
filters leave attributes so, and what a known codec reads from the wire is so from the start. -/
theorem values_normalised (laws : CacheLaws caches clock) (builtIn : IsBuiltIn resolver caches)
    (request : Request) {uses : List (Use σ)}
    (supplied : ∀ use ∈ uses, use.SuppliesNormalised caches) :
    (∀ state ∈ statesOf resolver clock { request } uses, state.Normalised resolver ∧
        ∀ world failures, CachesNormalised caches world → CachesNormalised caches
          (resolve resolver clock { world, failures, resolution := state }).2.world) ∧
      (∀ (stripNulls : Bool) (attributes : AttributeMap), attributes.Presentable stripNulls →
        ∀ context policies,
          (Filter.release context policies attributes).Presentable stripNulls) ∧
      (∀ codec : Transcoding.Codec, codec.IsKnown → codec.ReadsNormalised) ∧
      ∀ plan : Transcoding.RegistryPlan,
        (∀ posting ∈ plan.postings, posting.installed.codec.IsKnown) →
          ∀ request wire, ∀ attr ∈ plan.build.decode request wire, attr.Normalised := by
  have new : ({ request } : Resolution).Normalised resolver := {
    inbound := AttributeMap.normalised_empty
    definitions := fun _ _ found => nomatch found
    connectors := fun _ _ found => nomatch found
    preResolved := AttributeMap.presentable_empty _
    released := AttributeMap.presentable_empty _ }
  refine ⟨fun state member => ?_, fun _ _ => Filter.presentable_release,
    fun codec known => known.readsNormalised,
    fun plan known request wire attr => Transcoding.normalised_of_mem_decode known⟩
  have normalised := statesOf_normalised laws builtIn supplied new state member
  refine ⟨normalised, fun world failures clean => ?_⟩
  have start : Progress.Normalised resolver caches { world, failures, resolution := state } :=
    ⟨clean, normalised, fun _ shown => nomatch shown⟩
  exact (resolve_normalised laws builtIn start).world

/-- The mail addresses that a library has of a reader, one of them blank. -/
def readerEntry : Entry := .ofList [("mail", ["", "ada@library"])]

/-- The world of a library is one cache. -/
def libraryCache : CacheSlot ResultCache where
  read world := world
  write cache _ := cache

def librarySearch (_ : String) (world : ResultCache) : Except String (List Entry) × ResultCache :=
  (.ok [readerEntry], world)

def libraryDirectory : Connector ResultCache :=
  QueryConnector.toConnector {
    settings := { id := "readers" }
    template := ⟨[.literal "(uid=", .party .principal, .literal ")"]⟩
    escape := escapeLdap
    source := ⟨librarySearch, interpretEntries "readers" ∅ false⟩
    cache := some libraryCache
    failure := "directory search failed" }

def libraryConnectors : Keyed fun connector : Connector ResultCache => connector.settings.id :=
  Keyed.add .empty libraryDirectory

/-- Mail addresses are merged, and a language comes with the request. -/
def libraryDefinitions : Keyed fun definition : Definition ResultCache => definition.settings.id :=
  (Keyed.add .empty (DefinitionKind.simple.toDefinition
    { id := "mail", dependencies := { connectors := [⟨"readers", []⟩] } })).add
    ((DefinitionKind.contextDerived none).toDefinition { id := "language" })

/-- A resolver of a library. -/
def library : Resolver ResultCache where
  id := "library"
  definitions := libraryDefinitions.1
  connectors := libraryConnectors.1
  stripNulls := false
  suppressDisplay := false
  definitions_keyed := libraryDefinitions.2
  connectors_keyed := libraryConnectors.2
  accepted := by decide +kernel

def libraryClock (world : ResultCache) : Instant × ResultCache := (0, world)

/-- Only what is written to the cache of the example comes into it, and reading the clock changes
nothing. -/
theorem library_cacheLaws : CacheLaws [libraryCache] libraryClock where
  writes := by
    rintro slot listed cache world other listedOther query attributes found
    cases List.mem_singleton.mp listed
    cases List.mem_singleton.mp listedOther
    exact .inr found
  reads := fun _ _ _ _ _ found => found

theorem library_isBuiltIn : IsBuiltIn library [libraryCache] where
  definitions := by
    intro id definition found
    have listed := (KeyMap.mem_entries_iff _ _ _).mpr found
    have entries : library.definitions.entries = [("language", _), ("mail", _)] := rfl
    rw [entries, List.mem_cons, List.mem_singleton] at listed
    rcases listed with same | same
    · cases same
      exact ⟨.contextDerived none, _, rfl⟩
    · cases same
      exact ⟨.simple, _, rfl⟩
  connectors := by
    intro id connector found
    have listed := (KeyMap.mem_entries_iff _ _ _).mpr found
    have entries : library.connectors.entries = [("readers", libraryDirectory)] := rfl
    rw [entries, List.mem_singleton] at listed
    cases listed
    have built : directory? { id := "readers" } "(uid={principal})" ∅ false (some libraryCache)
        librarySearch = .ok libraryDirectory := by
      rfl
    refine .directory (fun slot same => ?_) (fun _ _ _ _ _ _ found => found) built
    cases same
    exact List.mem_singleton_self _

/-- A reader speaks German and is resolved with an empty cache. -/
def libraryUses : List (Use ResultCache) :=
  [.ask [] (KeyMap.insert ∅ "language" ⟨"language", [.ofText "de"], ∅, ∅⟩),
    .resolve {} (.new ["readers"])]

/-- The blank address of the reader is released as the placeholder that it is. -/
theorem values_normalised_library :
    (stateAfter library libraryClock { request := { principal := some "ada" } }
        libraryUses).Normalised library ∧
      (stateAfter library libraryClock { request := { principal := some "ada" } }
        libraryUses).released.get? "mail" =
          some ⟨"mail", [.empty .zeroLength, .text "ada@library"], ∅, ∅⟩ := by
  have supplied : ∀ use ∈ libraryUses, use.SuppliesNormalised [libraryCache] := by
    refine List.forall_mem_cons.mpr ⟨?_, List.forall_mem_singleton.mpr ?_⟩
    · exact AttributeMap.normalised_empty.insert (Value.normalised_texts ["de"])
    · refine CachesNormalised.of_empty fun slot listed => ?_
      cases List.mem_singleton.mp listed
      rfl
  have states := (values_normalised library_cacheLaws library_isBuiltIn
    { principal := some "ada" } supplied).1
  exact ⟨(states _ (stateAfter_mem_statesOf libraryUses _)).1, by decide +kernel⟩

end Resolver

end AttributeRelease
