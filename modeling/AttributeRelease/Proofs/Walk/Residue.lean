import AttributeRelease.Proofs.Walk.Failures
import AttributeRelease.Proofs.Walk.Provenance

/-!
# What a failed request leaves behind

A request that fails leaves the records that it wrote before. They are complete as far as they go: a
definition is recorded after its dependencies, and so is what was taken from a failover
(`Residue`). Of the plugins that were being resolved when it failed none has a record, so that they
are tried again when the request is resolved once more (`failed_request_leaves_residue`).
-/

namespace AttributeRelease.Resolver

variable {σ : Type} {resolver : Resolver σ} {clock : σ → Instant × σ} {start : Progress σ}

/-! ## Records have a history -/

/-- Something happened with a plugin. -/
def Tried (journal : List Event) (ref : PluginRef) : Prop := ∃ event ∈ journal, event.plugin = ref

theorem Tried.later {journal longer : List Event} {ref : PluginRef} (tried : Tried journal ref)
    (grows : journal <+: longer) : Tried longer ref := by
  obtain ⟨event, member, about⟩ := tried
  exact ⟨event, grows.subset member, about⟩

/-- What is written down when a plugin was run says at least that it was. -/
theorem Event.Tells.tried {plugin : PluginRef} {seen : Resolution} {events : List Event}
    (tells : Event.Tells plugin seen events) (earlier : List Event) :
    Tried (earlier ++ events) plugin := by
  refine ⟨.ran plugin seen, List.mem_append_right _ ?_, rfl⟩
  rcases tells with rfl | ⟨error, rfl⟩
  · exact List.mem_singleton_self _
  · exact List.mem_cons_self

/-- What is recorded beyond an initial state was tried, and the definitions among it have records of
their dependencies beside them. -/
structure Accounted (resolver : Resolver σ) (initial : Resolution) (progress : Progress σ) :
    Prop where
  tried : ∀ ref, progress.resolution.isRecorded ref = true →
    initial.isRecorded ref = true ∨ Tried progress.journal ref
  backed : ∀ id, progress.resolution.isRecorded (.definition id) = true →
    initial.isRecorded (.definition id) = true ∨
      ∀ next, resolver.graph.Declares (.definition id) next →
        progress.resolution.isRecorded next = true

variable {initial : Resolution} {progress other : Progress σ}

/-- Only the records and the journal matter, and that may be longer. -/
theorem Accounted.congr (accounted : Accounted resolver initial progress)
    (same : ∀ ref, other.resolution.isRecorded ref = progress.resolution.isRecorded ref)
    (grows : progress.journal <+: other.journal) : Accounted resolver initial other where
  tried := fun ref recorded => by
    rw [same] at recorded
    exact (accounted.tried ref recorded).imp_right fun tried => tried.later grows
  backed := fun id recorded => by
    rw [same] at recorded
    refine (accounted.backed id recorded).imp_right fun backed next declared => ?_
    rw [same]
    exact backed next declared

/-- A plugin that was tried may be recorded, a definition once its dependencies are. -/
theorem Accounted.record (accounted : Accounted resolver initial progress) (ref : PluginRef)
    (same : ∀ next, other.resolution.isRecorded next =
      (decide (next = ref) || progress.resolution.isRecorded next))
    (grows : progress.journal <+: other.journal) (tried : Tried other.journal ref)
    (backed : ∀ id, ref = .definition id → ∀ next, resolver.graph.Declares ref next →
      progress.resolution.isRecorded next = true) : Accounted resolver initial other where
  tried := fun next recorded => by
    rw [same] at recorded
    rcases Bool.or_eq_true_iff.mp recorded with own | earlier
    · cases of_decide_eq_true own
      exact .inr tried
    · exact (accounted.tried next earlier).imp_right fun tried => tried.later grows
  backed := fun id recorded => by
    have kept : ∀ next, progress.resolution.isRecorded next = true →
        other.resolution.isRecorded next = true := fun next recorded => by
      rw [same, recorded, Bool.or_true]
    rw [same] at recorded
    rcases Bool.or_eq_true_iff.mp recorded with own | earlier
    · have named := of_decide_eq_true own
      refine .inr fun next declared => kept next (backed id named.symm next ?_)
      rw [← named]
      exact declared
    · refine (accounted.backed id earlier).imp_right fun backed next declared => ?_
      exact kept next (backed next declared)

/-- A connector may be recorded once it was tried; nothing is asked of its dependencies. -/
theorem Accounted.recordConnector (accounted : Accounted resolver initial progress) (id : String)
    (same : ∀ next, other.resolution.isRecorded next =
      (decide (next = .connector id) || progress.resolution.isRecorded next))
    (grows : progress.journal <+: other.journal) (tried : Tried other.journal (.connector id)) :
    Accounted resolver initial other := by
  apply accounted.record (.connector id) same grows tried
  intro _ impossible
  cases impossible

/-- On a walk plugins are recorded after they were tried, definitions after their dependencies. A
connector that is to be replaced was tried before. -/
theorem Runs.accounted {inside : List PluginRef} {errand : Errand} {before after : Progress σ}
    {outcome : Except Halt Unit} (runs : Runs resolver clock inside errand before outcome after)
    (owed : ∀ ref ∈ errand.owed, Tried before.journal ref)
    (accounted : Accounted resolver initial before) : Accounted resolver initial after := by
  have grows {inside : List PluginRef} {errand : Errand} {before after : Progress σ}
      {outcome : Except Halt Unit} (runs : Runs resolver clock inside errand before outcome after) :
      before.journal <+: after.journal := (journal_stepLaw resolver clock).runs runs
  induction runs with
  | idle | stuck | propagated | done => exact accounted
  | @definition _ id definition _ middle found _ _ dependencies ih =>
      obtain ⟨events, tells, journal⟩ := runDefinition_journal id definition middle
      have recorded := dependencies.dependencies_recorded fun _ => declares_definition_iff found
      have visited := ih (List.forall_mem_nil _) accounted
      refine visited.record (.definition id) (fun next => ?_) ?_ ?_ ?_
      · rw [runDefinition_resolution, Resolution.isRecorded_recordDefinition]
      · exact ⟨events, journal.symm⟩
      · rw [journal]
        exact tells.tried _
      · intro _ _ next declared
        exact recorded next ((declares_definition_iff found).mp declared)
  | definitionHalted _ _ _ _ ih => exact ih (List.forall_mem_nil _) accounted
  | @passedOver _ id _ _ _ _ _ _ _ _ _ clockRead _ _ ih =>
      obtain ⟨-, rfl⟩ := readClock_eq clockRead
      refine ih (List.forall_mem_singleton.mpr ⟨.passedOver id, by simp [Progress.note], rfl⟩) ?_
      exact accounted.congr (fun _ => rfl) (List.prefix_append _ _)
  | connectorHalted _ _ _ clockRead _ _ ih =>
      obtain ⟨-, rfl⟩ := readClock_eq clockRead
      exact ih (List.forall_mem_nil _) (accounted.congr (fun _ => rfl) List.prefix_rfl)
  | @fetched _ id connector _ _ middle _ _ _ _ _ _ clockRead _ _ answered ih =>
      obtain ⟨-, rfl⟩ := readClock_eq clockRead
      have visited := ih (List.forall_mem_nil _) (accounted.congr (fun _ => rfl) List.prefix_rfl)
      obtain ⟨events, tells, journal⟩ := fetchConnector_journal clock id connector middle
      rw [answered] at journal
      refine visited.recordConnector id (fun next => ?_) ⟨events, journal.symm⟩ ?_
      · rw [Progress.recordConnector, Resolution.isRecorded_recordConnector,
          (fetched_of_fetchConnector answered).resolution]
      · exact journal ▸ tells.tried _
  | @fetchFailed _ id connector _ _ middle _ _ _ _ _ _ _ _ clockRead _ _ failed _ ihDependencies
      ihReplaced =>
      obtain ⟨-, rfl⟩ := readClock_eq clockRead
      have visited := ihDependencies (List.forall_mem_nil _)
        (accounted.congr (fun _ => rfl) List.prefix_rfl)
      obtain ⟨events, tells, journal⟩ := fetchConnector_journal clock id connector middle
      rw [failed] at journal
      refine ihReplaced (List.forall_mem_singleton.mpr ?_) (visited.congr (fun ref => ?_) ?_)
      · exact journal ▸ tells.tried _
      · rw [(fetched_of_fetchConnector failed).resolution]
      · exact ⟨events, journal.symm⟩
  | @failedOver _ id next _ _ _ _ _ resolved ih =>
      have tried := (owed _ (List.mem_singleton_self _)).later (grows resolved)
      have visited := ih (List.forall_mem_nil _) accounted
      refine visited.recordConnector id (fun ref => ?_) List.prefix_rfl tried
      rw [Progress.recordConnector, Resolution.isRecorded_recordConnector,
        substituteRecord_connectorId]
  | failoverHalted _ _ ih => exact ih (List.forall_mem_nil _) accounted
  | @absorbed _ id =>
      have tried := owed _ (List.mem_singleton_self _)
      refine accounted.recordConnector id (fun ref => ?_) List.prefix_rfl tried
      rw [Progress.recordConnector, Resolution.isRecorded_recordConnector]
      rfl
  | next _ _ ihFirst ihOthers =>
      have visited := ihFirst (List.forall_mem_nil _) accounted
      exact ihOthers (List.forall_mem_nil _) visited
  | halted _ ih => exact ih (List.forall_mem_nil _) accounted

/-- Every part of a request keeps accounting for its records. -/
theorem accounted_walkLaw (resolver : Resolver σ) (clock : σ → Instant × σ)
    (initial : Resolution) :
    WalkLaw resolver clock fun before after =>
      Accounted resolver initial before → Accounted resolver initial after where
  refl := fun _ accounted => accounted
  trans := fun first second accounted => second (first accounted)
  visits := fun runs accounted => runs.accounted nofun accounted
  reads := fun _ accounted => accounted.congr (fun _ => rfl) List.prefix_rfl
  passes := fun _ _ accounted => accounted.congr (fun _ => rfl) (List.prefix_append _ _)
  fetches := fun {id connector} _ progress accounted => by
    obtain ⟨events, -, journal⟩ := fetchConnector_journal clock id connector progress
    refine accounted.congr (fun ref => ?_) ⟨events, journal.symm⟩
    rw [fetchConnector_resolution]
  keeps := fun _ accounted =>
    accounted.congr (fun ref => by cases ref <;> rfl) List.prefix_rfl

theorem accounted_refl (resolver : Resolver σ) (progress : Progress σ) :
    Accounted resolver progress.resolution progress where
  tried := fun _ recorded => .inl recorded
  backed := fun _ recorded => .inl recorded

/-- So it is at the end of a call, whether that succeeds or fails. -/
theorem resolve_accounted (resolver : Resolver σ) (clock : σ → Instant × σ)
    (start : Progress σ) :
    Accounted resolver start.resolution (resolve resolver clock start).2 := by
  have parts := accounted_walkLaw resolver clock start.resolution
  have call : (resolve resolver clock).Obeys fun before _ after =>
      Accounted resolver start.resolution before → Accounted resolver start.resolution after := by
    apply resolve_obeys_releasing parts.trans parts.visitAll parts.keeps
    intro progress accounted
    refine accounted.congr (fun ref => ?_) List.prefix_rfl
    cases ref <;> rfl
  exact call start (accounted_refl resolver start)

/-! ## What was being resolved -/

/-- What a request visits something inside of has no record yet. -/
theorem Visits.inside_unrecorded {inside : List PluginRef} {ref : PluginRef} {before : Progress σ}
    (visits : Visits resolver clock start inside ref before) :
    ∀ outer ∈ inside, before.resolution.isRecorded outer = false := by
  have still {inside refs : List PluginRef} {first last : Progress σ}
      (done : Runs resolver clock inside (.visitAll refs) first (.ok ()) last)
      (before : ∀ outer ∈ inside, first.resolution.isRecorded outer = false) :
      ∀ outer ∈ inside, last.resolution.isRecorded outer = false := fun outer member =>
    (done.grows nofun).untouched outer member List.not_mem_nil (before outer member)
  induction visits with
  | ofStage => exact nofun
  | ofDefinition _ _ fresh _ done ih => exact still done (List.forall_mem_cons.mpr ⟨fresh, ih⟩)
  | ofConnector _ _ fresh clockRead _ _ done ih =>
      obtain ⟨-, rfl⟩ := readClock_eq clockRead
      exact still done (List.forall_mem_cons.mpr ⟨fresh, ih⟩)
  | failover _ _ fresh unusable _ ih =>
      intro outer member
      refine unusable.unrecorded member ?_
      rcases List.mem_cons.mp member with rfl | further
      · exact fresh
      · exact ih outer further

/-- A request only visits something inside of plugins that the resolver knows. -/
theorem Visits.inside_known {inside : List PluginRef} {ref : PluginRef} {before : Progress σ}
    (visits : Visits resolver clock start inside ref before) :
    ∀ outer ∈ inside, hasPlugin resolver outer = true := by
  induction visits with
  | ofStage => exact nofun
  | ofDefinition _ found _ _ _ ih =>
      exact List.forall_mem_cons.mpr ⟨hasPlugin_definition found, ih⟩
  | ofConnector _ found _ _ _ _ _ ih | failover _ found _ _ _ ih =>
      exact List.forall_mem_cons.mpr ⟨hasPlugin_connector found, ih⟩

/-! ## What a request begins with -/

/-- A definition is marked to come before all else. -/
inductive IsPreRequested (resolver : Resolver σ) : PluginRef → Prop
  | intro {id : String} {definition : Definition σ}
      (found : resolver.definitions.get? id = some definition)
      (marked : definition.settings.preRequested = true) :
      IsPreRequested resolver (.definition id)

/-- A connector may have some of its attributes released without a definition. -/
inductive IsExporting (resolver : Resolver σ) : PluginRef → Prop
  | intro {id key : String} {connector : Connector σ}
      (found : resolver.connectors.get? id = some connector)
      (permits : connector.settings.exported.Permits key) : IsExporting resolver (.connector id)

/-- A definition is asked for by its id, or since nothing else is asked for. -/
inductive IsRequested (resolver : Resolver σ) (requestedIds : List String) : PluginRef → Prop
  | intro {id : String} {definition : Definition σ}
      (found : resolver.definitions.get? id = some definition)
      (asked : requestedIds = [] ∨ id ∈ requestedIds) :
      IsRequested resolver requestedIds (.definition id)

/-- The plugins that a request visits from outside, as long as none fails. -/
inductive IsRoot (resolver : Resolver σ) (requestedIds : List String) (ref : PluginRef) : Prop
  | preRequested (first : IsPreRequested resolver ref)
  | exporting (exports : IsExporting resolver ref)
  | requested (asked : IsRequested resolver requestedIds ref)

/-- Where items stand under their ids, the ids of some of them are the keys that these stand under. -/
theorem mem_ids_iff {α : Type} {items : KeyMap α} {idOf : α → String}
    (keyed : ∀ key item, items.get? key = some item → idOf item = key) {keeps : α → Bool}
    {id : String} :
    id ∈ (items.values.filter keeps).map idOf ↔
      ∃ item, items.get? id = some item ∧ keeps item = true := by
  simp only [List.mem_map, List.mem_filter, KeyMap.values]
  constructor
  · rintro ⟨_, ⟨⟨⟨key, item⟩, entry, rfl⟩, kept⟩, rfl⟩
    have found := (KeyMap.mem_entries_iff _ key item).mp entry
    exact ⟨item, (keyed key item found).symm ▸ found, kept⟩
  · rintro ⟨item, found, kept⟩
    have entry := (KeyMap.mem_entries_iff _ id item).mpr found
    exact ⟨item, ⟨⟨(id, item), entry, rfl⟩, kept⟩, keyed id item found⟩

/-- The code lists the definitions that come first under their own ids. -/
theorem mem_preRequested_iff {ref : PluginRef} :
    ref ∈ (preRequestedIds resolver).map .definition ↔ IsPreRequested resolver ref := by
  simp only [List.mem_map, preRequestedIds, mem_ids_iff resolver.definitions_keyed]
  constructor
  · rintro ⟨id, ⟨definition, found, marked⟩, rfl⟩
    exact .intro found marked
  · rintro ⟨found, marked⟩
    exact ⟨_, ⟨_, found, marked⟩, rfl⟩

/-- The code lists the connectors that export under their own ids. -/
theorem mem_exporting_iff {ref : PluginRef} :
    ref ∈ (exportingIds resolver).map .connector ↔ IsExporting resolver ref := by
  simp only [List.mem_map, exportingIds, mem_ids_iff resolver.connectors_keyed,
    ExportPolicy.isExporting_iff]
  constructor
  · rintro ⟨id, ⟨connector, found, key, permits⟩, rfl⟩
    exact .intro found permits
  · rintro ⟨found, permits⟩
    exact ⟨_, ⟨_, found, _, permits⟩, rfl⟩

/-- Unknown definitions may be asked for, but are not visited. -/
theorem mem_requested_iff {resolution : Resolution} {ref : PluginRef} :
    ref ∈ (requestedIds resolver resolution).map .definition ∧ hasPlugin resolver ref = true ↔
      IsRequested resolver resolution.requestedIds ref := by
  constructor
  · rintro ⟨listed, known⟩
    obtain ⟨id, member, rfl⟩ := List.mem_map.mp listed
    obtain ⟨definition, found⟩ := (resolver.definitions.contains_iff id).mp known
    refine .intro found ?_
    unfold requestedIds at member
    split at member
    · rename_i nothing
      exact .inl (List.isEmpty_iff.mp nothing)
    · exact .inr member
  · rintro ⟨found, asked⟩
    have known := hasPlugin_definition found
    refine ⟨List.mem_map_of_mem ?_, known⟩
    unfold requestedIds
    split
    · exact (resolver.definitions.mem_keys_iff _).mpr known
    · rename_i something
      exact asked.resolve_left (mt List.isEmpty_iff.mpr something)

theorem IsPreRequested.known {ref : PluginRef} (first : IsPreRequested resolver ref) :
    hasPlugin resolver ref = true := by
  cases first with
  | intro found marked => exact hasPlugin_definition found

theorem IsExporting.known {ref : PluginRef} (exports : IsExporting resolver ref) :
    hasPlugin resolver ref = true := by
  cases exports with
  | intro found permits => exact hasPlugin_connector found

/-- A failed request has not changed what was asked of it, and has released nothing. -/
structure Resolution.Unreleased (before after : Resolution) : Prop where
  request : after.request = before.request
  requestedIds : after.requestedIds = before.requestedIds
  inbound : after.inbound = before.inbound
  released : after.released = before.released

theorem unreleased_walkLaw (resolver : Resolver σ) (clock : σ → Instant × σ) :
    WalkLaw resolver clock fun before after =>
      before.resolution.Unreleased after.resolution where
  refl := fun _ => ⟨rfl, rfl, rfl, rfl⟩
  trans := fun first second =>
    ⟨second.request.trans first.request, second.requestedIds.trans first.requestedIds,
      second.inbound.trans first.inbound, second.released.trans first.released⟩
  visits := fun runs => by
    have same := runs.same_but_records
    exact ⟨same.request, same.requestedIds, same.inbound, same.released⟩
  reads := fun _ => ⟨rfl, rfl, rfl, rfl⟩
  passes := fun _ _ => ⟨rfl, rfl, rfl, rfl⟩
  fetches := fun _ progress => by
    rw [fetchConnector_resolution]
    exact ⟨rfl, rfl, rfl, rfl⟩
  keeps := fun _ => ⟨rfl, rfl, rfl, rfl⟩

/-- The plugins of a stage are among those that the request begins with. -/
theorem Stage.isRoot {refs : List PluginRef} {first : Progress σ}
    (stage : Stage resolver clock start refs first) {ref : PluginRef} (listed : ref ∈ refs)
    (known : hasPlugin resolver ref = true) :
    IsRoot resolver start.resolution.requestedIds ref := by
  have same := ((unreleased_walkLaw resolver clock).stage stage).requestedIds
  cases stage with
  | preRequested => exact .preRequested (mem_preRequested_iff.mp listed)
  | exporting => exact .exporting (mem_exporting_iff.mp listed)
  | requested =>
      have asked := mem_requested_iff.mp ⟨listed, known⟩
      rw [same] at asked
      exact .requested asked

/-- Outermost a request is inside of something that it visits from outside. -/
theorem Visits.outermost {inside : List PluginRef} {ref : PluginRef} {before : Progress σ}
    (visits : Visits resolver clock start inside ref before) :
    ∀ root, (ref :: inside).getLast? = some root → hasPlugin resolver root = true →
      IsRoot resolver start.resolution.requestedIds root := by
  induction visits with
  | ofStage stage listed done =>
      intro root last known
      cases last
      exact stage.isRoot (listed ▸ List.mem_append_right _ List.mem_cons_self) known
  | ofDefinition _ _ _ _ _ ih | ofConnector _ _ _ _ _ _ _ ih | failover _ _ _ _ _ ih =>
      intro root last
      rw [List.getLast?_cons_cons] at last
      exact ih root last

/-- When a request succeeds, what it visits from outside has records at the end. -/
theorem Stage.settles {refs : List PluginRef} {first : Progress σ}
    (stage : Stage resolver clock start refs first)
    (succeeded : (resolve resolver clock start).1 = .ok ()) :
    ∀ ref ∈ refs, hasPlugin resolver ref = true →
      (resolve resolver clock start).2.resolution.isRecorded ref = true := by
  intro ref member known
  have runs : Runs resolver clock [] (.visitAll refs) first _ _ := runs_visitAll refs first
  have retained := stage.retained
  rcases visited : visitAll resolver clock refs first with ⟨halt | done, last⟩
  · rw [resolve_halted_iff.mpr ⟨refs, first, stage, visited⟩] at succeeded
    cases succeeded
  · rw [visited] at runs retained
    exact retained.isRecorded (runs.settles rfl ref member known)

/-- So do all plugins that it begins with. -/
theorem resolve_settles (succeeded : (resolve resolver clock start).1 = .ok ()) {ref : PluginRef}
    (root : IsRoot resolver start.resolution.requestedIds ref) :
    (resolve resolver clock start).2.resolution.isRecorded ref = true := by
  obtain ⟨middle, kept, -, rest⟩ := Step.andThen_ok succeeded
  obtain ⟨before, exported, -, -⟩ := Step.andThen_ok rest
  have stage := Stage.requested kept exported
  have same := ((unreleased_walkLaw resolver clock).stage stage).requestedIds
  cases root with
  | preRequested first =>
      have listed := mem_preRequested_iff.mpr first
      exact Stage.preRequested.settles succeeded ref listed first.known
  | exporting exports =>
      have listed := mem_exporting_iff.mpr exports
      exact (Stage.exporting kept).settles succeeded ref listed exports.known
  | requested asked =>
      rw [← same] at asked
      obtain ⟨listed, known⟩ := mem_requested_iff.mpr asked
      exact stage.settles succeeded ref listed known

/-! ## What is left -/

/-- What a failed request leaves behind of the state that it began with. -/
structure Residue (resolver : Resolver σ) (before : Resolution) (after : Progress σ) : Prop where
  unreleased : before.Unreleased after.resolution
  retained : before.Retains after.resolution
  definitions : ∀ id, before.isRecorded (.definition id) = false →
    after.resolution.isRecorded (.definition id) = true →
      ∀ next, resolver.graph.Declares (.definition id) next →
        after.resolution.isRecorded next = true
  invoked : ∀ run ∈ invocations after.journal, ∀ next, resolver.graph.Declares run.1 next →
    after.resolution.isRecorded next = true
  substitutes : ∀ id record, before.isRecorded (.connector id) = false →
    after.resolution.connectors.get? id = some record → record.usedFailover = true →
      ∃ next other, resolver.graph.FailsOver id next ∧
        after.resolution.connectors.get? next = some other ∧
          record = ⟨id, other.resolvedBy, other.attributes⟩

/-- A request that is halted leaves a residue behind, whatever the reason. -/
theorem residue_of_halted {halt : Halt} {after : Progress σ}
    (traceable : start.resolution.Traceable resolver) (empty : start.journal = [])
    (halted : resolve resolver clock start = (.error halt, after)) :
    Residue resolver start.resolution after := by
  have accounted := resolve_accounted resolver clock start
  have orderly := resolve_orderly resolver clock start
  have unfolds := resolve_unfolds resolver clock start traceable
  rw [halted] at accounted orderly unfolds
  obtain ⟨shown, journalShown, unfolds⟩ := unfolds
  obtain ⟨-, ran, journal, orderly⟩ := orderly
  rw [empty] at journal journalShown
  have listed : invocations after.journal = ran := journal
  have listedShown : invocations after.journal = shown := journalShown
  exact {
    unreleased := (unreleased_walkLaw resolver clock).halted halted
    retained := unfolds.retained
    definitions := fun id unrecorded recorded =>
      (accounted.backed id recorded).resolve_left (by simp [unrecorded])
    invoked := fun run member next declared => by
      have ready := orderly.ready run (listed ▸ member) next declared
      rw [listedShown] at member
      exact (unfolds.ended run.2 (List.mem_map_of_mem member)).isRecorded ready
    substitutes := fun id record _ found used => by
      have keyed := unfolds.finished.connectors_keyed id record found
      have differs : record.connectorId ≠ record.resolvedBy := bne_iff_ne.mp used
      rcases unfolds.finished.derived id record found with own | derived
      · exact absurd (keyed.trans own.symm) differs
      · obtain ⟨next, other, failsOver, recorded, resolvedBy, attributes⟩ := derived
        refine ⟨next, other, failsOver, recorded, ?_⟩
        rw [resolvedBy, attributes, ← keyed] }

/-- When a state of a request is resolved again, whatever world it meets by then, a plugin is not
left out: it is visited without a record unless the call has tried it before, and it gets no record
without being tried. -/
structure TriedAgain (resolver : Resolver σ) (clock : σ → Instant × σ) (resolution : Resolution)
    (ref : PluginRef) : Prop where
  unrecorded : resolution.isRecorded ref = false
  visited : ∀ world failures inside before,
    Visits resolver clock { world, failures, resolution } inside ref before →
      before.resolution.isRecorded ref = false ∨ Tried before.journal ref
  recorded : ∀ world failures final outcome,
    resolve resolver clock { world, failures, resolution } = (outcome, final) →
      final.resolution.isRecorded ref = true → Tried final.journal ref

/-- A plugin without a record is run or passed over when it is visited again. -/
theorem triedAgain_of_unrecorded {resolution : Resolution} {ref : PluginRef}
    (unrecorded : resolution.isRecorded ref = false) :
    TriedAgain resolver clock resolution ref where
  unrecorded := unrecorded
  visited := fun world failures inside before visits => by
    have nothing := accounted_refl resolver { world, failures, resolution }
    have accounted := (accounted_walkLaw resolver clock resolution).visited visits nothing
    by_cases recorded : before.resolution.isRecorded ref = true
    · exact .inr ((accounted.tried ref recorded).resolve_left (by simp [unrecorded]))
    · exact .inl (Bool.eq_false_iff.mpr recorded)
  recorded := fun world failures final outcome ended recorded => by
    have accounted := resolve_accounted resolver clock { world, failures, resolution }
    rw [ended] at accounted
    exact (accounted.tried ref recorded).resolve_left (by simp [unrecorded])

/-- The connector that ended a request and all that it was visited inside of are without records. -/
theorem Breaks.unrecorded {inside : List PluginRef} {id : String} {connector : Connector σ}
    {before after : Progress σ} {error : ResolutionError}
    (breaks : Breaks resolver clock inside id connector before error after)
    (visits : Visits resolver clock start inside (.connector id) before) :
    ∀ ref ∈ .connector id :: inside, after.resolution.isRecorded ref = false := by
  intro ref member
  refine breaks.unusable.unrecorded member ?_
  rcases List.mem_cons.mp member with rfl | outer
  · exact breaks.fresh
  · exact visits.inside_unrecorded ref outer

/-- What a failed request was visiting from outside is tried by each later call that succeeds. -/
theorem outermost_triedAgain {inside : List PluginRef} {id : String} {connector : Connector σ}
    {before after : Progress σ} {halt : Halt}
    (visits : Visits resolver clock start inside (.connector id) before)
    (found : resolver.connectors.get? id = some connector)
    (failed : resolve resolver clock start = (.error halt, after)) {root : PluginRef}
    (outermost : (.connector id :: inside).getLast? = some root)
    (again : TriedAgain resolver clock after.resolution root) {world : σ} {failures : FailureLog}
    {final : Progress σ}
    (succeeded : resolve resolver clock { world, failures, resolution := after.resolution } =
      (.ok (), final)) : Tried final.journal root := by
  have same := ((unreleased_walkLaw resolver clock).halted failed).requestedIds
  have known : hasPlugin resolver root = true := by
    rcases List.mem_cons.mp (List.mem_of_getLast? outermost) with rfl | outer
    · exact hasPlugin_connector found
    · exact visits.inside_known root outer
  have isRoot := visits.outermost root outermost known
  rw [← same] at isRoot
  have ended : (resolve resolver clock
      { world, failures, resolution := after.resolution }).1 = .ok () := by
    rw [succeeded]
  have recorded := resolve_settles ended isRoot
  rw [succeeded] at recorded
  exact again.recorded world failures final _ succeeded recorded

/-- Let a request fail, however it was used before. Then what was asked of it and what it had
released is as before, all records that were there are there unchanged, and each new definition,
each connector that was run, and each failover's result that was taken over has beside it the
records it goes back to. It failed because of a connector that it visited; neither that connector
nor any plugin that was being resolved with its help has a record, so that a later call tries them
again, the outermost of them in any case if the call succeeds. -/
theorem failed_request_leaves_residue (resolver : Resolver σ) (clock : σ → Instant × σ)
    (request : Request) (uses : List (Use σ)) {start after : Progress σ} {halt : Halt}
    (reached : start.resolution = stateAfter resolver clock { request } uses)
    (empty : start.journal = [])
    (failed : resolve resolver clock start = (.error halt, after)) :
    Residue resolver start.resolution after ∧
      ∃ error, halt = .failed error ∧
        (∃ inside id connector before,
          Visits resolver clock start inside (.connector id) before ∧
            Breaks resolver clock inside id connector before error after) ∧
        ∀ inside id connector before reason last,
          Visits resolver clock start inside (.connector id) before →
            Breaks resolver clock inside id connector before reason last →
              reason = error ∧ last = after ∧
                (∀ ref ∈ .connector id :: inside,
                  TriedAgain resolver clock after.resolution ref) ∧
                ∀ root, (.connector id :: inside).getLast? = some root →
                  ∀ world failures final,
                    resolve resolver clock { world, failures, resolution := after.resolution } =
                      (.ok (), final) → Tried final.journal root := by
  have traceable := stateAfter_traceable resolver clock request uses
  rw [← reached] at traceable
  refine ⟨residue_of_halted traceable empty failed, ?_⟩
  cases halt with
  | reentered plugin =>
      exact absurd (by rw [failed]) (resolve_not_reentered resolver clock start plugin)
  | failed error =>
      refine ⟨error, rfl, ?_, ?_⟩
      · have broken : IsBroken resolver clock start error (resolve resolver clock start).2 :=
          isBroken_of_failed (by rw [failed])
        rw [failed] at broken
        exact broken
      · intro inside id connector before reason last visits breaks
        have ended := breaks.halts visits
        rw [failed] at ended
        cases ended
        have again : ∀ ref ∈ .connector id :: inside,
            TriedAgain resolver clock after.resolution ref := fun ref member =>
          triedAgain_of_unrecorded (breaks.unrecorded visits ref member)
        refine ⟨rfl, rfl, again, fun root outermost world failures final succeeded => ?_⟩
        have member := List.mem_of_getLast? outermost
        exact outermost_triedAgain visits breaks.found failed outermost (again root member)
          succeeded

/-- The directory is out of reach, but has a backup; the archive is shut. -/
def shutConnectors : Keyed fun connector : Connector Unit => connector.settings.id :=
  ((Keyed.add .empty (lostDirectory true)).add
    (staticConnector { id := "backup" } outageMail)).add
    ⟨{ id := "archive" }, .pure fun _ => .error (.failed "archive" "shut" none)⟩

/-- The mail address is read from the directory, and the contact needs the archive as well. -/
def shutDefinitions : Keyed fun definition : Definition Unit => definition.settings.id :=
  (Keyed.add .empty mailDefinition).add
    (DefinitionKind.simple.toDefinition
      { id := "contact"
        dependencies := { attributes := ["mail"], connectors := [⟨"archive", []⟩] } })

/-- A resolver with a shut archive. -/
def shut : Resolver Unit where
  id := "campus"
  definitions := shutDefinitions.1
  connectors := shutConnectors.1
  stripNulls := false
  suppressDisplay := false
  definitions_keyed := shutDefinitions.2
  connectors_keyed := shutConnectors.2
  accepted := by decide +kernel

/-- A request for the contact alone. -/
def shutStart : Progress Unit where
  world := ()
  failures := .new ["archive", "backup", "directory"]
  resolution := stateAfter shut blackoutClock {} [.ask ["contact"] ∅]

/-- The shut archive ends the request for the contact, which leaves the mail address behind with all
that it goes back to, and tries the contact again. -/
theorem failed_request_leaves_residue_shut :
    (resolve shut blackoutClock shutStart).1 =
        .error (.failed (.failed "archive" "shut" none)) ∧
      (resolve shut blackoutClock shutStart).2.resolution.isRecorded (.definition "mail") = true ∧
      (resolve shut blackoutClock shutStart).2.resolution.isRecorded (.connector "directory") =
        true ∧
      ∃ inside id connector before,
        Visits shut blackoutClock shutStart inside (.connector id) before ∧
          Breaks shut blackoutClock inside id connector before (.failed "archive" "shut" none)
              (resolve shut blackoutClock shutStart).2 ∧
            ∀ ref ∈ .connector id :: inside, TriedAgain shut blackoutClock
              (resolve shut blackoutClock shutStart).2.resolution ref := by
  have failed : (resolve shut blackoutClock shutStart).1 =
      .error (.failed (.failed "archive" "shut" none)) := by
    decide +kernel
  have mail : (resolve shut blackoutClock shutStart).2.resolution.isRecorded
      (.definition "mail") = true := by
    decide +kernel
  have found : shut.definitions.get? "mail" = some mailDefinition := by
    simp [shut, shutDefinitions, Keyed.add, KeyMap.get?_insert, mailDefinition,
      DefinitionKind.toDefinition]
  have halted : resolve shut blackoutClock shutStart =
      (.error (.failed (.failed "archive" "shut" none)),
        (resolve shut blackoutClock shutStart).2) := Prod.ext failed rfl
  obtain ⟨residue, error, same, ⟨inside, id, connector, before, visits, breaks⟩, each⟩ :=
    failed_request_leaves_residue shut blackoutClock {} [.ask ["contact"] ∅] rfl rfl halted
  cases same
  have directory := residue.definitions "mail" rfl mail (.connector "directory")
    ((declares_definition_iff found).mpr (by decide))
  obtain ⟨-, -, again, -⟩ := each inside id connector before _ _ visits breaks
  exact ⟨failed, mail, directory, inside, id, connector, before, visits, breaks, again⟩

end AttributeRelease.Resolver
