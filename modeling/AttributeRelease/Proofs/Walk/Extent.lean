import AttributeRelease.Proofs.Walk.Again
import AttributeRelease.Proofs.Walk.Needs

/-!
# How far a walk goes

A walk that ends well has written down only what happened with plugins that are needed
(`Runs.needed`), and has followed up what it wrote down: the dependencies of the connectors that it
ran have records, and so have the failovers of those that turned out to be unusable
(`Runs.explored`). So whatever a request had recorded before, it records beyond that exactly what is
needed, both by the time it keeps attributes for other plugins (`preResolve_recorded_iff`) and in
the end (`resolve_recorded_iff`).
-/

namespace AttributeRelease.Resolver

variable {σ : Type} {resolver : Resolver σ} {clock : σ → Instant × σ} {start : Progress σ}

/-! ## Only what is needed is written down -/

/-- The connectors that a journal tells of count as run and as unusable. -/
structure Counted (journal : List Event) (run unusable : String → Prop) : Prop where
  run : ∀ id, WasRun journal id → run id
  unusable : ∀ id, WasUnusable journal id → unusable id

variable {asked : PluginRef → Prop} {run unusable : String → Prop}

/-- All that was written down is about plugins that are needed. -/
def Progress.IsNeeded (resolver : Resolver σ) (asked : PluginRef → Prop)
    (run unusable : String → Prop) (progress : Progress σ) : Prop :=
  ∀ event ∈ progress.journal, Needed resolver asked run unusable event.plugin

theorem counted_self (journal : List Event) :
    Counted journal (WasRun journal) (WasUnusable journal) :=
  ⟨fun _ ran => ran, fun _ missed => missed⟩

/-- Less is told at an earlier point, so it counts too. -/
theorem Counted.earlier {journal longer : List Event} (counted : Counted longer run unusable)
    (grows : journal <+: longer) : Counted journal run unusable where
  run := by
    rintro id ⟨seen, member⟩
    exact counted.run id ⟨seen, grows.subset member⟩
  unusable := by
    rintro id (passedOver | ⟨error, failed⟩)
    · exact counted.unusable id (.inl (grows.subset passedOver))
    · exact counted.unusable id (.inr ⟨error, grows.subset failed⟩)

/-- What is written down when a plugin was run is about that plugin. -/
theorem Event.Tells.about {plugin : PluginRef} {seen : Resolution} {events : List Event}
    (tells : Event.Tells plugin seen events) : ∀ event ∈ events, event.plugin = plugin := by
  rcases tells with rfl | ⟨error, rfl⟩
  · exact List.forall_mem_singleton.mpr rfl
  · exact List.forall_mem_cons.mpr ⟨rfl, List.forall_mem_singleton.mpr rfl⟩

/-- An unusable connector that is needed makes what replaces it needed. -/
theorem Needed.replacement {id : String} {connector : Connector σ}
    (needed : Needed resolver asked run unusable (.connector id)) (counts : unusable id)
    (found : resolver.connectors.get? id = some connector) (reason : ResolutionError) :
    ∀ ref ∈ (Errand.replace id connector.settings reason).targets, hasPlugin resolver ref = true →
      Needed resolver asked run unusable ref := by
  intro ref listed _
  obtain ⟨next, named, rfl⟩ := List.mem_map.mp listed
  exact .failover needed counts ((failsOver_iff found).mpr (Option.mem_toList.mp named))

/-- Let the plugins that an errand visits be needed. When it ends well, what is written down on the
way is about plugins that are needed too: a connector that it went on from was run or unusable. -/
theorem Runs.needed {inside : List PluginRef} {errand : Errand} {before after : Progress σ}
    {outcome : Except Halt Unit} (runs : Runs resolver clock inside errand before outcome after)
    (ended : outcome = .ok ()) (counted : Counted after.journal run unusable)
    (targets : ∀ ref ∈ errand.targets, hasPlugin resolver ref = true →
      Needed resolver asked run unusable ref)
    (told : before.IsNeeded resolver asked run unusable) :
    after.IsNeeded resolver asked run unusable := by
  have grows {inside : List PluginRef} {errand : Errand} {before after : Progress σ}
      {outcome : Except Halt Unit} (runs : Runs resolver clock inside errand before outcome after) :
      before.journal <+: after.journal := (journal_stepLaw resolver clock).runs runs
  induction runs with
  | idle | stuck | propagated | absorbed | done => exact told
  | @definition _ id definition _ middle found fresh outside dependencies ih =>
      have own := targets _ (List.mem_singleton_self _) (hasPlugin_definition found)
      obtain ⟨events, tells, journal⟩ := runDefinition_journal id definition middle
      have visited := ih rfl (counted.earlier ⟨events, journal.symm⟩)
        (fun next listed _ => .ofDefinition own ((declares_definition_iff found).mpr listed)) told
      unfold Progress.IsNeeded
      rw [journal]
      exact List.forall_mem_append.mpr ⟨visited, fun event new => tells.about event new ▸ own⟩
  | @passedOver _ id connector _ _ _ _ _ found fresh outside clockRead window replaced ih =>
      have own := targets _ (List.mem_singleton_self _) (hasPlugin_connector found)
      obtain ⟨-, rfl⟩ := readClock_eq clockRead
      have counts := (counted.earlier (grows replaced)).unusable id
        (.inl (List.mem_append_right _ (List.mem_singleton_self _)))
      refine ih ended counted (own.replacement counts found _) ?_
      exact List.forall_mem_append.mpr ⟨told, List.forall_mem_singleton.mpr own⟩
  | @fetched _ id connector _ _ middle ran _ attributes found fresh outside clockRead noWindow
      dependencies answered ih =>
      have own := targets _ (List.mem_singleton_self _) (hasPlugin_connector found)
      obtain ⟨-, rfl⟩ := readClock_eq clockRead
      have journal : (ran.recordConnector ⟨id, id, attributes⟩).journal =
          middle.journal ++ [.ran (.connector id) middle.resolution] :=
        (fetchConnector_journal_ok answered :)
      unfold Progress.IsNeeded
      rw [journal] at counted ⊢
      have counts := counted.run id ⟨_, List.mem_append_right _ List.mem_cons_self⟩
      have visited := ih rfl (counted.earlier (List.prefix_append _ _))
        (fun next listed _ => .ofConnector own counts ((declares_connector_iff found).mpr listed))
        told
      exact List.forall_mem_append.mpr ⟨visited, List.forall_mem_singleton.mpr own⟩
  | @fetchFailed _ id connector _ _ middle ran _ _ error _ found fresh outside clockRead noWindow
      dependencies failed replaced ihDependencies ihReplaced =>
      have own := targets _ (List.mem_singleton_self _) (hasPlugin_connector found)
      obtain ⟨-, rfl⟩ := readClock_eq clockRead
      have journal := fetchConnector_journal_error failed
      have countedThere := counted.earlier (grows replaced)
      rw [journal] at countedThere
      have counts := countedThere.run id ⟨_, List.mem_append_right _ List.mem_cons_self⟩
      have countsUnusable := countedThere.unusable id (.inr ⟨error,
        List.mem_append_right _ (List.mem_cons_of_mem _ (List.mem_singleton_self _))⟩)
      have visited := ihDependencies rfl (countedThere.earlier (List.prefix_append _ _))
        (fun next listed _ => .ofConnector own counts ((declares_connector_iff found).mpr listed))
        told
      refine ihReplaced ended counted (own.replacement countsUnusable found _) ?_
      unfold Progress.IsNeeded
      rw [journal]
      refine List.forall_mem_append.mpr ⟨visited, ?_⟩
      exact List.forall_mem_cons.mpr ⟨own, List.forall_mem_singleton.mpr own⟩
  | failedOver named resolved ih =>
      have visits := ih rfl counted
      simp only [Errand.targets, named, Option.toList_some, List.map_singleton] at targets visits
      exact visits targets told
  | next first others ihFirst ihOthers =>
      have visited := ihFirst rfl (counted.earlier (grows others))
        (fun ref member => targets ref (List.mem_cons.mpr (.inl (List.mem_singleton.mp member))))
        told
      exact ihOthers ended counted (fun ref member => targets ref (List.mem_cons_of_mem _ member))
        visited
  | definitionHalted | connectorHalted | failoverHalted | halted => cases ended

/-! ## What is written down is followed up -/

/-- Among the connectors that a journal tells of beyond an earlier one, those that were run have
records of their dependencies, and those that were unusable of their failovers. -/
structure Explored (resolver : Resolver σ) (earlier later : List Event) (resolution : Resolution) :
    Prop where
  run : ∀ id, WasRun later id → WasRun earlier id ∨
    ∀ next, resolver.graph.Declares (.connector id) next → resolution.isRecorded next = true
  unusable : ∀ id, WasUnusable later id → WasUnusable earlier id ∨
    ∀ next, resolver.graph.FailsOver id next → resolution.isRecorded (.connector next) = true

variable {earlier middle later events : List Event} {resolution other : Resolution}

theorem Explored.refl (journal : List Event) (resolution : Resolution) :
    Explored resolver journal journal resolution :=
  ⟨fun _ ran => .inl ran, fun _ missed => .inl missed⟩

theorem Explored.trans (first : Explored resolver earlier middle resolution)
    (second : Explored resolver middle later resolution) :
    Explored resolver earlier later resolution where
  run := fun id ran => by
    rcases second.run id ran with before | followed
    · exact first.run id before
    · exact .inr followed
  unusable := fun id missed => by
    rcases second.unusable id missed with before | followed
    · exact first.unusable id before
    · exact .inr followed

/-- What is followed up stays so when more is recorded. -/
theorem Explored.mono (explored : Explored resolver earlier later resolution)
    (kept : ∀ ref, resolution.isRecorded ref = true → other.isRecorded ref = true) :
    Explored resolver earlier later other where
  run := fun id ran => (explored.run id ran).imp_right fun followed next declared =>
    kept _ (followed next declared)
  unusable := fun id missed => (explored.unusable id missed).imp_right fun followed next named =>
    kept _ (followed next named)

/-- Something new may be written down about a plugin if that is followed up. -/
theorem Explored.append {plugin : PluginRef} (about : ∀ event ∈ events, event.plugin = plugin)
    (run : ∀ id, plugin = .connector id → WasRun events id →
      ∀ next, resolver.graph.Declares (.connector id) next → resolution.isRecorded next = true)
    (unusable : ∀ id, plugin = .connector id → WasUnusable events id →
      ∀ next, resolver.graph.FailsOver id next → resolution.isRecorded (.connector next) = true) :
    Explored resolver earlier (earlier ++ events) resolution where
  run := by
    rintro id ⟨seen, member⟩
    rcases List.mem_append.mp member with before | new
    · exact .inl ⟨seen, before⟩
    · exact .inr (run id (about _ new).symm ⟨seen, new⟩)
  unusable := by
    rintro id (passedOver | ⟨error, failed⟩)
    · rcases List.mem_append.mp passedOver with before | new
      · exact .inl (.inl before)
      · exact .inr (unusable id (about _ new).symm (.inl new))
    · rcases List.mem_append.mp failed with before | new
      · exact .inl (.inr ⟨error, before⟩)
      · exact .inr (unusable id (about _ new).symm (.inr ⟨error, new⟩))

/-- On a walk what is recorded stays so. -/
theorem recorded_stepLaw (resolver : Resolver σ) (clock : σ → Instant × σ) :
    StepLaw resolver clock fun before after => ∀ ref,
      before.resolution.isRecorded ref = true → after.resolution.isRecorded ref = true where
  refl := fun _ _ recorded => recorded
  trans := fun first second ref recorded => second ref (first ref recorded)
  reads := fun _ _ recorded => recorded
  passes := fun _ _ _ recorded => recorded
  defines := fun _ progress ref recorded => by
    rw [runDefinition_resolution, Resolution.isRecorded_recordDefinition, recorded, Bool.or_true]
  fetches := fun _ progress ref recorded => by
    rw [fetchConnector_resolution]
    exact recorded
  records := fun progress record ref recorded => by
    rw [Progress.recordConnector, Resolution.isRecorded_recordConnector, recorded, Bool.or_true]

/-- When a connector was replaced, its failover has a record. -/
theorem Runs.failover_recorded {inside : List PluginRef} {id : String} {connector : Connector σ}
    {reason : ResolutionError} {before after : Progress σ}
    (replaced : Runs resolver clock inside (.replace id connector.settings reason) before (.ok ())
      after)
    (found : resolver.connectors.get? id = some connector) {next : String}
    (failsOver : resolver.graph.FailsOver id next) :
    after.resolution.isRecorded (.connector next) = true := by
  have failover := (failsOver_iff found).mp failsOver
  cases replaced with
  | failedOver named resolved =>
      cases named.symm.trans failover
      have recorded := resolved.settles rfl _ (List.mem_singleton_self _)
        (failover_known found failover)
      rw [Progress.recordConnector, Resolution.isRecorded_recordConnector, recorded, Bool.or_true]
  | absorbed unnamed absorbs => cases unnamed.symm.trans failover

/-- A walk that ends well follows up what it writes down. -/
theorem Runs.explored {inside : List PluginRef} {errand : Errand} {before after : Progress σ}
    {outcome : Except Halt Unit} (runs : Runs resolver clock inside errand before outcome after)
    (ended : outcome = .ok ()) :
    Explored resolver before.journal after.journal after.resolution := by
  have kept {inside : List PluginRef} {errand : Errand} {before after : Progress σ}
      {outcome : Except Halt Unit} (runs : Runs resolver clock inside errand before outcome after) :
      ∀ ref, before.resolution.isRecorded ref = true → after.resolution.isRecorded ref = true :=
    (recorded_stepLaw resolver clock).runs runs
  induction runs with
  | idle | stuck | propagated | absorbed | done => exact .refl _ _
  | @definition _ id definition _ middle found fresh outside dependencies ih =>
      obtain ⟨events, tells, journal⟩ := runDefinition_journal id definition middle
      have later := (recorded_stepLaw resolver clock).defines found middle
      rw [journal]
      refine ((ih rfl).mono later).trans (.append tells.about ?_ ?_)
      · rintro _ ⟨⟩
      · rintro _ ⟨⟩
  | @passedOver _ id connector before _ after _ _ found fresh outside clockRead window replaced
      ih =>
      obtain ⟨-, rfl⟩ := readClock_eq clockRead
      subst ended
      have noted : Explored resolver before.journal (before.journal ++ [.passedOver id])
          after.resolution := by
        refine .append (List.forall_mem_singleton.mpr rfl) ?_ ?_
        · rintro _ - ⟨seen, member⟩
          cases List.mem_singleton.mp member
        · rintro _ ⟨⟩ - next failsOver
          exact replaced.failover_recorded found failsOver
      exact noted.trans (ih rfl)
  | @fetched _ id connector _ _ middle ran _ attributes found fresh outside clockRead noWindow
      dependencies answered ih =>
      obtain ⟨-, rfl⟩ := readClock_eq clockRead
      have journal : (ran.recordConnector ⟨id, id, attributes⟩).journal =
          middle.journal ++ [.ran (.connector id) middle.resolution] :=
        (fetchConnector_journal_ok answered :)
      have recorded := dependencies.dependencies_recorded fun _ => declares_connector_iff found
      have same := (fetched_of_fetchConnector answered).resolution
      have later : ∀ ref, middle.resolution.isRecorded ref = true →
          (ran.recordConnector ⟨id, id, attributes⟩).resolution.isRecorded ref = true := by
        intro ref earlier
        exact (recorded_stepLaw resolver clock).records ran _ ref (same ▸ earlier)
      rw [journal]
      refine ((ih rfl).mono later).trans (.append (List.forall_mem_singleton.mpr rfl) ?_ ?_)
      · rintro _ ⟨⟩ - next declared
        exact later next (recorded next ((declares_connector_iff found).mp declared))
      · rintro _ - (passedOver | ⟨error, failed⟩)
        · cases List.mem_singleton.mp passedOver
        · cases List.mem_singleton.mp failed
  | @fetchFailed _ id connector _ _ middle ran after _ error _ found fresh outside clockRead
      noWindow dependencies failed replaced ihDependencies ihReplaced =>
      obtain ⟨-, rfl⟩ := readClock_eq clockRead
      subst ended
      have journal := fetchConnector_journal_error failed
      have recorded := dependencies.dependencies_recorded fun _ => declares_connector_iff found
      have same := (fetched_of_fetchConnector failed).resolution
      have later : ∀ ref, middle.resolution.isRecorded ref = true →
          after.resolution.isRecorded ref = true := fun ref earlier =>
        kept replaced ref (same ▸ earlier)
      have noted : Explored resolver middle.journal ran.journal after.resolution := by
        rw [journal]
        refine .append (List.forall_mem_cons.mpr ⟨rfl, List.forall_mem_singleton.mpr rfl⟩) ?_ ?_
        · rintro _ ⟨⟩ - next declared
          exact later next (recorded next ((declares_connector_iff found).mp declared))
        · rintro _ ⟨⟩ - next failsOver
          exact replaced.failover_recorded found failsOver
      exact (((ihDependencies rfl).mono later).trans noted).trans (ihReplaced rfl)
  | failedOver named resolved ih =>
      refine (ih rfl).mono fun ref recorded => ?_
      exact (recorded_stepLaw resolver clock).records _ _ ref recorded
  | next first others ihFirst ihOthers =>
      exact ((ihFirst rfl).mono (kept others)).trans (ihOthers ended)
  | definitionHalted | connectorHalted | failoverHalted | halted => cases ended

/-! ## Parts of a request -/

/-- What a part of a request comes to: records stay, and if it ends well, what it wrote down is
followed up. -/
structure Pursues (resolver : Resolver σ) (before : Progress σ) (outcome : Except Halt Unit)
    (after : Progress σ) : Prop where
  kept : ∀ ref, before.resolution.isRecorded ref = true → after.resolution.isRecorded ref = true
  explored : outcome = .ok () →
    Explored resolver before.journal after.journal after.resolution

/-- Parts of a request are put together, all but the last ending well. -/
theorem Pursues.trans {before middle after : Progress σ} {outcome : Except Halt Unit}
    (first : Pursues resolver before (.ok ()) middle)
    (second : Pursues resolver middle outcome after) : Pursues resolver before outcome after where
  kept := fun ref recorded => second.kept ref (first.kept ref recorded)
  explored := fun ended => ((first.explored rfl).mono second.kept).trans (second.explored ended)

/-- Keeping and releasing attributes leaves the records and the journal alone. -/
theorem pursues_sets (progress : Progress σ) (preResolved released : AttributeMap) :
    Pursues resolver progress (.ok ()) { progress with
      resolution := { progress.resolution with preResolved, released } } where
  kept := fun ref recorded => by
    cases ref with
    | definition => exact recorded
    | connector => exact recorded
  explored := fun _ => .refl _ _

/-- Visiting several plugins keeps records, and ends well only if all is followed up. -/
theorem visitAll_pursues (refs : List PluginRef) :
    (visitAll resolver clock refs).Obeys (Pursues resolver) := fun progress =>
  have runs := runs_visitAll refs progress
  ⟨(recorded_stepLaw resolver clock).runs runs, runs.explored⟩

theorem preResolve_pursues (resolver : Resolver σ) (clock : σ → Instant × σ) :
    (preResolve resolver clock).Obeys (Pursues resolver) :=
  preResolve_obeys_keeping Pursues.trans visitAll_pursues fun progress =>
    pursues_sets progress _ progress.resolution.released

/-- A request that ends well has followed up all that it wrote down. -/
theorem resolve_pursues (resolver : Resolver σ) (clock : σ → Instant × σ) :
    (resolve resolver clock).Obeys (Pursues resolver) :=
  resolve_obeys Pursues.trans visitAll_pursues pursues_sets

/-- What is resolved before all else was visited from outside. -/
theorem preResolve_eq_ok {kept : Progress σ}
    (prepared : preResolve resolver clock start = (.ok (), kept)) :
    ∃ visited, visitAll resolver clock ((preRequestedIds resolver).map .definition) start =
        (.ok (), visited) ∧
      kept = { visited with resolution := { visited.resolution with
        preResolved := keptAttributes resolver visited.resolution } } := by
  unfold preResolve at prepared
  unfold keptAttributes
  cases ids : preRequestedIds resolver with
  | nil =>
      rw [ids] at prepared
      cases prepared
      exact ⟨start, rfl, rfl⟩
  | cons id rest =>
      rw [ids] at prepared
      have ended : (Step.andThen _ _ start).1 = .ok () := congrArg Prod.fst prepared
      obtain ⟨visited, first, last, -⟩ := Step.andThen_ok ended
      cases last.symm.trans prepared
      exact ⟨visited, first, rfl⟩

/-- A definition that has a record has records of its dependencies beside it. -/
def Resolution.Backed (resolver : Resolver σ) (resolution : Resolution) : Prop :=
  ∀ id, resolution.isRecorded (.definition id) = true →
    ∀ next, resolver.graph.Declares (.definition id) next → resolution.isRecorded next = true

/-- If definitions were recorded with their dependencies before, they still are. -/
theorem Accounted.complete {initial : Resolution} {progress : Progress σ}
    (accounted : Accounted resolver initial progress) (backed : initial.Backed resolver)
    (kept : ∀ ref, initial.isRecorded ref = true → progress.resolution.isRecorded ref = true) :
    progress.resolution.Backed resolver := by
  intro id recorded next declared
  rcases accounted.backed id recorded with before | new
  · exact kept next (backed id before next declared)
  · exact new next declared

/-- However a new request was used, definitions are recorded with their dependencies. -/
theorem stateAfter_backed (resolver : Resolver σ) (clock : σ → Instant × σ) (request : Request)
    (uses : List (Use σ)) : (stateAfter resolver clock { request } uses).Backed resolver := by
  refine stateAfter_holds (fun _ _ backed => backed) (fun backed => backed)
    (fun _ _ backed => ?_) uses fun id recorded => ?_
  · exact (resolve_accounted resolver clock _).complete backed
      (resolve_pursues resolver clock _).kept
  · cases recorded

/-! ## What is recorded -/

/-- What is needed can be reached from what is asked for. -/
theorem Needed.leads {ref : PluginRef} (needed : Needed resolver asked run unusable ref) :
    ∃ root, asked root ∧ Relation.ReflTransGen resolver.graph.LeadsTo root ref := by
  induction needed with
  | asked asks => exact ⟨_, asks, .refl⟩
  | ofDefinition _ declared ih | ofConnector _ _ declared ih =>
      obtain ⟨root, asks, leads⟩ := ih
      exact ⟨root, asks, leads.tail (.dependency declared)⟩
  | failover _ _ named ih =>
      obtain ⟨root, asks, leads⟩ := ih
      exact ⟨root, asks, leads.tail (.failover named)⟩

/-- When what is asked for is recorded and what was written down is about what is needed, exactly
what is needed is recorded beyond what was before. -/
theorem recorded_iff_needed {after : Progress σ} (empty : start.journal = [])
    (backed : start.resolution.Backed resolver)
    (accounted : Accounted resolver start.resolution after)
    (pursues : Pursues resolver start (.ok ()) after)
    (settled : ∀ ref, asked ref → after.resolution.isRecorded ref = true)
    (needed : after.IsNeeded resolver asked (WasRun after.journal) (WasUnusable after.journal))
    (ref : PluginRef) :
    after.resolution.isRecorded ref = true ↔ start.resolution.isRecorded ref = true ∨
      Needed resolver asked (WasRun after.journal) (WasUnusable after.journal) ref := by
  have explored := pursues.explored rfl
  rw [empty] at explored
  constructor
  · intro recorded
    refine (accounted.tried ref recorded).imp_right ?_
    rintro ⟨event, member, rfl⟩
    exact needed event member
  · rintro (before | needed)
    · exact pursues.kept ref before
    · induction needed with
      | asked asks => exact settled _ asks
      | ofDefinition _ declared ih =>
          exact accounted.complete backed pursues.kept _ ih _ declared
      | ofConnector _ ran declared _ =>
          refine (explored.run _ ran).resolve_left ?_ _ declared
          rintro ⟨seen, member⟩
          cases member
      | failover _ missed named _ =>
          refine (explored.unusable _ missed).resolve_left ?_ _ named
          rintro (member | ⟨error, member⟩)
          · cases member
          · cases member

/-- When a request comes to keeping attributes for other plugins, it has recorded exactly what its
state held before and what the definitions that come before all else need; and nothing happened with
any other plugin. -/
theorem preResolve_recorded_iff {kept : Progress σ} (empty : start.journal = [])
    (backed : start.resolution.Backed resolver)
    (prepared : preResolve resolver clock start = (.ok (), kept)) :
    kept.IsNeeded resolver (IsPreRequested resolver) (WasRun kept.journal)
        (WasUnusable kept.journal) ∧
      ∀ ref, kept.resolution.isRecorded ref = true ↔ start.resolution.isRecorded ref = true ∨
        Needed resolver (IsPreRequested resolver) (WasRun kept.journal)
          (WasUnusable kept.journal) ref := by
  have pursues := preResolve_pursues resolver clock start
  have parts := accounted_walkLaw resolver clock start.resolution
  have accounted : (preResolve resolver clock).Obeys fun before _ after =>
      Accounted resolver start.resolution before → Accounted resolver start.resolution after :=
    preResolve_obeys_keeping parts.trans parts.visitAll parts.keeps
  have accounted := accounted start (accounted_refl resolver start)
  rw [prepared] at pursues accounted
  obtain ⟨visited, first, rfl⟩ := preResolve_eq_ok prepared
  have runs : Runs resolver clock [] (.visitAll _) start _ _ :=
    runs_visitAll ((preRequestedIds resolver).map .definition) start
  rw [first] at runs
  have told : visited.IsNeeded resolver (IsPreRequested resolver) (WasRun visited.journal)
      (WasUnusable visited.journal) := by
    refine runs.needed rfl (counted_self _) (fun ref listed _ => ?_) ?_
    · exact .asked (mem_preRequested_iff.mp listed)
    unfold Progress.IsNeeded
    rw [empty]
    exact List.forall_mem_nil _
  refine ⟨told, recorded_iff_needed empty backed accounted pursues ?_ told⟩
  intro ref first
  have recorded := runs.settles rfl ref (mem_preRequested_iff.mpr first) first.known
  cases ref with
  | definition => exact recorded
  | connector => exact recorded

/-- When a request was resolved with success, it has recorded exactly what its state held before and
what it needs; and nothing happened with any other plugin. -/
theorem resolve_recorded_iff {after : Progress σ} (empty : start.journal = [])
    (backed : start.resolution.Backed resolver)
    (succeeded : resolve resolver clock start = (.ok (), after)) :
    after.IsNeeded resolver (IsRoot resolver start.resolution.requestedIds) (WasRun after.journal)
        (WasUnusable after.journal) ∧
      ∀ ref, after.resolution.isRecorded ref = true ↔ start.resolution.isRecorded ref = true ∨
        Needed resolver (IsRoot resolver start.resolution.requestedIds) (WasRun after.journal)
          (WasUnusable after.journal) ref := by
  have ended : (resolve resolver clock start).1 = .ok () := by rw [succeeded]
  have pursues := resolve_pursues resolver clock start
  have accounted := resolve_accounted resolver clock start
  have settled : ∀ ref, IsRoot resolver start.resolution.requestedIds ref →
      (resolve resolver clock start).2.resolution.isRecorded ref = true := fun _ root =>
    resolve_settles ended root
  have told : (resolve resolver clock start).2.IsNeeded resolver
      (IsRoot resolver start.resolution.requestedIds)
      (WasRun (resolve resolver clock start).2.journal)
      (WasUnusable (resolve resolver clock start).2.journal) := by
    refine resolve_along ?_ (fun refs first stage told => ?_) fun _ _ _ told => told
    · unfold Progress.IsNeeded
      rw [empty]
      exact List.forall_mem_nil _
    · have runs : Runs resolver clock [] (.visitAll refs) first _ _ := runs_visitAll refs first
      have written := (journal_restLaw resolver clock).stage stage
      have outcome : (visitAll resolver clock refs first).1 = .ok () := by
        rcases visited : visitAll resolver clock refs first with ⟨halt | done, last⟩
        · rw [resolve_halted_iff.mpr ⟨refs, first, stage, visited⟩] at ended
          cases ended
        · rfl
      exact runs.needed outcome ((counted_self _).earlier written)
        (fun ref listed known => .asked (stage.isRoot listed known)) told
  rw [succeeded] at pursues accounted settled told
  exact ⟨told, recorded_iff_needed empty backed accounted pursues settled told⟩

end AttributeRelease.Resolver
