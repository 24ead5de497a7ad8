import AttributeRelease.Proofs.Walk.Records
import AttributeRelease.Resolver.Definitions

/-!
# Which plugins are run

A journal tells which plugins were run, in which order, and what each was shown. Of one walk it
tells that plugins were run one time only, and each after all of its dependencies had records
(`Runs.orderly`). A request may be resolved again after it failed or was changed; what has a record
by then is not run again (`runs_once_after_dependencies`).
-/

namespace AttributeRelease.Resolver

variable {σ : Type} {resolver : Resolver σ} {clock : σ → Instant × σ}

/-! ## One walk -/

/-- The order in which plugins are run inside of others, between two states of a request. -/
structure Orderly (resolver : Resolver σ) (inside : List PluginRef) (before : Resolution)
    (outcome : Except Halt Unit) (after : Resolution) (ran : List (PluginRef × Resolution)) :
    Prop where
  ready : ∀ run ∈ ran, ∀ next, resolver.graph.Declares run.1 next → run.2.isRecorded next = true
  fresh : ∀ run ∈ ran, run.2.isRecorded run.1 = false
  outside : ∀ run ∈ ran, run.1 ∉ inside
  new : ∀ run ∈ ran, before.isRecorded run.1 = false
  distinct : (ran.map Prod.fst).Nodup
  definitions : ∀ run ∈ ran, ∀ id, run.1 = .definition id → after.isRecorded run.1 = true
  settled : outcome = .ok () → ∀ run ∈ ran, after.isRecorded run.1 = true

variable {inside : List PluginRef} {before middle after : Resolution}
  {outcome : Except Halt Unit} {ran others : List (PluginRef × Resolution)}

theorem Orderly.nil : Orderly resolver inside before outcome after [] where
  ready := nofun
  fresh := nofun
  outside := nofun
  new := nofun
  distinct := List.nodup_nil
  definitions := nofun
  settled := nofun

/-- Outside of a plugin it does not matter whether that plugin is run. -/
theorem Orderly.leave {ref : PluginRef}
    (orderly : Orderly resolver (ref :: inside) before outcome after ran) :
    Orderly resolver inside before outcome after ran where
  ready := orderly.ready
  fresh := orderly.fresh
  outside := fun run member within =>
    orderly.outside run member (List.mem_cons_of_mem ref within)
  new := orderly.new
  distinct := orderly.distinct
  definitions := orderly.definitions
  settled := orderly.settled

/-- Records may be added after all went well. -/
theorem Orderly.later (orderly : Orderly resolver inside before (.ok ()) middle ran)
    (kept : ∀ ref, middle.isRecorded ref = true → after.isRecorded ref = true) :
    Orderly resolver inside before (.ok ()) after ran where
  ready := orderly.ready
  fresh := orderly.fresh
  outside := orderly.outside
  new := orderly.new
  distinct := orderly.distinct
  definitions := fun run member id named => kept run.1 (orderly.definitions run member id named)
  settled := fun ended run member => kept run.1 (orderly.settled ended run member)

/-- What is run later was not recorded, and so was not run, before. -/
theorem Orderly.andThen (first : Orderly resolver inside before (.ok ()) middle ran)
    (second : Orderly resolver inside middle outcome after others)
    (started : ∀ ref, before.isRecorded ref = true → middle.isRecorded ref = true)
    (kept : ∀ ref, middle.isRecorded ref = true → after.isRecorded ref = true) :
    Orderly resolver inside before outcome after (ran ++ others) where
  ready := List.forall_mem_append.mpr ⟨first.ready, second.ready⟩
  fresh := List.forall_mem_append.mpr ⟨first.fresh, second.fresh⟩
  outside := List.forall_mem_append.mpr ⟨first.outside, second.outside⟩
  new := by
    refine List.forall_mem_append.mpr ⟨first.new, fun run member => ?_⟩
    rw [← Bool.not_eq_true]
    intro recorded
    have missing := second.new run member
    rw [started run.1 recorded] at missing
    cases missing
  distinct := by
    rw [List.map_append]
    refine List.nodup_append.mpr ⟨first.distinct, second.distinct, ?_⟩
    intro plugin earlier other later same
    obtain ⟨run, member, rfl⟩ := List.mem_map.mp earlier
    obtain ⟨again, memberLater, rfl⟩ := List.mem_map.mp later
    have recorded := first.settled rfl run member
    have missing := second.new again memberLater
    rw [← same, recorded] at missing
    cases missing
  definitions := List.forall_mem_append.mpr
    ⟨fun run member _ _ => kept run.1 (first.settled rfl run member), second.definitions⟩
  settled := fun ended => List.forall_mem_append.mpr
    ⟨fun run member => kept run.1 (first.settled rfl run member), second.settled ended⟩

/-- A plugin is run among those that are run inside of it: after its dependencies, and before what
replaces it. -/
theorem Orderly.insert {ref : PluginRef}
    (orderly : Orderly resolver (ref :: inside) before outcome after ran)
    (inserted : others.Perm ((ref, middle) :: ran))
    (outside : ref ∉ inside) (new : before.isRecorded ref = false)
    (fresh : middle.isRecorded ref = false)
    (ready : ∀ next, resolver.graph.Declares ref next → middle.isRecorded next = true)
    (definition : ∀ id, ref = .definition id → after.isRecorded ref = true)
    (settled : outcome = .ok () → after.isRecorded ref = true) :
    Orderly resolver inside before outcome after others := by
  have split {holds : PluginRef × Resolution → Prop} (own : holds (ref, middle))
      (rest : ∀ run ∈ ran, holds run) : ∀ run ∈ others, holds run := fun run member =>
    List.forall_mem_cons.mpr ⟨own, rest⟩ run (inserted.mem_iff.mp member)
  exact {
    ready := split ready orderly.ready
    fresh := split fresh orderly.fresh
    outside := split outside orderly.leave.outside
    new := split new orderly.new
    distinct := by
      refine (inserted.map Prod.fst).nodup_iff.mpr (List.nodup_cons.mpr ⟨?_, orderly.distinct⟩)
      intro again
      obtain ⟨run, member, same⟩ := List.mem_map.mp again
      exact orderly.outside run member (same ▸ List.mem_cons_self)
    definitions := split definition orderly.definitions
    settled := fun ended => split (settled ended) (orderly.settled ended) }

/-- On a walk plugins are run in order. -/
theorem Runs.orderly {inside : List PluginRef} {errand : Errand} {start finish : Progress σ}
    {outcome : Except Halt Unit} (runs : Runs resolver clock inside errand start outcome finish)
    (due : errand.IsDue inside start.resolution) :
    ∃ ran, invocations finish.journal = invocations start.journal ++ ran ∧
      Orderly resolver inside start.resolution outcome finish.resolution ran := by
  -- What a plugin leads to is run inside of it, and so it is not among them; what is run later was
  -- unrecorded, unlike what was run before it.
  induction runs with
  | idle | stuck | propagated | absorbed | done => exact ⟨[], (List.append_nil _).symm, .nil⟩
  | definition found fresh outside dependencies ih =>
      obtain ⟨ran, journal, orderly⟩ := ih (List.forall_mem_nil _)
      have recorded := dependencies.dependencies_recorded fun _ => declares_definition_iff found
      refine ⟨_, ?_, (orderly.later fun ref known => ?_).insert (List.perm_append_singleton _ _)
        outside fresh (dependencies.unrecorded_self fresh)
        (fun next declared => recorded next ((declares_definition_iff found).mp declared)) ?_ ?_⟩
      · rw [runDefinition_invocations, journal, List.append_assoc]
      · simp [runDefinition_resolution, known]
      · simp [runDefinition_resolution]
      · simp [runDefinition_resolution]
  | definitionHalted _ _ _ _ ih =>
      obtain ⟨ran, journal, orderly⟩ := ih (List.forall_mem_nil _)
      exact ⟨ran, journal, orderly.leave⟩
  | passedOver _ fresh _ clockRead _ _ ih =>
      obtain ⟨-, rfl⟩ := readClock_eq clockRead
      obtain ⟨ran, journal, orderly⟩ := ih (isDue_replace fresh)
      rw [invocations_passedOver] at journal
      exact ⟨ran, journal, orderly.leave⟩
  | connectorHalted _ _ _ clockRead _ _ ih =>
      obtain ⟨-, rfl⟩ := readClock_eq clockRead
      obtain ⟨ran, journal, orderly⟩ := ih (List.forall_mem_nil _)
      exact ⟨ran, journal, orderly.leave⟩
  | fetched found fresh outside clockRead _ dependencies answered ih =>
      obtain ⟨-, rfl⟩ := readClock_eq clockRead
      obtain ⟨ran, journal, orderly⟩ := ih (List.forall_mem_nil _)
      have recorded := dependencies.dependencies_recorded fun _ => declares_connector_iff found
      have fetched := fetched_of_fetchConnector answered
      refine ⟨_, ?_, (orderly.later fun ref known => ?_).insert (List.perm_append_singleton _ _)
        outside fresh (dependencies.unrecorded_self fresh)
        (fun next declared => recorded next ((declares_connector_iff found).mp declared)) nofun ?_⟩
      · exact fetched.invocations.trans (by rw [journal, List.append_assoc])
      · simp [Progress.recordConnector, fetched.resolution, known]
      · simp [Progress.recordConnector]
  | fetchFailed found fresh outside clockRead _ dependencies failed replaced ihDependencies
      ihReplaced =>
      obtain ⟨-, rfl⟩ := readClock_eq clockRead
      obtain ⟨ran, journal, orderly⟩ := ihDependencies (List.forall_mem_nil _)
      have recorded := dependencies.dependencies_recorded fun _ => declares_connector_iff found
      have fetched := fetched_of_fetchConnector failed
      have still := dependencies.unrecorded_self fresh
      have due := still
      rw [← fetched.resolution] at due
      obtain ⟨others, journalReplaced, orderlyReplaced⟩ := ihReplaced (isDue_replace due)
      have grows := replaced.grows (isDue_replace due)
      rw [fetched.resolution] at orderlyReplaced grows
      have whole := orderly.andThen orderlyReplaced
        (fun _ => (dependencies.grows (List.forall_mem_nil _)).extended.isRecorded)
        fun _ => grows.extended.isRecorded
      refine ⟨_, ?_, whole.insert List.perm_middle outside fresh still
        (fun next declared => recorded next ((declares_connector_iff found).mp declared)) nofun
        fun ended => replaced.settles ended _ List.mem_cons_self
          ((resolver.connectors.contains_iff _).mpr ⟨_, found⟩)⟩
      rw [journalReplaced, fetched.invocations, journal, List.append_assoc, List.append_assoc,
        List.singleton_append]
  | failedOver named resolved ih =>
      obtain ⟨ran, journal, orderly⟩ := ih (List.forall_mem_nil _)
      refine ⟨ran, journal, orderly.later fun ref recorded => ?_⟩
      simp [Progress.recordConnector, recorded]
  | failoverHalted _ _ ih => exact ih (List.forall_mem_nil _)
  | next first others ihFirst ihOthers =>
      obtain ⟨ran, journal, orderly⟩ := ihFirst (List.forall_mem_nil _)
      obtain ⟨later, journalLater, orderlyLater⟩ := ihOthers (List.forall_mem_nil _)
      refine ⟨ran ++ later, by rw [journalLater, journal, List.append_assoc], ?_⟩
      exact orderly.andThen orderlyLater
        (fun _ => (first.grows (List.forall_mem_nil _)).extended.isRecorded)
        fun _ => (others.grows (List.forall_mem_nil _)).extended.isRecorded
  | halted _ ih => exact ih (List.forall_mem_nil _)

/-- A journal is only written on. -/
theorem journal_stepLaw (resolver : Resolver σ) (clock : σ → Instant × σ) :
    StepLaw resolver clock fun before after => before.journal <+: after.journal where
  refl := fun _ => List.prefix_rfl
  trans := List.IsPrefix.trans
  reads := fun _ => List.prefix_rfl
  passes := fun _ _ => List.prefix_append _ _
  defines := fun {id definition} _ progress => by
    obtain ⟨events, -, journal⟩ := runDefinition_journal id definition progress
    exact ⟨events, journal.symm⟩
  fetches := fun {id connector} _ progress => by
    obtain ⟨events, -, journal⟩ := fetchConnector_journal clock id connector progress
    exact ⟨events, journal.symm⟩
  records := fun _ _ => List.prefix_rfl

/-! ## Several calls -/

/-- What is done with the state of a request: other attributes are asked for or supplied, the
request is resolved, in some world and after some failures, or what is released is taken out. -/
inductive Use (σ : Type) where
  | ask (requestedIds : List String) (inbound : AttributeMap)
  | resolve (world : σ) (failures : FailureLog)
  | takeReleased

/-- The plugins that a use runs, and the state of the request after it. -/
def Use.perform (resolver : Resolver σ) (clock : σ → Instant × σ) (resolution : Resolution) :
    Use σ → List (PluginRef × Resolution) × Resolution
  | .ask requestedIds inbound => ([], { resolution with requestedIds, inbound })
  | .resolve world failures =>
    let progress := (Resolver.resolve resolver clock { world, failures, resolution }).2
    (invocations progress.journal, progress.resolution)
  | .takeReleased => ([], resolution.takeReleased.2)

/-- The plugins that are run by each of several uses in turn. -/
def performAll (resolver : Resolver σ) (clock : σ → Instant × σ) :
    Resolution → List (Use σ) → List (List (PluginRef × Resolution))
  | _, [] => []
  | resolution, use :: rest =>
    let (ran, after) := use.perform resolver clock resolution
    ran :: performAll resolver clock after rest

/-- A call keeps records and runs plugins in order. -/
theorem resolve_orderly (resolver : Resolver σ) (clock : σ → Instant × σ) :
    (resolve resolver clock).Obeys fun before outcome after =>
      before.resolution.Extends after.resolution ∧
        ∃ ran, invocations after.journal = invocations before.journal ++ ran ∧
          Orderly resolver [] before.resolution outcome after.resolution ran := by
  refine resolve_obeys ?_ (fun refs progress => ?_) fun progress _ _ => ?_
  · rintro before middle after outcome ⟨extended, ran, journal, orderly⟩
      ⟨extendedLater, later, journalLater, orderlyLater⟩
    refine ⟨extended.trans extendedLater, ran ++ later, ?_, ?_⟩
    · rw [journalLater, journal, List.append_assoc]
    · exact orderly.andThen orderlyLater (fun _ => extended.isRecorded)
        fun _ => extendedLater.isRecorded
  · have runs : Runs resolver clock [] (.visitAll refs) progress _ _ := runs_visitAll refs progress
    exact ⟨(runs.grows nofun).extended, runs.orderly nofun⟩
  · exact ⟨⟨rfl, rfl, fun _ _ found => found, fun _ _ found => found⟩, [],
      (List.append_nil _).symm, .nil⟩

/-- A use keeps records and runs plugins in order. -/
theorem Use.perform_orderly (resolver : Resolver σ) (clock : σ → Instant × σ)
    (resolution : Resolution) (use : Use σ) :
    (∀ ref, resolution.isRecorded ref = true →
      (use.perform resolver clock resolution).2.isRecorded ref = true) ∧
      ∃ outcome, Orderly resolver [] resolution outcome (use.perform resolver clock resolution).2
        (use.perform resolver clock resolution).1 := by
  cases use with
  | ask requestedIds inbound =>
      exact ⟨fun ref recorded => by cases ref <;> exact recorded, .ok (), .nil⟩
  | takeReleased =>
      exact ⟨fun ref recorded => by cases ref <;> exact recorded, .ok (), .nil⟩
  | resolve world failures =>
      obtain ⟨extended, ran, journal, orderly⟩ :=
        resolve_orderly resolver clock { world, failures, resolution }
      refine ⟨fun _ => extended.isRecorded,
        (Resolver.resolve resolver clock { world, failures, resolution }).1, ?_⟩
      simp only [perform, journal]
      exact orderly

/-- What has a record is not run by any use. -/
theorem performAll_new (uses : List (Use σ)) (resolution : Resolution) {ref : PluginRef}
    (recorded : resolution.isRecorded ref = true) :
    ref ∉ (performAll resolver clock resolution uses).flatten.map Prod.fst := by
  induction uses generalizing resolution with
  | nil => exact List.not_mem_nil
  | cons use rest ih =>
      obtain ⟨kept, outcome, orderly⟩ := use.perform_orderly resolver clock resolution
      rw [performAll, List.flatten_cons, List.map_append, List.mem_append]
      rintro (first | later)
      · obtain ⟨run, member, rfl⟩ := List.mem_map.mp first
        cases recorded.symm.trans (orderly.new run member)
      · exact ih _ (kept ref recorded) later

/-- No definition is run twice by all uses together. -/
theorem performAll_count_definition (uses : List (Use σ)) (resolution : Resolution)
    (id : String) :
    ((performAll resolver clock resolution uses).flatten.map Prod.fst).count
      (.definition id) ≤ 1 := by
  induction uses generalizing resolution with
  | nil => exact Nat.zero_le 1
  | cons use rest ih =>
      obtain ⟨-, outcome, orderly⟩ := use.perform_orderly resolver clock resolution
      rw [performAll, List.flatten_cons, List.map_append, List.count_append]
      by_cases first : .definition id ∈
          (use.perform resolver clock resolution).1.map Prod.fst
      · obtain ⟨run, member, named⟩ := List.mem_map.mp first
        have recorded := orderly.definitions run member id named
        rw [named] at recorded
        rw [List.count_eq_zero.mpr (performAll_new rest _ recorded), Nat.add_zero]
        exact List.nodup_iff_count_le_one.mp orderly.distinct _
      · rw [List.count_eq_zero.mpr first, Nat.zero_add]
        exact ih _

/-- Whatever is done with the state of a request, a plugin is only run when all of its dependencies
have records and it has none itself; no call runs a plugin twice; all calls together run no
definition twice; and what has a record is not run again. No call is cut short because it would
enter a plugin again. -/
theorem runs_once_after_dependencies (resolver : Resolver σ) (clock : σ → Instant × σ)
    (resolution : Resolution) (uses : List (Use σ)) :
    (∀ ran ∈ performAll resolver clock resolution uses, ∀ run ∈ ran,
        (∀ next, resolver.graph.Declares run.1 next → run.2.isRecorded next = true) ∧
          run.2.isRecorded run.1 = false) ∧
      (∀ ran ∈ performAll resolver clock resolution uses, (ran.map Prod.fst).Nodup) ∧
      (∀ id, ((performAll resolver clock resolution uses).flatten.map Prod.fst).count
        (.definition id) ≤ 1) ∧
      (∀ ref, resolution.isRecorded ref = true →
        ref ∉ (performAll resolver clock resolution uses).flatten.map Prod.fst) ∧
      ∀ progress plugin, (resolve resolver clock progress).1 ≠ .error (.reentered plugin) := by
  have each : ∀ ran ∈ performAll resolver clock resolution uses, ∃ before outcome after,
      Orderly resolver [] before outcome after ran := by
    induction uses generalizing resolution with
    | nil => exact fun _ member => (List.not_mem_nil member).elim
    | cons use rest ih =>
        obtain ⟨-, outcome, orderly⟩ := use.perform_orderly resolver clock resolution
        exact List.forall_mem_cons.mpr ⟨⟨resolution, outcome, _, orderly⟩, ih _⟩
  refine ⟨fun ran member run memberRun => ?_, fun ran member => ?_,
    performAll_count_definition uses resolution, fun _ => performAll_new uses resolution,
    resolve_not_reentered resolver clock⟩
  · obtain ⟨before, outcome, after, orderly⟩ := each ran member
    exact ⟨orderly.ready run memberRun, orderly.fresh run memberRun⟩
  · obtain ⟨before, outcome, after, orderly⟩ := each ran member
    exact orderly.distinct

/-- Connectors of an institution whose directory is out of reach and whose index does not answer;
both fail over to one backup. An archive without a result may be missed. -/
def outageConnectors : Keyed fun connector : Connector Unit => connector.settings.id :=
  (((Keyed.add .empty
    ⟨{ id := "directory", failover := some "backup", noRetryDelay := 60000000000 },
      .pure fun _ => .error (.failed "directory" "out of reach" none)⟩).add
    ⟨{ id := "index", failover := some "backup" },
      .pure fun _ => .error (.failed "index" "no answer" none)⟩).add
    ⟨{ id := "archive", propagateErrors := false, noResultIsError := true },
      .pure fun _ => .ok none⟩).add
    (staticConnector { id := "backup" } (.ofList [("mail", ⟨"mail", [.ofText "a@b"], ∅, ∅⟩)]))

/-- Definitions that read the directory and the index, and the archive after these. -/
def outageDefinitions : Keyed fun definition : Definition Unit => definition.settings.id :=
  (Keyed.add .empty
    (DefinitionKind.simple.toDefinition
      { id := "mail", dependencies := { connectors := [⟨"directory", []⟩, ⟨"index", []⟩] } })).add
    (DefinitionKind.simple.toDefinition
      { id := "contact"
        dependencies := { attributes := ["mail"], connectors := [⟨"archive", []⟩] } })

/-- A resolver during an outage. -/
def outage : Resolver Unit where
  id := "campus"
  definitions := outageDefinitions.1
  connectors := outageConnectors.1
  stripNulls := false
  suppressDisplay := false
  definitions_keyed := outageDefinitions.2
  connectors_keyed := outageConnectors.2
  accepted := by decide +kernel

/-- The failures at the start of an outage: the directory failed at the epoch. -/
def outageFailures : FailureLog :=
  ⟨.ofList [("directory", some 0), ("index", none), ("archive", none), ("backup", none)]⟩

/-- A clock that stands still a millisecond later. -/
def outageClock (world : Unit) : Instant × Unit := (1000000, world)

/-- A request is resolved, what is released is taken out, and the request is resolved again. -/
def outageUses : List (Use Unit) :=
  [.resolve () outageFailures, .takeReleased, .resolve () outageFailures]

/-- While the directory is not tried again it is passed over, the backup is run for it and for the
index together, and a second call runs nothing. -/
theorem runs_once_outage :
    (performAll outage outageClock {} outageUses).map (List.map Prod.fst) =
        [[.connector "backup", .connector "index", .definition "mail", .connector "archive",
          .definition "contact"], [], []] ∧
      ∀ ran ∈ performAll outage outageClock {} outageUses, (ran.map Prod.fst).Nodup :=
  ⟨by decide +kernel, (runs_once_after_dependencies outage outageClock {} outageUses).2.1⟩

end AttributeRelease.Resolver
