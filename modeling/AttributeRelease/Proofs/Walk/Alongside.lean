import AttributeRelease.Proofs.Release.Precedence
import AttributeRelease.Proofs.Walk.Evaluation
import AttributeRelease.Proofs.Walk.Failures

/-!
# Requests side by side

Two requests that differ in nothing that plugins depend on, and that ask for the same definitions,
are resolved side by side, however they name these definitions and whatever their worlds are
(`resolve_parallel`): each step does the same to both (`Step.Parallel`).
-/

namespace AttributeRelease.Resolver

variable {σ : Type} {resolver : Resolver σ} {clock : σ → Instant × σ} {now : Instant}

/-- Two requests have come equally far. They may name what they ask for in different ways, and their
worlds may differ. -/
structure Alongside (resolver : Resolver σ) (first second : Progress σ) : Prop where
  request : first.resolution.request = second.resolution.request
  inbound : first.resolution.inbound = second.resolution.inbound
  requested : requestedIds resolver first.resolution = requestedIds resolver second.resolution
  definitions : first.resolution.definitions = second.resolution.definitions
  connectors : first.resolution.connectors = second.resolution.connectors
  preResolved : first.resolution.preResolved = second.resolution.preResolved
  released : first.resolution.released = second.resolution.released
  failures : first.failures = second.failures
  events : first.journal.map Event.plugin = second.journal.map Event.plugin

/-- A step does the same to two requests that have come equally far. -/
def Step.Parallel (resolver : Resolver σ) (step : Step σ) : Prop :=
  ∀ first second, Alongside resolver first second →
    (step first).1 = (step second).1 ∧ Alongside resolver (step first).2 (step second).2

variable {first second : Progress σ}

/-- Plugins are shown the same in two states that go alongside. -/
theorem Alongside.agreesOn (alongside : Alongside resolver first second)
    (dependencies : Dependencies) :
    first.resolution.AgreesOn dependencies second.resolution where
  request := alongside.request
  inbound := alongside.inbound
  definitions := fun id _ => by rw [alongside.definitions]
  connectors := fun id _ => by rw [alongside.connectors]

theorem Alongside.sameRecords (alongside : Alongside resolver first second) :
    first.resolution.SameRecords second.resolution :=
  ⟨alongside.definitions, alongside.connectors⟩

/-! ## Changes of the progress -/

theorem Alongside.note (alongside : Alongside resolver first second) {event other : Event}
    (same : event.plugin = other.plugin) :
    Alongside resolver (first.note event) (second.note other) where
  __ := alongside
  events := by simp [Progress.note, alongside.events, same]

theorem Alongside.inWorlds (alongside : Alongside resolver first second) (world other : σ) :
    Alongside resolver { first with world := world } { second with world := other } where
  __ := alongside

/-- They stay alongside when both record the same result. -/
theorem Alongside.recordDefinition (alongside : Alongside resolver first second)
    (record : DefinitionRecord) :
    Alongside resolver (first.recordDefinition record) (second.recordDefinition record) where
  __ := alongside
  definitions := by
    simp only [Progress.recordDefinition, Resolution.recordDefinition, alongside.definitions]

theorem Alongside.recordConnector (alongside : Alongside resolver first second)
    (record : ConnectorRecord) :
    Alongside resolver (first.recordConnector record) (second.recordConnector record) where
  __ := alongside
  connectors := by
    simp only [Progress.recordConnector, Resolution.recordConnector, alongside.connectors]

/-- A clock that stands still shows both the same. -/
theorem Alongside.readClock (steady : ∀ world, (clock world).1 = now)
    (alongside : Alongside resolver first second) :
    (first.readClock clock).1 = (second.readClock clock).1 ∧
      Alongside resolver (first.readClock clock).2 (second.readClock clock).2 :=
  ⟨(steady _).trans (steady _).symm, alongside.inWorlds _ _⟩

/-- A plugin that depends on nothing else answers both the same. -/
theorem Alongside.run {α : Type} {action : Action σ α} {dependencies : Dependencies}
    (depends : action.DependsOn dependencies) (alongside : Alongside resolver first second)
    (plugin : PluginRef) :
    (first.run plugin action).1 = (second.run plugin action).1 ∧
      Alongside resolver (first.run plugin action).2 (second.run plugin action).2 := by
  refine ⟨depends _ _ _ _ (alongside.agreesOn dependencies), ?_⟩
  have noted : Alongside resolver (first.note (.ran plugin first.resolution))
      (second.note (.ran plugin second.resolution)) := alongside.note rfl
  exact noted.inWorlds _ _

/-- They stay alongside when the same outcome of a plugin is written down in both. -/
theorem Alongside.noteOutcome {α : Type} (alongside : Alongside resolver first second)
    (plugin : PluginRef) (outcome : Except ResolutionError α) :
    Alongside resolver (first.noteOutcome plugin outcome) (second.noteOutcome plugin outcome) := by
  cases outcome with
  | ok value => exact alongside
  | error error => exact alongside.note rfl

/-! ## Steps -/

theorem Step.parallel_pass : Step.Parallel resolver fun progress => (.ok (), progress) :=
  fun _ _ alongside => ⟨rfl, alongside⟩

theorem Step.parallel_halt (halt : Halt) :
    Step.Parallel resolver fun progress => (.error halt, progress) :=
  fun _ _ alongside => ⟨rfl, alongside⟩

/-- What is parallel part by part is parallel as a whole. -/
theorem Step.Parallel.andThen {left right : Step σ} (first : left.Parallel resolver)
    (second : right.Parallel resolver) : (Step.andThen left right).Parallel resolver := by
  intro progress other alongside
  obtain ⟨outcomes, come⟩ := first progress other alongside
  rw [Step.andThen_eq, Step.andThen_eq, ← outcomes]
  cases (left progress).1 with
  | ok done => exact second _ _ come
  | error halt => exact ⟨rfl, come⟩

/-- Visiting one plugin after another is parallel if each visit is. -/
theorem Step.Parallel.forEach {step : PluginRef → Step σ}
    (each : ∀ ref, (step ref).Parallel resolver) (refs : List PluginRef) :
    (Step.forEach step refs).Parallel resolver := by
  induction refs with
  | nil => exact Step.parallel_pass
  | cons ref rest ih => exact (each ref).andThen ih

/-- Definitions that depend on nothing but what they are shown run in parallel. -/
theorem runDefinition_parallel (determined : resolver.Determined) {id : String}
    {definition : Definition σ} (found : resolver.definitions.get? id = some definition) :
    (runDefinition id definition).Parallel resolver := by
  intro progress other alongside
  obtain ⟨answers, ran⟩ :=
    alongside.run (determined.definitions id definition found) (.definition id)
  refine ⟨rfl, ?_⟩
  simp only [runDefinition]
  rw [answers]
  exact (ran.noteOutcome _ _).recordDefinition _

/-- A connector is replaced in the same way in states that go alongside. -/
theorem replaceConnector_parallel {visit : PluginRef → Step σ}
    (each : ∀ ref, (visit ref).Parallel resolver) (id : String) (settings : ConnectorSettings)
    (reason : ResolutionError) :
    (replaceConnector visit id settings reason).Parallel resolver := by
  unfold replaceConnector
  split
  · rename_i next _
    refine (each (.connector next)).andThen fun progress other alongside => ⟨rfl, ?_⟩
    have same : substituteRecord progress.resolution id next =
        substituteRecord other.resolution id next := by
      rw [substituteRecord, substituteRecord, alongside.connectors]
    rw [same]
    exact alongside.recordConnector _
  · split
    · exact Step.parallel_halt _
    · exact fun _ _ alongside => ⟨rfl, alongside.recordConnector _⟩

/-- When the clock stands still, both states note a failure at the same instant. -/
theorem Alongside.noteFailure (steady : ∀ world, (clock world).1 = now)
    (alongside : Alongside resolver first second) (id : String) (error : ResolutionError) :
    Alongside resolver (noteFailure clock id error first) (noteFailure clock id error second) := by
  have noted : Alongside resolver (first.note (.failed (.connector id) error))
      (second.note (.failed (.connector id) error)) := alongside.note rfl
  simp only [Resolver.noteFailure]
  split
  · obtain ⟨instants, read⟩ := noted.readClock steady
    rw [instants]
    exact { read with failures := by rw [read.failures] }
  · exact noted

/-- A connector that depends on nothing but what it is shown gives both states the same answer. -/
theorem Alongside.fetchConnector (steady : ∀ world, (clock world).1 = now)
    (determined : resolver.Determined) (alongside : Alongside resolver first second) {id : String}
    {connector : Connector σ} (found : resolver.connectors.get? id = some connector) :
    (fetchConnector clock id connector first).1 = (fetchConnector clock id connector second).1 ∧
      Alongside resolver (fetchConnector clock id connector first).2
        (fetchConnector clock id connector second).2 := by
  obtain ⟨answers, ran⟩ :=
    alongside.run (determined.connectors id connector found) (.connector id)
  simp only [Resolver.fetchConnector]
  rw [answers]
  split
  · exact ⟨rfl, ran⟩
  · exact ⟨rfl, ran.noteFailure steady id _⟩

/-- Resolving a connector is parallel, since both states have the same no-retry windows. -/
theorem resolveConnector_parallel (steady : ∀ world, (clock world).1 = now)
    (determined : resolver.Determined) {visit : PluginRef → Step σ}
    (each : ∀ ref, (visit ref).Parallel resolver) {id : String} {connector : Connector σ}
    (found : resolver.connectors.get? id = some connector) :
    (resolveConnector clock visit id connector).Parallel resolver := by
  have replaced := replaceConnector_parallel each id connector.settings
  have run : (runConnector clock visit id connector).Parallel resolver := by
    intro progress other alongside
    obtain ⟨answers, ran⟩ := alongside.fetchConnector steady determined found
    simp only [runConnector]
    rcases fetched : fetchConnector clock id connector progress with ⟨answer, after⟩
    rcases fetchedOther : fetchConnector clock id connector other with ⟨same, afterOther⟩
    rw [fetched, fetchedOther] at answers ran
    cases answers
    cases answer with
    | ok attributes => exact ⟨rfl, ran.recordConnector _⟩
    | error error => exact replaced error _ _ ran
  intro progress other alongside
  obtain ⟨instants, read⟩ := alongside.readClock steady
  simp only [resolveConnector]
  rw [instants, read.failures]
  split
  · exact replaced _ _ _ (read.note rfl)
  · exact (Step.Parallel.forEach each _).andThen run _ _ read

/-! ## Visits and requests -/

/-- Resolving any plugin is parallel if the visits inside of it are. -/
theorem enter_parallel (steady : ∀ world, (clock world).1 = now)
    (determined : resolver.Determined) {visit : PluginRef → Step σ}
    (each : ∀ ref, (visit ref).Parallel resolver) (ref : PluginRef) :
    (enter resolver clock visit ref).Parallel resolver := by
  cases ref with
  | definition id =>
      simp only [enter]
      cases found : resolver.definitions.get? id with
      | none => exact Step.parallel_pass
      | some definition =>
          exact (Step.Parallel.forEach each _).andThen (runDefinition_parallel determined found)
  | connector id =>
      simp only [enter]
      cases found : resolver.connectors.get? id with
      | none => exact Step.parallel_pass
      | some connector => exact resolveConnector_parallel steady determined each found

/-- A plugin is visited for both in the same way. -/
theorem visit_parallel (steady : ∀ world, (clock world).1 = now)
    (determined : resolver.Determined) (depth : Nat) (inside : List PluginRef) (ref : PluginRef) :
    (visit resolver clock depth inside ref).Parallel resolver := by
  induction depth generalizing inside ref with
  | zero =>
      intro progress other alongside
      rw [visit, visit, alongside.sameRecords.isRecorded]
      split
      · exact ⟨rfl, alongside⟩
      · split <;> exact ⟨rfl, alongside⟩
  | succ depth ih =>
      intro progress other alongside
      rw [visit, visit, alongside.sameRecords.isRecorded]
      split
      · exact ⟨rfl, alongside⟩
      · split
        · exact ⟨rfl, alongside⟩
        · exact enter_parallel steady determined (ih _) ref progress other alongside

/-- What is resolved before all else is resolved in parallel. -/
theorem preResolve_parallel (steady : ∀ world, (clock world).1 = now)
    (determined : resolver.Determined) : (preResolve resolver clock).Parallel resolver := by
  intro progress other alongside
  unfold preResolve
  split
  · exact ⟨rfl, alongside⟩
  · refine (Step.Parallel.forEach (visit_parallel steady determined _ _) _).andThen ?_ _ _ alongside
    intro visited visitedOther come
    exact ⟨rfl, { come with preResolved := definedAttributes_congr come.sameRecords true }⟩

/-- Requests that differ in nothing but how they name the same definitions end in the same way. -/
theorem resolve_parallel (steady : ∀ world, (clock world).1 = now)
    (determined : resolver.Determined) : (resolve resolver clock).Parallel resolver := by
  have visits : ∀ refs, (visitAll resolver clock refs).Parallel resolver :=
    Step.Parallel.forEach (visit_parallel steady determined _ _)
  have asked : Step.Parallel resolver fun progress => visitAll resolver clock
      ((requestedIds resolver progress.resolution).map .definition) progress := by
    intro progress other alongside
    simp only
    rw [alongside.requested]
    exact visits _ progress other alongside
  have releases : (setReleased resolver).Parallel resolver := by
    intro progress other alongside
    exact ⟨rfl, { alongside with released := releasedAttributes_congr alongside.sameRecords }⟩
  exact (preResolve_parallel steady determined).andThen
    ((visits _).andThen (asked.andThen releases))

end AttributeRelease.Resolver
