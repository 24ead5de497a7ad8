import AttributeRelease.Proofs.Walk.Faithfulness
import AttributeRelease.Proofs.Walk.Invocations
import AttributeRelease.Proofs.Walk.Residue
import AttributeRelease.Proofs.Walk.Windows

/-!
# What a request needs

A request needs the plugins that it visits from outside, the dependencies of definitions and of the
connectors that are run, and the failovers of the connectors that have no usable result. When it
succeeds, it has recorded exactly these (`resolve_records_needed`): whatever is visited is needed
(`Visits.needed_of`), and whatever is written down was visited (`resolve_happens`).
-/

namespace AttributeRelease.Resolver

variable {σ : Type} {resolver : Resolver σ} {clock : σ → Instant × σ} {start : Progress σ}

/-- The plugins that are needed when some are asked for: the least set that has these, with a
definition its dependencies, with a connector that is run its dependencies, and with one that turns
out to be unusable its failover. -/
inductive Needed (resolver : Resolver σ) (asked : PluginRef → Prop) (run unusable : String → Prop) :
    PluginRef → Prop
  | asked {ref : PluginRef} (asks : asked ref) : Needed resolver asked run unusable ref
  | ofDefinition {id : String} {next : PluginRef}
      (needed : Needed resolver asked run unusable (.definition id))
      (declared : resolver.graph.Declares (.definition id) next) :
      Needed resolver asked run unusable next
  | ofConnector {id : String} {next : PluginRef}
      (needed : Needed resolver asked run unusable (.connector id)) (ran : run id)
      (declared : resolver.graph.Declares (.connector id) next) :
      Needed resolver asked run unusable next
  | failover {id next : String} (needed : Needed resolver asked run unusable (.connector id))
      (failed : unusable id) (named : resolver.graph.FailsOver id next) :
      Needed resolver asked run unusable (.connector next)

/-- When more is asked for, more is needed. -/
theorem Needed.mono {asked more : PluginRef → Prop} {run unusable : String → Prop}
    {ref : PluginRef} (included : ∀ other, asked other → more other)
    (needed : Needed resolver asked run unusable ref) : Needed resolver more run unusable ref := by
  induction needed with
  | asked asks => exact .asked (included _ asks)
  | ofDefinition _ declared ih => exact .ofDefinition ih declared
  | ofConnector _ ran declared ih => exact .ofConnector ih ran declared
  | failover _ failed named ih => exact .failover ih failed named

/-- A journal tells that a connector was run. -/
def WasRun (journal : List Event) (id : String) : Prop :=
  ∃ seen, .ran (.connector id) seen ∈ journal

/-- A journal tells that a connector had no usable result: it was passed over in its no-retry
window, or it failed. -/
def WasUnusable (journal : List Event) (id : String) : Prop :=
  .passedOver id ∈ journal ∨ ∃ error, .failed (.connector id) error ∈ journal

/-! ## What a journal tells -/

/-- A request visits a plugin that has no record. -/
def Enters (resolver : Resolver σ) (clock : σ → Instant × σ) (start : Progress σ)
    (ref : PluginRef) : Prop :=
  ∃ inside before, Visits resolver clock start inside ref before ∧
    hasPlugin resolver ref = true ∧ before.resolution.isRecorded ref = false

/-- A request comes to run a connector. -/
def IsInvoked (resolver : Resolver σ) (clock : σ → Instant × σ) (start : Progress σ)
    (id : String) : Prop :=
  ∃ connector moment, Invokes resolver clock start id connector moment

/-- A request visits a connector without a record that has no usable result. -/
def IsUnusable (resolver : Resolver σ) (clock : σ → Instant × σ) (start : Progress σ)
    (id : String) : Prop :=
  ∃ inside connector before reason after, Visits resolver clock start inside (.connector id) before ∧
    resolver.connectors.get? id = some connector ∧
    before.resolution.isRecorded (.connector id) = false ∧
    Unusable resolver clock inside id connector before reason after

/-- What an event tells of a request is so. -/
def Event.Happens (resolver : Resolver σ) (clock : σ → Instant × σ) (start : Progress σ) :
    Event → Prop
  | .ran (.connector id) _ => IsInvoked resolver clock start id
  | .failed (.connector id) _ => IsUnusable resolver clock start id
  | .passedOver id => IsUnusable resolver clock start id
  | .ran (.definition id) _ => Enters resolver clock start (.definition id)
  | .failed (.definition id) _ => Enters resolver clock start (.definition id)

theorem IsInvoked.enters {id : String} (invoked : IsInvoked resolver clock start id) :
    Enters resolver clock start (.connector id) := by
  obtain ⟨connector, moment, invokes⟩ := invoked
  cases invokes with
  | intro visits found fresh => exact ⟨_, _, visits, hasPlugin_connector found, fresh⟩

theorem IsUnusable.enters {id : String} (unusable : IsUnusable resolver clock start id) :
    Enters resolver clock start (.connector id) := by
  obtain ⟨inside, connector, before, reason, after, visits, found, fresh, -⟩ := unusable
  exact ⟨inside, before, visits, hasPlugin_connector found, fresh⟩

/-- Events are about plugins that the request enters. -/
theorem Event.Happens.enters {event : Event} (happens : event.Happens resolver clock start) :
    Enters resolver clock start event.plugin := by
  cases event with
  | ran plugin seen =>
      cases plugin with
      | definition id => exact happens
      | connector id => exact IsInvoked.enters happens
  | failed plugin error =>
      cases plugin with
      | definition id => exact happens
      | connector id => exact IsUnusable.enters happens
  | passedOver id => exact IsUnusable.enters happens

/-- All that a journal tells of a request is so. -/
def Progress.Tells (resolver : Resolver σ) (clock : σ → Instant × σ) (start progress : Progress σ) :
    Prop :=
  ∀ event ∈ progress.journal, event.Happens resolver clock start

theorem Progress.Tells.append {progress other : Progress σ} {events : List Event}
    (tells : start.Tells resolver clock progress)
    (journal : other.journal = progress.journal ++ events)
    (new : ∀ event ∈ events, event.Happens resolver clock start) :
    start.Tells resolver clock other := by
  intro event member
  rw [journal] at member
  rcases List.mem_append.mp member with earlier | later
  · exact tells event earlier
  · exact new event later

/-- When a connector is run, its journal tells of that alone unless it fails. -/
theorem fetchConnector_journal_ok {id : String} {connector : Connector σ} {before after : Progress σ}
    {attributes : Option AttributeMap}
    (answered : fetchConnector clock id connector before = (.ok attributes, after)) :
    after.journal = before.journal ++ [.ran (.connector id) before.resolution] := by
  simp only [fetchConnector, Progress.run] at answered
  split at answered
  · cases answered
    rfl
  · cases answered

/-- When a connector fails, the journal tells that it was run and then that it failed. -/
theorem fetchConnector_journal_error {id : String} {connector : Connector σ}
    {before after : Progress σ} {error : ResolutionError}
    (failed : fetchConnector clock id connector before = (.error error, after)) :
    after.journal = before.journal ++
      [.ran (.connector id) before.resolution, .failed (.connector id) error] := by
  simp only [fetchConnector, Progress.run] at failed
  split at failed
  · cases failed
  · cases failed
    rw [noteFailure_journal]
    exact List.append_assoc _ _ _

/-- The journal of an errand of a request tells what is so. -/
theorem Runs.tells {inside : List PluginRef} {errand : Errand} {before after : Progress σ}
    {outcome : Except Halt Unit} (runs : Runs resolver clock inside errand before outcome after)
    (covered : errand.Covered resolver clock start inside before)
    (tells : start.Tells resolver clock before) : start.Tells resolver clock after := by
  induction runs with
  | idle | stuck | propagated | absorbed | done => exact tells
  | @definition _ id definition _ middle found fresh outside dependencies ih =>
      have enters : Enters resolver clock start (.definition id) :=
        ⟨_, _, covered, hasPlugin_definition found, fresh⟩
      obtain ⟨events, about, journal⟩ := runDefinition_journal id definition middle
      refine (ih (covered.coversDefinition found fresh) tells).append journal ?_
      rcases about with rfl | ⟨error, rfl⟩
      · exact List.forall_mem_singleton.mpr enters
      · exact List.forall_mem_cons.mpr ⟨enters, List.forall_mem_singleton.mpr enters⟩
  | definitionHalted found fresh outside dependencies ih =>
      exact ih (covered.coversDefinition found fresh) tells
  | @passedOver inside id connector before read _ _ _ found fresh outside clockRead window replaced
      ih =>
      have unusable : Unusable resolver clock inside id connector before _ _ :=
        .passedOver clockRead window
      have happens : IsUnusable resolver clock start id :=
        ⟨inside, connector, before, _, _, covered, found, fresh, unusable⟩
      obtain ⟨-, rfl⟩ := readClock_eq clockRead
      refine ih (covered.coversFailover found fresh unusable) (tells.append rfl ?_)
      exact List.forall_mem_singleton.mpr happens
  | connectorHalted found fresh outside clockRead noWindow dependencies ih =>
      have covers := covered.coversConnector found fresh clockRead noWindow
      obtain ⟨-, rfl⟩ := readClock_eq clockRead
      exact ih covers tells
  | @fetched _ id connector _ _ middle ran _ _ found fresh outside clockRead noWindow dependencies
      answered ih =>
      have invoked : IsInvoked resolver clock start id :=
        ⟨connector, middle, .intro covered found fresh clockRead noWindow dependencies⟩
      have covers := covered.coversConnector found fresh clockRead noWindow
      obtain ⟨-, rfl⟩ := readClock_eq clockRead
      have told : start.Tells resolver clock ran :=
        (ih covers tells).append (fetchConnector_journal_ok answered)
          (List.forall_mem_singleton.mpr invoked)
      exact told
  | @fetchFailed inside id connector before _ middle _ _ _ _ _ found fresh outside clockRead
      noWindow dependencies failed replaced ihDependencies ihReplaced =>
      have invoked : IsInvoked resolver clock start id :=
        ⟨connector, middle, .intro covered found fresh clockRead noWindow dependencies⟩
      have covers := covered.coversConnector found fresh clockRead noWindow
      have fails := failsWith_iff.mpr (fetched_of_fetchConnector failed).answered.symm
      have unusable := Unusable.failed clockRead noWindow dependencies fails
      have happens : IsUnusable resolver clock start id :=
        ⟨inside, connector, before, _, _, covered, found, fresh, unusable⟩
      rw [failed] at unusable
      obtain ⟨-, rfl⟩ := readClock_eq clockRead
      refine ihReplaced (covered.coversFailover found fresh unusable) ?_
      refine (ihDependencies covers tells).append (fetchConnector_journal_error failed) ?_
      exact List.forall_mem_cons.mpr ⟨invoked, List.forall_mem_singleton.mpr happens⟩
  | failedOver named resolved ih => exact ih (covered _ named) tells
  | failoverHalted named resolved ih => exact ih (covered _ named) tells
  | next first others ihFirst ihOthers =>
      have visited := ihFirst (visits_of_covers covered) tells
      exact ihOthers (covers_rest covered first) visited
  | halted first ih => exact ih (visits_of_covers covered) tells

/-- The journal of a request tells what is so. -/
theorem resolve_tells (empty : start.journal = []) :
    start.Tells resolver clock (resolve resolver clock start).2 := by
  refine resolve_along (fun event member => ?_) (fun refs first stage tells => ?_)
    fun _ _ _ tells => tells
  · rw [empty] at member
    exact absurd member List.not_mem_nil
  · have runs : Runs resolver clock [] (.visitAll refs) first _ _ := runs_visitAll refs first
    exact runs.tells stage.covers tells

/-! ## What happens is in the journal -/

/-- Whatever a request still does, it takes nothing back that is written down. -/
theorem journal_restLaw (resolver : Resolver σ) (clock : σ → Instant × σ) :
    RestLaw resolver clock fun before after => before.journal <+: after.journal :=
  (journal_stepLaw resolver clock).restLaw fun _ _ _ => List.prefix_rfl

/-- A connector that a request comes to run is told of as run at its end. -/
theorem IsInvoked.wasRun {id : String} (invoked : IsInvoked resolver clock start id) :
    WasRun (resolve resolver clock start).2.journal id := by
  obtain ⟨connector, moment, invokes⟩ := invoked
  have written := (journal_restLaw resolver clock).invoked invokes
  obtain ⟨events, tells, journal⟩ := fetchConnector_journal clock id connector moment
  refine ⟨moment.resolution, written.subset ?_⟩
  rw [journal]
  rcases tells with rfl | ⟨error, rfl⟩
  · exact List.mem_append_right _ List.mem_cons_self
  · exact List.mem_append_right _ List.mem_cons_self

/-- A connector that turns out unusable is told of as such at once. -/
theorem Unusable.wasUnusable {inside : List PluginRef} {id : String} {connector : Connector σ}
    {before after : Progress σ} {reason : ResolutionError}
    (unusable : Unusable resolver clock inside id connector before reason after) :
    WasUnusable after.journal id := by
  cases unusable with
  | passedOver clockRead window =>
      exact .inl (List.mem_append_right _ (List.mem_singleton_self _))
  | failed clockRead noWindow dependencies fails =>
      refine .inr ⟨reason, ?_⟩
      rw [fetchConnector_journal_error fails.fetchConnector_eq]
      exact List.mem_append_right _ (List.mem_cons_of_mem _ (List.mem_singleton_self _))

/-- A connector that a request finds unusable is told of as such at its end. -/
theorem IsUnusable.wasUnusable {id : String} (unusable : IsUnusable resolver clock start id) :
    WasUnusable (resolve resolver clock start).2.journal id := by
  obtain ⟨inside, connector, before, reason, middle, visits, found, fresh, unusable⟩ := unusable
  obtain ⟨outcome, after, replaced⟩ := Errand.exists_runs resolver clock
    (.connector id :: inside) (.replace id connector.settings reason) middle
  have outside := visits.reaches.outside (hasPlugin_connector found)
  have visit := unusable.runs found fresh outside replaced
  have written : middle.journal <+: (resolve resolver clock start).2.journal :=
    ((journal_stepLaw resolver clock).runs replaced).trans
      ((journal_restLaw resolver clock).follows visits visit)
  rcases unusable.wasUnusable with passedOver | ⟨error, failed⟩
  · exact .inl (written.subset passedOver)
  · exact .inr ⟨error, written.subset failed⟩

/-- What the journal of a request tells of a connector is what happens. -/
theorem wasRun_iff (empty : start.journal = []) (id : String) :
    WasRun (resolve resolver clock start).2.journal id ↔ IsInvoked resolver clock start id := by
  constructor
  · rintro ⟨seen, ran⟩
    exact resolve_tells empty _ ran
  · exact IsInvoked.wasRun

/-- A journal that starts empty tells exactly of the connectors that the request found unusable. -/
theorem wasUnusable_iff (empty : start.journal = []) (id : String) :
    WasUnusable (resolve resolver clock start).2.journal id ↔
      IsUnusable resolver clock start id := by
  constructor
  · rintro (passedOver | ⟨error, failed⟩)
    · exact resolve_tells empty _ passedOver
    · exact resolve_tells empty _ failed
  · exact IsUnusable.wasUnusable

/-! ## Visits of a request that succeeds -/

/-- When a request succeeds, so does each of its visits. -/
theorem Visits.runs_ok {inside : List PluginRef} {ref : PluginRef} {before : Progress σ}
    (visits : Visits resolver clock start inside ref before)
    (succeeded : (resolve resolver clock start).1 = .ok ()) :
    ∃ after, Runs resolver clock inside (.visit ref) before (.ok ()) after := by
  obtain ⟨outcome, after, runs⟩ := Errand.exists_runs resolver clock inside (.visit ref) before
  cases outcome with
  | ok done => exact ⟨after, runs⟩
  | error halt =>
      rw [visits.halts runs] at succeeded
      cases succeeded

/-- What it visits has a record in the end. -/
theorem Visits.recorded {inside : List PluginRef} {ref : PluginRef} {before : Progress σ}
    (visits : Visits resolver clock start inside ref before)
    (succeeded : (resolve resolver clock start).1 = .ok ())
    (known : hasPlugin resolver ref = true) :
    (resolve resolver clock start).2.resolution.isRecorded ref = true := by
  obtain ⟨after, runs⟩ := visits.runs_ok succeeded
  exact (visits.retained runs).isRecorded (runs.settles rfl ref List.mem_cons_self known)

/-- When it visits a connector outside of its no-retry window, it visits the dependencies. -/
theorem Visits.dependencies_ok {inside : List PluginRef} {id : String} {connector : Connector σ}
    {before read : Progress σ} {now : Instant}
    (visits : Visits resolver clock start inside (.connector id) before)
    (succeeded : (resolve resolver clock start).1 = .ok ())
    (found : resolver.connectors.get? id = some connector)
    (fresh : before.resolution.isRecorded (.connector id) = false)
    (clockRead : before.readClock clock = (now, read))
    (noWindow : read.failures.inNoRetryWindow id connector.settings.noRetryDelay now = false) :
    ∃ middle, Runs resolver clock (.connector id :: inside)
      (.visitAll connector.settings.dependencies.refs) read (.ok ()) middle := by
  obtain ⟨outcome, middle, dependencies⟩ := Errand.exists_runs resolver clock
    (.connector id :: inside) (.visitAll connector.settings.dependencies.refs) read
  cases outcome with
  | ok done => exact ⟨middle, dependencies⟩
  | error halt =>
      have outside := visits.reaches.outside (hasPlugin_connector found)
      have halted := visits.halts (.connectorHalted found fresh outside clockRead noWindow
        dependencies)
      rw [halted] at succeeded
      cases succeeded

/-- Then the connector is run. -/
theorem Visits.invoked {inside : List PluginRef} {id : String} {connector : Connector σ}
    {before read : Progress σ} {now : Instant}
    (visits : Visits resolver clock start inside (.connector id) before)
    (succeeded : (resolve resolver clock start).1 = .ok ())
    (found : resolver.connectors.get? id = some connector)
    (fresh : before.resolution.isRecorded (.connector id) = false)
    (clockRead : before.readClock clock = (now, read))
    (noWindow : read.failures.inNoRetryWindow id connector.settings.noRetryDelay now = false) :
    IsInvoked resolver clock start id := by
  obtain ⟨middle, dependencies⟩ :=
    visits.dependencies_ok succeeded found fresh clockRead noWindow
  exact ⟨connector, middle, .intro visits found fresh clockRead noWindow dependencies⟩

/-- What a request visits is needed, when connectors that are visited outside of their no-retry
windows count as run, and those that have no usable result as unusable. -/
theorem Visits.needed_of {run unusable : String → Prop}
    (runs : ∀ {inside id connector before read now},
      Visits resolver clock start inside (.connector id) before →
        resolver.connectors.get? id = some connector →
          before.resolution.isRecorded (.connector id) = false →
            before.readClock clock = (now, read) →
              read.failures.inNoRetryWindow id connector.settings.noRetryDelay now = false → run id)
    (misses : ∀ {inside id connector before reason after},
      Visits resolver clock start inside (.connector id) before →
        resolver.connectors.get? id = some connector →
          before.resolution.isRecorded (.connector id) = false →
            Unusable resolver clock inside id connector before reason after → unusable id)
    {inside : List PluginRef} {ref : PluginRef} {before : Progress σ}
    (visits : Visits resolver clock start inside ref before)
    (known : hasPlugin resolver ref = true) :
    Needed resolver (IsRoot resolver start.resolution.requestedIds) run unusable ref := by
  induction visits with
  | ofStage stage listed done =>
      exact .asked (stage.isRoot (listed ▸ List.mem_append_right _ List.mem_cons_self) known)
  | ofDefinition visits found fresh listed done ih =>
      refine .ofDefinition (ih (hasPlugin_definition found)) ((declares_definition_iff found).mpr ?_)
      rw [listed]
      exact List.mem_append_right _ List.mem_cons_self
  | ofConnector visits found fresh clockRead noWindow listed done ih =>
      refine .ofConnector (ih (hasPlugin_connector found))
        (runs visits found fresh clockRead noWindow) ((declares_connector_iff found).mpr ?_)
      rw [listed]
      exact List.mem_append_right _ List.mem_cons_self
  | failover visits found fresh unusable named ih =>
      exact .failover (ih (hasPlugin_connector found)) (misses visits found fresh unusable)
        ((failsOver_iff found).mpr named)

/-- The dependencies of a connector that was run have records. -/
theorem IsInvoked.dependencies_recorded {id : String} {next : PluginRef}
    (invoked : IsInvoked resolver clock start id)
    (declared : resolver.graph.Declares (.connector id) next) :
    (resolve resolver clock start).2.resolution.isRecorded next = true := by
  obtain ⟨connector, moment, invokes⟩ := invoked
  have retained := (extends_restLaw resolver clock).invoked invokes
  rw [fetchConnector_resolution] at retained
  cases invokes with
  | intro visits found fresh clockRead noWindow dependencies =>
      have recorded := dependencies.dependencies_recorded fun _ => declares_connector_iff found
      exact retained.isRecorded (recorded next ((declares_connector_iff found).mp declared))

/-- The failover of a connector that was unusable has a record. -/
theorem IsUnusable.failover_recorded {id next : String}
    (unusable : IsUnusable resolver clock start id)
    (succeeded : (resolve resolver clock start).1 = .ok ())
    (named : resolver.graph.FailsOver id next) :
    (resolve resolver clock start).2.resolution.isRecorded (.connector next) = true := by
  obtain ⟨inside, connector, before, reason, after, visits, found, fresh, unusable⟩ := unusable
  have failover := (failsOver_iff found).mp named
  exact (Visits.failover visits found fresh unusable failover).recorded succeeded
    (failover_known found failover)

/-- What a new request has recorded in the end, it has entered. -/
theorem enters_of_recorded {ref : PluginRef}
    (unrecorded : ∀ other, start.resolution.isRecorded other = false) (empty : start.journal = [])
    (recorded : (resolve resolver clock start).2.resolution.isRecorded ref = true) :
    Enters resolver clock start ref := by
  have tried := (resolve_accounted resolver clock start).tried ref recorded
  obtain ⟨event, member, rfl⟩ := tried.resolve_left (by simp [unrecorded])
  exact (resolve_tells empty event member).enters

/-- What a new request needs has a record in the end, when among the connectors with records those
that count as run were run, and those that count as unusable were so. -/
theorem Needed.recorded_of {run unusable : String → Prop}
    (unrecorded : ∀ other, start.resolution.isRecorded other = false)
    (succeeded : (resolve resolver clock start).1 = .ok ())
    (ran : ∀ id, (resolve resolver clock start).2.resolution.isRecorded (.connector id) = true →
      run id → IsInvoked resolver clock start id)
    (missed : ∀ id, (resolve resolver clock start).2.resolution.isRecorded (.connector id) = true →
      unusable id → IsUnusable resolver clock start id)
    {ref : PluginRef}
    (needed : Needed resolver (IsRoot resolver start.resolution.requestedIds) run unusable ref) :
    (resolve resolver clock start).2.resolution.isRecorded ref = true := by
  induction needed with
  | asked root => exact resolve_settles succeeded root
  | @ofDefinition id next _ declared ih =>
      have backed := (resolve_accounted resolver clock start).backed id ih
      exact backed.resolve_left (by simp [unrecorded]) next declared
  | @ofConnector id _ _ counted declared ih =>
      exact (ran id ih counted).dependencies_recorded declared
  | @failover id _ _ counted named ih =>
      exact (missed id ih counted).failover_recorded succeeded named

/-- When a request that nothing was recorded for is resolved, exactly those plugins have records in
the end that it needs: the definitions that come before all else, the connectors that export and the
definitions asked for, the dependencies of all definitions among what is needed and of the
connectors that were run, and the failovers of the connectors that were passed over in their
no-retry window or failed. Nor did anything happen with any other plugin. What the journal tells of
connectors is what happened when they were visited. -/
theorem resolve_records_needed {after : Progress σ}
    (unrecorded : ∀ ref, start.resolution.isRecorded ref = false) (empty : start.journal = [])
    (succeeded : resolve resolver clock start = (.ok (), after)) :
    (∀ ref, after.resolution.isRecorded ref = true ↔
        Needed resolver (IsRoot resolver start.resolution.requestedIds) (WasRun after.journal)
          (WasUnusable after.journal) ref) ∧
      (∀ event ∈ after.journal,
        Needed resolver (IsRoot resolver start.resolution.requestedIds) (WasRun after.journal)
          (WasUnusable after.journal) event.plugin) ∧
      (∀ id, WasRun after.journal id ↔ IsInvoked resolver clock start id) ∧
      ∀ id, WasUnusable after.journal id ↔ IsUnusable resolver clock start id := by
  have ended : (resolve resolver clock start).1 = .ok () := by rw [succeeded]
  have run : WasRun (resolve resolver clock start).2.journal = IsInvoked resolver clock start :=
    funext fun id => propext (wasRun_iff empty id)
  have unusable : WasUnusable (resolve resolver clock start).2.journal =
      IsUnusable resolver clock start := funext fun id => propext (wasUnusable_iff empty id)
  have entered : ∀ ref, Enters resolver clock start ref →
      Needed resolver (IsRoot resolver start.resolution.requestedIds) (IsInvoked resolver clock start)
        (IsUnusable resolver clock start) ref := by
    rintro ref ⟨inside, before, visits, known, -⟩
    exact visits.needed_of (fun visits => visits.invoked ended)
      (fun visits found fresh unusable => ⟨_, _, _, _, _, visits, found, fresh, unusable⟩) known
  have recorded : ∀ ref, (resolve resolver clock start).2.resolution.isRecorded ref = true ↔
      Needed resolver (IsRoot resolver start.resolution.requestedIds) (IsInvoked resolver clock start)
        (IsUnusable resolver clock start) ref := by
    intro ref
    refine ⟨fun recorded => entered ref (enters_of_recorded unrecorded empty recorded), ?_⟩
    exact fun needed => needed.recorded_of unrecorded ended (fun _ _ invoked => invoked)
      fun _ _ unusable => unusable
  have happened : ∀ event ∈ (resolve resolver clock start).2.journal,
      Enters resolver clock start event.plugin :=
    fun event member => (resolve_tells empty event member).enters
  rw [succeeded] at run unusable happened recorded
  rw [run, unusable]
  exact ⟨recorded, fun event member => entered _ (happened event member), fun _ => Iff.rfl,
    fun _ => Iff.rfl⟩

/-- A request at the library for a notice and something unknown. -/
def noticeRequest : Progress Unit :=
  { lendingStart with resolution := { requestedIds := ["notice", "fax"] } }

/-- For a notice a request at the library needs the card that comes before all else, the opening
hours that are exported, the loan that the notice depends on, and the ledger, since there is nothing
on loans; but not the shelf, nor the stacks of which nothing is exported. When it names nothing, it
needs these as well. -/
theorem resolve_records_needed_lending :
    let journal := (resolve lending outageClock noticeRequest).2.journal
    let journalOfAll := (resolve lending outageClock lendingStart).2.journal
    let needed := Needed lending (IsRoot lending ["notice", "fax"]) (WasRun journal)
      (WasUnusable journal)
    let neededForAll := Needed lending (IsRoot lending []) (WasRun journalOfAll)
      (WasUnusable journalOfAll)
    (∀ ref, noticeRequest.resolution.isRecorded ref = false) ∧
      (∀ ref, lendingStart.resolution.isRecorded ref = false) ∧
      (resolve lending outageClock noticeRequest).1 = .ok () ∧
      (resolve lending outageClock lendingStart).1 = .ok () ∧
      (∀ id ∈ ["card", "loan", "notice"], needed (.definition id)) ∧
      (∀ id ∈ ["branch", "catalogue", "fines", "hours", "ledger", "loans"],
        needed (.connector id)) ∧
      (∀ id ∈ ["fax", "shelf"], ¬ needed (.definition id)) ∧ ¬ needed (.connector "stacks") ∧
      neededForAll (.definition "shelf") ∧ neededForAll (.connector "stacks") := by
  have unrecorded : ∀ ref, noticeRequest.resolution.isRecorded ref = false := fun ref => by
    cases ref <;> rfl
  have unrecordedForAll : ∀ ref, lendingStart.resolution.isRecorded ref = false := fun ref => by
    cases ref <;> rfl
  have ended : (resolve lending outageClock noticeRequest).1 = .ok () := by decide +kernel
  have endedForAll : (resolve lending outageClock lendingStart).1 = .ok () := by decide +kernel
  have recorded := (resolve_records_needed unrecorded rfl (Step.eq_of_ok ended)).1
  have recordedForAll :=
    (resolve_records_needed unrecordedForAll rfl (Step.eq_of_ok endedForAll)).1
  have definitions : ∀ id ∈ ["card", "loan", "notice"],
      (resolve lending outageClock noticeRequest).2.resolution.isRecorded (.definition id) =
        true := by
    decide +kernel
  have connectors : ∀ id ∈ ["branch", "catalogue", "fines", "hours", "ledger", "loans"],
      (resolve lending outageClock noticeRequest).2.resolution.isRecorded (.connector id) =
        true := by
    decide +kernel
  have others : ∀ id ∈ ["fax", "shelf"],
      (resolve lending outageClock noticeRequest).2.resolution.isRecorded (.definition id) ≠
        true := by
    decide +kernel
  have untouched : (resolve lending outageClock noticeRequest).2.resolution.isRecorded
      (.connector "stacks") ≠ true := by
    decide +kernel
  refine ⟨unrecorded, unrecordedForAll, ended, endedForAll, fun id member => ?_,
    fun id member => ?_, fun id member needed => ?_, fun needed => ?_, ?_, ?_⟩
  · exact (recorded _).mp (definitions id member)
  · exact (recorded _).mp (connectors id member)
  · exact others id member ((recorded _).mpr needed)
  · exact untouched ((recorded _).mpr needed)
  · exact (recordedForAll _).mp (by decide +kernel)
  · exact (recordedForAll _).mp (by decide +kernel)

end AttributeRelease.Resolver
