import AttributeRelease.Proofs.Walk.Visits
import AttributeRelease.Resolver.Definitions

/-!
# How a request fails

A request fails exactly when it visits a connector that `Breaks` it, with the error of that
connector (`resolve_failed_iff_breaks`): connectors that fail over and definitions pass the error
on. So it is the settings of the last connector of a failover chain that decide whether a request
survives the chain (`last_connector_decides`), and not those of the connector that was needed.
-/

namespace AttributeRelease.Resolver

variable {σ : Type} {resolver : Resolver σ} {clock : σ → Instant × σ} {start : Progress σ}

/-- A connector without a record ends the request that visits it: it has no usable result and no
failover, and it propagates errors. -/
structure Breaks (resolver : Resolver σ) (clock : σ → Instant × σ) (inside : List PluginRef)
    (id : String) (connector : Connector σ) (before : Progress σ) (error : ResolutionError)
    (after : Progress σ) : Prop where
  found : resolver.connectors.get? id = some connector
  fresh : before.resolution.isRecorded (.connector id) = false
  unusable : Unusable resolver clock inside id connector before error after
  unnamed : connector.settings.failover = none
  propagates : connector.settings.propagateErrors = true

/-- A request visits a connector that ends it. -/
def IsBroken (resolver : Resolver σ) (clock : σ → Instant × σ) (start : Progress σ)
    (error : ResolutionError) (after : Progress σ) : Prop :=
  ∃ inside id connector before, Visits resolver clock start inside (.connector id) before ∧
    Breaks resolver clock inside id connector before error after

/-- What an errand visits is visited by the request. -/
def Errand.Covered (resolver : Resolver σ) (clock : σ → Instant × σ) (start : Progress σ)
    (inside : List PluginRef) (before : Progress σ) : Errand → Prop
  | .visit ref => Visits resolver clock start inside ref before
  | .visitAll refs => ∀ earlier ref later middle, refs = earlier ++ ref :: later →
    Runs resolver clock inside (.visitAll earlier) before (.ok ()) middle →
      Visits resolver clock start inside ref middle
  | .replace _ settings _ => ∀ next, settings.failover = some next →
    Visits resolver clock start inside (.connector next) before

/-- A request that visits a definition without a record visits the plugins that it depends on. -/
theorem Visits.coversDefinition {inside : List PluginRef} {id : String}
    {definition : Definition σ} {before : Progress σ}
    (visits : Visits resolver clock start inside (.definition id) before)
    (found : resolver.definitions.get? id = some definition)
    (fresh : before.resolution.isRecorded (.definition id) = false) :
    (Errand.visitAll definition.settings.dependencies.refs).Covered resolver clock start
      (.definition id :: inside) before :=
  fun _ _ _ _ listed done => .ofDefinition visits found fresh listed done

/-- A request that visits a connector without a record and outside of its window visits the plugins
that it depends on. -/
theorem Visits.coversConnector {inside : List PluginRef} {id : String} {connector : Connector σ}
    {before read : Progress σ} {now : Instant}
    (visits : Visits resolver clock start inside (.connector id) before)
    (found : resolver.connectors.get? id = some connector)
    (fresh : before.resolution.isRecorded (.connector id) = false)
    (clockRead : before.readClock clock = (now, read))
    (noWindow : read.failures.inNoRetryWindow id connector.settings.noRetryDelay now = false) :
    (Errand.visitAll connector.settings.dependencies.refs).Covered resolver clock start
      (.connector id :: inside) read :=
  fun _ _ _ _ listed done => .ofConnector visits found fresh clockRead noWindow listed done

/-- A request that visits a connector that turns out unusable visits its failover, if it has one. -/
theorem Visits.coversFailover {inside : List PluginRef} {id : String} {connector : Connector σ}
    {before after : Progress σ} {reason : ResolutionError}
    (visits : Visits resolver clock start inside (.connector id) before)
    (found : resolver.connectors.get? id = some connector)
    (fresh : before.resolution.isRecorded (.connector id) = false)
    (unusable : Unusable resolver clock inside id connector before reason after) :
    (Errand.replace id connector.settings reason).Covered resolver clock start
      (.connector id :: inside) after :=
  fun _ named => .failover visits found fresh unusable named

theorem Stage.covers {refs : List PluginRef} {first : Progress σ}
    (stage : Stage resolver clock start refs first) :
    (Errand.visitAll refs).Covered resolver clock start [] first :=
  fun _ _ _ _ listed done => .ofStage stage listed done

theorem visits_of_covers {inside rest : List PluginRef} {ref : PluginRef} {before : Progress σ}
    (covered : (Errand.visitAll (ref :: rest)).Covered resolver clock start inside before) :
    Visits resolver clock start inside ref before :=
  covered [] ref rest before rfl .done

/-- The others are visited once the first has ended well. -/
theorem covers_rest {inside rest : List PluginRef} {ref : PluginRef} {before middle : Progress σ}
    (covered : (Errand.visitAll (ref :: rest)).Covered resolver clock start inside before)
    (first : Runs resolver clock inside (.visit ref) before (.ok ()) middle) :
    (Errand.visitAll rest).Covered resolver clock start inside middle := by
  intro earlier other later last listed done
  have whole : ref :: rest = (ref :: earlier) ++ other :: later := by
    rw [listed, List.cons_append]
  exact covered (ref :: earlier) other later last whole (.next first done)

/-- Why an errand fails: a connector ends the request, be it the one that is to be replaced. -/
def Errand.Explained (resolver : Resolver σ) (clock : σ → Instant × σ) (start : Progress σ)
    (before : Progress σ) (error : ResolutionError) (after : Progress σ) : Errand → Prop
  | .visit _ => IsBroken resolver clock start error after
  | .visitAll _ => IsBroken resolver clock start error after
  | .replace _ settings reason => IsBroken resolver clock start error after ∨
    (settings.failover = none ∧ settings.propagateErrors = true ∧ reason = error ∧ after = before)

/-- The connector that is to be replaced is one that the request visits. -/
theorem isBroken_of_replace {inside : List PluginRef} {id : String} {connector : Connector σ}
    {before middle after : Progress σ} {reason error : ResolutionError}
    (visits : Visits resolver clock start inside (.connector id) before)
    (found : resolver.connectors.get? id = some connector)
    (fresh : before.resolution.isRecorded (.connector id) = false)
    (unusable : Unusable resolver clock inside id connector before reason middle)
    (explained : (Errand.replace id connector.settings reason).Explained resolver clock start middle
      error after) : IsBroken resolver clock start error after := by
  rcases explained with broken | ⟨unnamed, propagates, rfl, rfl⟩
  · exact broken
  · exact ⟨inside, id, connector, before, visits, found, fresh, unusable, unnamed, propagates⟩

/-- An errand of a request fails because of a connector that the request visits. -/
theorem Runs.explained {inside : List PluginRef} {errand : Errand} {before after : Progress σ}
    {outcome : Except Halt Unit} {error : ResolutionError}
    (runs : Runs resolver clock inside errand before outcome after)
    (covered : errand.Covered resolver clock start inside before)
    (ended : outcome = .error (.failed error)) :
    errand.Explained resolver clock start before error after := by
  induction runs with
  | idle | definition | fetched | failedOver | absorbed | done => cases ended
  | stuck => cases ended
  | definitionHalted found fresh outside dependencies ih =>
      exact ih (covered.coversDefinition found fresh) ended
  | @passedOver inside _ _ _ _ _ _ _ found fresh outside clockRead window replaced ih =>
      have unusable : Unusable resolver clock inside _ _ _ _ _ := .passedOver clockRead window
      exact isBroken_of_replace covered found fresh unusable
        (ih (covered.coversFailover found fresh unusable) ended)
  | connectorHalted found fresh outside clockRead noWindow dependencies ih =>
      exact ih (covered.coversConnector found fresh clockRead noWindow) ended
  | fetchFailed found fresh outside clockRead noWindow dependencies failed replaced _ ih =>
      have fails := failsWith_iff.mpr (fetched_of_fetchConnector failed).answered.symm
      have unusable := Unusable.failed clockRead noWindow dependencies fails
      rw [failed] at unusable
      exact isBroken_of_replace covered found fresh unusable
        (ih (covered.coversFailover found fresh unusable) ended)
  | failoverHalted named resolved ih => exact .inl (ih (covered _ named) ended)
  | propagated unnamed propagates =>
      cases ended
      exact .inr ⟨unnamed, propagates, rfl, rfl⟩
  | next first others _ ih => exact ih (covers_rest covered first) ended
  | halted first ih => exact ih (visits_of_covers covered) ended

/-- A request fails because of a connector that it visits. -/
theorem isBroken_of_failed {error : ResolutionError}
    (failed : (resolve resolver clock start).1 = .error (.failed error)) :
    IsBroken resolver clock start error (resolve resolver clock start).2 := by
  have halted : resolve resolver clock start =
      (.error (.failed error), (resolve resolver clock start).2) := Prod.ext failed rfl
  obtain ⟨refs, first, stage, halted⟩ := resolve_halted_iff.mp halted
  have runs : Runs resolver clock [] (.visitAll refs) first _ _ := runs_visitAll refs first
  rw [halted] at runs
  exact runs.explained stage.covers rfl

/-- A connector that ends a request leaves nothing to be done. -/
theorem Breaks.halts {inside : List PluginRef} {id : String} {connector : Connector σ}
    {before after : Progress σ} {error : ResolutionError}
    (breaks : Breaks resolver clock inside id connector before error after)
    (visits : Visits resolver clock start inside (.connector id) before) :
    resolve resolver clock start = (.error (.failed error), after) := by
  have outside := visits.reaches.outside (hasPlugin_connector breaks.found)
  have propagated : Runs resolver clock (.connector id :: inside)
      (.replace id connector.settings error) after (.error (.failed error)) after :=
    .propagated breaks.unnamed breaks.propagates
  exact visits.halts (breaks.unusable.runs breaks.found breaks.fresh outside propagated)

/-- The plugin that an event is about. -/
def Event.plugin : Event → PluginRef
  | .ran plugin _ => plugin
  | .failed plugin _ => plugin
  | .passedOver connectorId => .connector connectorId

/-- That a connector is unusable is the last thing that happened. -/
theorem Unusable.last_event {inside : List PluginRef} {id : String} {connector : Connector σ}
    {before after : Progress σ} {reason : ResolutionError}
    (unusable : Unusable resolver clock inside id connector before reason after) :
    after.journal.getLast?.map Event.plugin = some (.connector id) := by
  cases unusable with
  | passedOver clockRead window => simp [Progress.note, Event.plugin]
  | failed clockRead noWindow dependencies fails =>
      have outcome := failsWith_iff.mp fails
      simp only [fetchConnector, Progress.run, outcome, noteFailure]
      cases reason.isSourceFailure <;> simp [Progress.note, Progress.readClock, Event.plugin]

/-- A definition that is visited halts only when a plugin that it depends on does. -/
theorem Visits.definition_halted {inside : List PluginRef} {id : String}
    {definition : Definition σ} {before after : Progress σ} {halt : Halt}
    (visits : Visits resolver clock start inside (.definition id) before)
    (found : resolver.definitions.get? id = some definition)
    (halted : Runs resolver clock inside (.visit (.definition id)) before (.error halt) after) :
    Runs resolver clock (.definition id :: inside)
      (.visitAll definition.settings.dependencies.refs) before (.error halt) after := by
  have never := halted.not_reentered visits.reaches (.definition id)
  cases halted with
  | stuck => exact absurd rfl never
  | definitionHalted same _ _ dependencies =>
      cases found.symm.trans same
      exact dependencies

/-- A request fails when, and only when, it visits a connector without a record and without a
failover that propagates errors and is inside its no-retry window or is run and fails, which is also
to have no result where one is needed. It ends there and then, with the error of that connector. A
definition only ends a request when a plugin that it depends on does, and no request ends because a
plugin is entered again. -/
theorem resolve_failed_iff_breaks (resolver : Resolver σ) (clock : σ → Instant × σ)
    (start : Progress σ) :
    (∀ error, (resolve resolver clock start).1 = .error (.failed error) ↔
        ∃ inside id connector before after,
          Visits resolver clock start inside (.connector id) before ∧
            Breaks resolver clock inside id connector before error after) ∧
      (∀ inside id connector before error after,
        Visits resolver clock start inside (.connector id) before →
          Breaks resolver clock inside id connector before error after →
            resolve resolver clock start = (.error (.failed error), after) ∧
              after.journal.getLast?.map Event.plugin = some (.connector id)) ∧
      (∀ inside id definition before halt after,
        Visits resolver clock start inside (.definition id) before →
          resolver.definitions.get? id = some definition →
            Runs resolver clock inside (.visit (.definition id)) before (.error halt) after →
              Runs resolver clock (.definition id :: inside)
                (.visitAll definition.settings.dependencies.refs) before (.error halt) after) ∧
      ∀ plugin, (resolve resolver clock start).1 ≠ .error (.reentered plugin) := by
  refine ⟨fun error => ⟨fun failed => ?_, ?_⟩, ?_, ?_, resolve_not_reentered resolver clock start⟩
  · obtain ⟨inside, id, connector, before, visits, breaks⟩ := isBroken_of_failed failed
    exact ⟨inside, id, connector, before, _, visits, breaks⟩
  · rintro ⟨inside, id, connector, before, after, visits, breaks⟩
    rw [breaks.halts visits]
  · intro inside id connector before error after visits breaks
    exact ⟨breaks.halts visits, breaks.unusable.last_event⟩
  · intro inside id definition before halt after visits found halted
    exact visits.definition_halted found halted

/-- A directory that is out of reach and fails over to a backup. -/
def lostDirectory (propagateErrors : Bool) : Connector Unit :=
  ⟨{ id := "directory", failover := some "backup", propagateErrors },
    .pure fun _ => .error (.failed "directory" "out of reach" none)⟩

/-- A backup that does not answer. -/
def silentBackup (propagateErrors : Bool) : Connector Unit :=
  ⟨{ id := "backup", propagateErrors }, .pure fun _ => .error (.failed "backup" "no answer" none)⟩

/-- A definition that reads the directory. -/
def mailDefinition : Definition Unit :=
  DefinitionKind.simple.toDefinition
    { id := "mail", dependencies := { connectors := [⟨"directory", []⟩] } }

/-- A definition that reads another one. -/
def contactDefinition : Definition Unit :=
  DefinitionKind.simple.toDefinition { id := "contact", dependencies := { attributes := ["mail"] } }

def blackoutConnectors (directory backup : Bool) :
    Keyed fun connector : Connector Unit => connector.settings.id :=
  (Keyed.add .empty (lostDirectory directory)).add
    (silentBackup backup)

def blackoutDefinitions : Keyed fun definition : Definition Unit => definition.settings.id :=
  (Keyed.add .empty mailDefinition).add contactDefinition

/-- A resolver during a blackout, where the directory and the backup propagate errors or not. -/
def blackout (directory backup : Bool) : Resolver Unit where
  id := "campus"
  definitions := blackoutDefinitions.1
  connectors := (blackoutConnectors directory backup).1
  stripNulls := false
  suppressDisplay := false
  definitions_keyed := blackoutDefinitions.2
  connectors_keyed := (blackoutConnectors directory backup).2
  accepted := by cases directory <;> cases backup <;> decide +kernel

def blackoutStart : Progress Unit :=
  { world := (), failures := .new ["backup", "directory"], resolution := {} }

def blackoutClock (world : Unit) : Instant × Unit := (0, world)

/-- During a blackout the backup's error ends the request, which asked for the mail address and the
contact only. -/
theorem resolve_failed_iff_breaks_blackout :
    (resolve (blackout true true) blackoutClock blackoutStart).1 =
        .error (.failed (.failed "backup" "no answer" none)) ∧
      ∃ inside id connector before after,
        Visits (blackout true true) blackoutClock blackoutStart inside (.connector id) before ∧
          Breaks (blackout true true) blackoutClock inside id connector before
            (.failed "backup" "no answer" none) after := by
  have failed : (resolve (blackout true true) blackoutClock blackoutStart).1 =
      .error (.failed (.failed "backup" "no answer" none)) := by
    decide +kernel
  have characterised := resolve_failed_iff_breaks (blackout true true) blackoutClock blackoutStart
  exact ⟨failed, (characterised.1 _).mp failed⟩

/-! ## Exhausted failover chains -/

/-- Along the failover references from a connector on no connector has a usable result; `last` is
the one without a failover. -/
inductive Exhausts (resolver : Resolver σ) (clock : σ → Instant × σ) : List PluginRef → String →
    Progress σ → (lastId : String) → (last : Connector σ) → ResolutionError → Progress σ → Prop
  | last {inside : List PluginRef} {id : String} {connector : Connector σ}
      {before after : Progress σ} {reason : ResolutionError}
      (found : resolver.connectors.get? id = some connector)
      (fresh : before.resolution.isRecorded (.connector id) = false)
      (unusable : Unusable resolver clock inside id connector before reason after)
      (unnamed : connector.settings.failover = none) :
      Exhausts resolver clock inside id before id connector reason after
  | next {inside : List PluginRef} {id next lastId : String} {connector last : Connector σ}
      {before middle after : Progress σ} {reason lastReason : ResolutionError}
      (found : resolver.connectors.get? id = some connector)
      (fresh : before.resolution.isRecorded (.connector id) = false)
      (unusable : Unusable resolver clock inside id connector before reason middle)
      (named : connector.settings.failover = some next)
      (rest : Exhausts resolver clock (.connector id :: inside) next middle lastId last lastReason
        after) :
      Exhausts resolver clock inside id before lastId last lastReason after

/-- If the last connector of an exhausted chain propagates errors, its reason halts the visit of the
connector that is needed, whatever the settings of those before it. -/
theorem Exhausts.halted {inside : List PluginRef} {id lastId : String} {last : Connector σ}
    {before after : Progress σ} {reason : ResolutionError}
    (exhausts : Exhausts resolver clock inside id before lastId last reason after)
    (reaches : Reaches resolver inside [.connector id])
    (propagates : last.settings.propagateErrors = true) :
    Runs resolver clock inside (.visit (.connector id)) before (.error (.failed reason)) after := by
  induction exhausts with
  | last found fresh unusable unnamed =>
      have outside := reaches.outside (hasPlugin_connector found)
      exact unusable.runs found fresh outside (.propagated unnamed propagates)
  | next found fresh unusable named rest ih =>
      have outside := reaches.outside (hasPlugin_connector found)
      have halted := ih (reaches.enterFailover found named) propagates
      exact unusable.runs found fresh outside (.failoverHalted named halted)

/-- If the last connector of an exhausted chain absorbs errors, the visit goes on, with an empty
record of the connector that is needed that names the last one. -/
theorem Exhausts.absorbed {inside : List PluginRef} {id lastId : String} {last : Connector σ}
    {before after : Progress σ} {reason : ResolutionError}
    (exhausts : Exhausts resolver clock inside id before lastId last reason after)
    (reaches : Reaches resolver inside [.connector id])
    (absorbs : last.settings.propagateErrors = false) :
    ∃ done, Runs resolver clock inside (.visit (.connector id)) before (.ok ()) done ∧
      done.resolution.connectors.get? id = some ⟨id, lastId, none⟩ := by
  induction exhausts with
  | last found fresh unusable unnamed =>
      have outside := reaches.outside (hasPlugin_connector found)
      refine ⟨_, unusable.runs found fresh outside (.absorbed unnamed absorbs), ?_⟩
      simp [Progress.recordConnector, Resolution.recordConnector, ConnectorRecord.empty,
        KeyMap.get?_insert]
  | next found fresh unusable named rest ih =>
      have outside := reaches.outside (hasPlugin_connector found)
      obtain ⟨done, resolved, recorded⟩ := ih (reaches.enterFailover found named) absorbs
      refine ⟨_, unusable.runs found fresh outside (.failedOver named resolved), ?_⟩
      simp [Progress.recordConnector, Resolution.recordConnector, substituteRecord, recorded,
        KeyMap.get?_insert]

/-- When a request visits a connector and no connector of its failover chain has a usable result,
the settings of the last one decide: the request ends with the error of the last connector if that
one propagates errors, and else the visit ends well and the connector is left recorded without
attributes. The settings of the others do not matter. -/
theorem last_connector_decides (resolver : Resolver σ) (clock : σ → Instant × σ)
    (start : Progress σ) {inside : List PluginRef} {id lastId : String} {last : Connector σ}
    {before after : Progress σ} {reason : ResolutionError}
    (visits : Visits resolver clock start inside (.connector id) before)
    (exhausts : Exhausts resolver clock inside id before lastId last reason after) :
    (last.settings.propagateErrors = true →
        resolve resolver clock start = (.error (.failed reason), after)) ∧
      (last.settings.propagateErrors = false →
        (∃ done, Runs resolver clock inside (.visit (.connector id)) before (.ok ()) done) ∧
          (resolve resolver clock start).2.resolution.connectors.get? id =
            some ⟨id, lastId, none⟩) := by
  constructor
  · intro propagates
    exact visits.halts (exhausts.halted visits.reaches propagates)
  · intro absorbs
    obtain ⟨done, runs, recorded⟩ := exhausts.absorbed visits.reaches absorbs
    exact ⟨⟨done, runs⟩, (visits.retained runs).connectors id _ recorded⟩

/-- A connector that depends on nothing, is always tried again and always fails is unusable. -/
theorem unusable_of_alone (resolver : Resolver σ) (clock : σ → Instant × σ)
    (inside : List PluginRef) (id : String) (connector : Connector σ) {error : ResolutionError}
    (alone : connector.settings.dependencies.refs = [])
    (retried : connector.settings.noRetryDelay = 0)
    (fails : ∀ progress, connector.FailsWith id progress error) (before : Progress σ) :
    ∃ after, Unusable resolver clock inside id connector before error after ∧
      after.resolution = before.resolution := by
  rcases clockRead : before.readClock clock with ⟨now, read⟩
  have noWindow :
      read.failures.inNoRetryWindow id connector.settings.noRetryDelay now = false := by
    rw [FailureLog.inNoRetryWindow, if_pos retried]
  have dependencies : Runs resolver clock (.connector id :: inside)
      (.visitAll connector.settings.dependencies.refs) read (.ok ()) read := by
    rw [alone]
    exact .done
  have unusable : Unusable resolver clock inside id connector before error _ :=
    .failed clockRead noWindow dependencies (fails read)
  refine ⟨_, unusable, ?_⟩
  rw [(fetched_of_fetchConnector (fails read).fetchConnector_eq).resolution,
    (readClock_eq clockRead).2]

/-- The contact needs the mail address, and that needs the directory. -/
def blackoutWay : List PluginRef := [.definition "mail", .definition "contact"]

/-- During a blackout the request for the contact comes to visit the directory. -/
theorem blackout_visits (directory backup : Bool) :
    Visits (blackout directory backup) blackoutClock blackoutStart blackoutWay
      (.connector "directory") blackoutStart := by
  have foundContact : (blackout directory backup).definitions.get? "contact" =
      some contactDefinition := by
    simp [blackout, blackoutDefinitions, Keyed.add, KeyMap.get?_insert, contactDefinition,
      DefinitionKind.toDefinition]
  have foundMail : (blackout directory backup).definitions.get? "mail" = some mailDefinition := by
    simp [blackout, blackoutDefinitions, Keyed.add, KeyMap.get?_insert, contactDefinition,
      mailDefinition, DefinitionKind.toDefinition]
  have asked : (requestedIds (blackout directory backup) {}).map PluginRef.definition =
      [] ++ .definition "contact" :: [.definition "mail"] := by
    cases directory <;> cases backup <;> decide +kernel
  have nothingExported : exportingIds (blackout directory backup) = [] := by
    cases directory <;> cases backup <;> decide +kernel
  have exported : visitAll (blackout directory backup) blackoutClock
      ((exportingIds (blackout directory backup)).map .connector) blackoutStart =
        (.ok (), blackoutStart) := by
    rw [nothingExported]
    rfl
  have contact : Visits (blackout directory backup) blackoutClock blackoutStart []
      (.definition "contact") blackoutStart := .ofStage (.requested rfl exported) asked .done
  exact .ofDefinition (.ofDefinition contact foundContact rfl rfl .done) foundMail rfl rfl .done

/-- Neither the directory nor its backup has a usable result. -/
theorem blackout_exhausts (directory backup : Bool) :
    ∃ after, Exhausts (blackout directory backup) blackoutClock blackoutWay "directory"
      blackoutStart "backup" (silentBackup backup) (.failed "backup" "no answer" none) after := by
  have foundDirectory : (blackout directory backup).connectors.get? "directory" =
      some (lostDirectory directory) := by
    simp [blackout, blackoutConnectors, Keyed.add, KeyMap.get?_insert, lostDirectory, silentBackup]
  have foundBackup : (blackout directory backup).connectors.get? "backup" =
      some (silentBackup backup) := by
    simp [blackout, blackoutConnectors, Keyed.add, KeyMap.get?_insert, silentBackup]
  obtain ⟨middle, outOfReach, same⟩ :=
    unusable_of_alone (blackout directory backup) blackoutClock blackoutWay "directory"
      (lostDirectory directory) rfl rfl (fun _ => .failed rfl) blackoutStart
  obtain ⟨after, noAnswer, -⟩ :=
    unusable_of_alone (blackout directory backup) blackoutClock
      (.connector "directory" :: blackoutWay) "backup" (silentBackup backup) rfl rfl
      (fun _ => .failed rfl) middle
  have fresh : middle.resolution.isRecorded (.connector "backup") = false := by
    rw [same]
    rfl
  exact ⟨after, .next foundDirectory rfl outOfReach rfl (.last foundBackup fresh noAnswer rfl)⟩

/-- The backup decides: if it propagates errors, its error ends the request, and else the directory
is recorded without attributes. -/
theorem last_connector_decides_blackout :
    ((silentBackup true).settings.propagateErrors = true ∧
        (resolve (blackout false true) blackoutClock blackoutStart).1 =
          .error (.failed (.failed "backup" "no answer" none))) ∧
      (silentBackup false).settings.propagateErrors = false ∧
        (resolve (blackout true false) blackoutClock
          blackoutStart).2.resolution.connectors.get? "directory" =
            some ⟨"directory", "backup", none⟩ := by
  obtain ⟨after, propagated⟩ := blackout_exhausts false true
  obtain ⟨other, absorbed⟩ := blackout_exhausts true false
  have ended := (last_connector_decides _ _ _ (blackout_visits false true) propagated).1 rfl
  have recorded := (last_connector_decides _ _ _ (blackout_visits true false) absorbed).2 rfl
  exact ⟨⟨rfl, by rw [ended]⟩, rfl, recorded.2⟩

/-- The directory's own setting does not decide: its failures end a request that needs it although
it does not propagate errors, and do not end it although it does. -/
theorem own_setting_does_not_decide :
    (Visits (blackout false true) blackoutClock blackoutStart blackoutWay (.connector "directory")
          blackoutStart ∧
        (∃ after, Exhausts (blackout false true) blackoutClock blackoutWay "directory"
          blackoutStart "backup" (silentBackup true) (.failed "backup" "no answer" none) after) ∧
        (lostDirectory false).settings.propagateErrors = false ∧
        (resolve (blackout false true) blackoutClock blackoutStart).1 =
          .error (.failed (.failed "backup" "no answer" none))) ∧
      Visits (blackout true false) blackoutClock blackoutStart blackoutWay (.connector "directory")
          blackoutStart ∧
        (∃ after, Exhausts (blackout true false) blackoutClock blackoutWay "directory"
          blackoutStart "backup" (silentBackup false) (.failed "backup" "no answer" none) after) ∧
        (lostDirectory true).settings.propagateErrors = true ∧
        (resolve (blackout true false) blackoutClock blackoutStart).1 = .ok () := by
  refine ⟨⟨blackout_visits false true, blackout_exhausts false true, rfl, ?_⟩,
    blackout_visits true false, blackout_exhausts true false, rfl, ?_⟩
  · decide +kernel
  · decide +kernel

end AttributeRelease.Resolver
