import AttributeRelease.Proofs.Walk.Invocations
import AttributeRelease.Proofs.Walk.Journal

/-!
# No-retry windows

A connector that failed is not run again until its no-retry window is over, or is reset
(`no_invocation_within_window`), in however many calls and on whatever requests. When it is needed
in its window, its failover is visited in its place, and its dependencies are not visited for it
(`StandsIn`). The clock may show anything as long as nothing sets it back.
-/

namespace AttributeRelease.Resolver

variable {σ : Type} {resolver : Resolver σ} {clock : σ → Instant × σ} {start : Progress σ}

/-! ## Windows and time -/

namespace FailureLog

variable {log : FailureLog} {id : String} {delay : Duration} {last : Int} {now : Instant}

/-- A connector is in its no-retry window until the delay since its last failure is over. -/
theorem inNoRetryWindow_of_lt (delayed : 0 < delay) (failed : log.last? id = some last)
    (early : now < last * nanosPerMilli + delay) : log.inNoRetryWindow id delay now = true := by
  rw [inNoRetryWindow, if_neg (Nat.ne_of_gt delayed), failed]
  simp [early]

/-- Outside of the window the delay since the last failure is over. -/
theorem le_of_not_inNoRetryWindow (delayed : 0 < delay)
    (noWindow : log.inNoRetryWindow id delay now = false) (failed : log.last? id = some last) :
    last * nanosPerMilli + delay ≤ now := by
  by_contra early
  rw [inNoRetryWindow_of_lt delayed failed (not_le.mp early)] at noWindow
  cases noWindow

/-- A reset connector counts as one that never failed. -/
theorem last?_reset (log : FailureLog) (id : String) : (log.reset id).last? id = none := by
  rw [reset]
  split
  · simp [last?, KeyMap.get?_insert]
  · rename_i unfollowed
    simp [last?, unfollowed]

/-- Resetting a connector leaves the others as they are. -/
theorem last?_reset_of_ne (log : FailureLog) {id other : String} (differs : id ≠ other) :
    (log.reset other).last? id = log.last? id := by
  rw [reset]
  split
  · rw [last?, last?, KeyMap.get?_insert, if_neg (Ne.symm differs)]
  · rfl

/-- Resetting a connector takes no slot away. -/
theorem contains_reset (log : FailureLog) (other id : String) :
    (log.reset other).slots.contains id = log.slots.contains id := by
  rw [reset]
  split
  · rename_i last found
    by_cases same : other = id
    · subst same
      simp [KeyMap.contains, KeyMap.get?_insert, found]
    · simp [KeyMap.contains, KeyMap.get?_insert, same]
  · rfl

/-- A new log has a slot for each connector that it is made for. -/
theorem contains_new {ids : List String} (listed : id ∈ ids) :
    (FailureLog.new ids).slots.contains id = true := by
  rw [new, KeyMap.contains, KeyMap.get?_ofList, List.findSome?_isSome_iff]
  refine ⟨(id, none), ?_, by simp⟩
  rw [List.mem_reverse]
  exact List.mem_map_of_mem listed

end FailureLog

/-- What the clock shows in a world. -/
def instantIn (clock : σ → Instant × σ) (world : σ) : Instant := (clock world).1

/-- Neither reading the clock nor running a plugin sets the clock back. -/
structure NonDecreasing (resolver : Resolver σ) (clock : σ → Instant × σ) : Prop where
  reading : ∀ world, instantIn clock world ≤ instantIn clock (clock world).2
  definitions : ∀ id definition, resolver.definitions.get? id = some definition →
    ∀ resolution world,
      instantIn clock world ≤ instantIn clock (definition.compute resolution world).2
  connectors : ∀ id connector, resolver.connectors.get? id = some connector →
    ∀ resolution world,
      instantIn clock world ≤ instantIn clock (connector.fetch resolution world).2

/-- A failure of the source is noted for the time when it was told. -/
theorem fetchConnector_failures {id : String} {connector : Connector σ} {progress : Progress σ}
    {error : ResolutionError} {world : σ}
    (answer : connector.fetch progress.resolution progress.world = (.error error, world))
    (source : error.isSourceFailure = true) :
    (fetchConnector clock id connector progress).2.failures =
      progress.failures.record id (instantIn clock world) := by
  have outcome : connectorOutcome connector.settings id (.error error) = .error error := rfl
  simp only [fetchConnector, Progress.run, answer, outcome, noteFailure_failures, source, if_true]
  rfl

/-- Running a connector does not turn the clock back. -/
theorem NonDecreasing.fetch (nonDecreasing : NonDecreasing resolver clock) {id : String}
    {connector : Connector σ} (found : resolver.connectors.get? id = some connector)
    (progress : Progress σ) :
    instantIn clock progress.world ≤
      instantIn clock (fetchConnector clock id connector progress).2.world := by
  have ran := nonDecreasing.connectors id connector found progress.resolution progress.world
  rcases fetchConnector_world clock id connector progress with same | read
  · exact same ▸ ran
  · exact read ▸ ran.trans (nonDecreasing.reading _)

/-- Nor does any other step of a walk. -/
theorem NonDecreasing.stepLaw (nonDecreasing : NonDecreasing resolver clock) :
    StepLaw resolver clock fun before after =>
      instantIn clock before.world ≤ instantIn clock after.world where
  refl := fun _ => le_rfl
  trans := le_trans
  reads := fun progress => nonDecreasing.reading progress.world
  passes := fun _ _ => le_rfl
  defines := fun {id definition} found progress => by
    rw [runDefinition_world]
    exact nonDecreasing.definitions id definition found progress.resolution progress.world
  fetches := fun found progress => nonDecreasing.fetch found progress
  records := fun _ _ => le_rfl

/-! ## Invocations and windows -/

/-- The end of the no-retry window after a failure. -/
def Connector.windowEnd (connector : Connector σ) (last : Int) : Instant :=
  last * nanosPerMilli + connector.settings.noRetryDelay

/-- The later a failure, the later the end of the window. -/
theorem Connector.windowEnd_mono (connector : Connector σ) {last latest : Int}
    (less : last ≤ latest) : connector.windowEnd last ≤ connector.windowEnd latest := by
  have scaled : last * nanosPerMilli ≤ latest * nanosPerMilli :=
    Int.mul_le_mul_of_nonneg_right less (Int.natCast_nonneg _)
  exact Int.add_le_add_right scaled _

theorem Invokes.found {id : String} {connector : Connector σ} {moment : Progress σ}
    (invokes : Invokes resolver clock start id connector moment) :
    resolver.connectors.get? id = some connector := by
  cases invokes with
  | intro _ found => exact found

/-- Until a connector is invoked its last failure only moves on. -/
theorem Invokes.advances {id : String} {connector : Connector σ} {moment : Progress σ}
    (invokes : Invokes resolver clock start id connector moment) :
    start.failures.Advances id moment.failures :=
  (advances_stepLaw resolver clock id).invoked (fun _ _ _ => .refl _ _) invokes

/-- A connector is run when the window after its last failure is over. -/
theorem Invokes.window_over (nonDecreasing : NonDecreasing resolver clock) {id : String}
    {connector : Connector σ} {moment : Progress σ}
    (invokes : Invokes resolver clock start id connector moment)
    (delayed : 0 < connector.settings.noRetryDelay) {last : Int}
    (failed : moment.failures.last? id = some last) :
    connector.windowEnd last ≤ instantIn clock moment.world := by
  cases invokes with
  | @intro inside before read _ now visits found fresh clockRead noWindow dependencies =>
      -- the window is looked at before the dependencies are visited, which note no failure of the
      -- connector and take their time
      rw [dependencies.last?_of_inside List.mem_cons_self] at failed
      have elapsed := FailureLog.le_of_not_inNoRetryWindow delayed noWindow failed
      have passed := nonDecreasing.stepLaw.runs dependencies
      obtain ⟨rfl, rfl⟩ := readClock_eq clockRead
      exact elapsed.trans ((nonDecreasing.reading before.world).trans passed)

/-! ## Inside the window -/

/-- What becomes of a visit of a connector inside its no-retry window. Nothing but reading the clock
and passing the connector over comes before its failover is visited, or before the visit is over if
there is none. -/
inductive StandsIn (resolver : Resolver σ) (clock : σ → Instant × σ) (start : Progress σ)
    (inside : List PluginRef) (id : String) (connector : Connector σ) (before passed : Progress σ) :
    Prop
  | copied {next : String} {done : Progress σ} {other : ConnectorRecord}
      (named : connector.settings.failover = some next)
      (resolved : Runs resolver clock (.connector id :: inside) (.visit (.connector next)) passed
        (.ok ()) done)
      (recorded : done.resolution.connectors.get? next = some other)
      (visit : Runs resolver clock inside (.visit (.connector id)) before (.ok ())
        (done.recordConnector ⟨id, other.resolvedBy, other.attributes⟩))
      (kept : (resolve resolver clock start).2.resolution.connectors.get? id =
        some ⟨id, other.resolvedBy, other.attributes⟩) :
      StandsIn resolver clock start inside id connector before passed
  | failed {next : String} {error : ResolutionError} {done : Progress σ}
      (named : connector.settings.failover = some next)
      (resolved : Runs resolver clock (.connector id :: inside) (.visit (.connector next)) passed
        (.error (.failed error)) done)
      (ended : resolve resolver clock start = (.error (.failed error), done)) :
      StandsIn resolver clock start inside id connector before passed
  | refused (unnamed : connector.settings.failover = none)
      (propagates : connector.settings.propagateErrors = true)
      (ended : resolve resolver clock start = (.error (.failed (.noRetryWindow id)), passed)) :
      StandsIn resolver clock start inside id connector before passed
  | skipped (unnamed : connector.settings.failover = none)
      (absorbs : connector.settings.propagateErrors = false)
      (visit : Runs resolver clock inside (.visit (.connector id)) before (.ok ())
        (passed.recordConnector (.empty id)))
      (kept : (resolve resolver clock start).2.resolution.connectors.get? id = some (.empty id)) :
      StandsIn resolver clock start inside id connector before passed

/-- The failover of a connector is there, in a graph that was accepted. -/
theorem failover_known {id next : String} {connector : Connector σ}
    (found : resolver.connectors.get? id = some connector)
    (named : connector.settings.failover = some next) :
    hasPlugin resolver (.connector next) = true := by
  have known := resolver.wellFormed.failover_known id next ((failsOver_iff found).mpr named)
  rw [← has_graph]
  exact known

/-- A connector that is visited inside its no-retry window is replaced or given up. -/
theorem Visits.standsIn {inside : List PluginRef} {id : String} {connector : Connector σ}
    {before read : Progress σ} {now : Instant}
    (visits : Visits resolver clock start inside (.connector id) before)
    (found : resolver.connectors.get? id = some connector)
    (fresh : before.resolution.isRecorded (.connector id) = false)
    (clockRead : before.readClock clock = (now, read))
    (window : read.failures.inNoRetryWindow id connector.settings.noRetryDelay now = true) :
    StandsIn resolver clock start inside id connector before (read.note (.passedOver id)) := by
  have outside := visits.reaches.outside (hasPlugin_connector found)
  have unusable : Unusable resolver clock inside id connector before (.noRetryWindow id) _ :=
    .passedOver clockRead window
  cases named : connector.settings.failover with
  | none =>
      cases propagates : connector.settings.propagateErrors with
      | true =>
          have visit := unusable.runs found fresh outside (.propagated named propagates)
          exact .refused named propagates (visits.halts visit)
      | false =>
          have visit := unusable.runs found fresh outside (.absorbed named propagates)
          refine .skipped named propagates visit ((visits.retained visit).connectors id _ ?_)
          simp [Progress.recordConnector, Resolution.recordConnector, ConnectorRecord.empty,
            KeyMap.get?_insert]
  | some next =>
      obtain ⟨outcome, done, resolved⟩ := Errand.exists_runs resolver clock
        (.connector id :: inside) (.visit (.connector next)) (read.note (.passedOver id))
      cases outcome with
      | error halt =>
          have visit := unusable.runs found fresh outside (.failoverHalted named resolved)
          have ended := visits.halts visit
          cases halt with
          | failed error => exact .failed named resolved ended
          | reentered plugin =>
              exact absurd (by rw [ended]) (resolve_not_reentered resolver clock start plugin)
      | ok _ =>
          have known := failover_known found named
          have recorded := resolved.settles rfl _ (List.mem_singleton_self _) known
          obtain ⟨other, recorded⟩ := (done.resolution.connectors.contains_iff next).mp recorded
          have visit := unusable.runs found fresh outside (.failedOver named resolved)
          rw [substituteRecord, recorded] at visit
          refine .copied named resolved recorded visit ((visits.retained visit).connectors id _ ?_)
          simp [Progress.recordConnector, Resolution.recordConnector, KeyMap.get?_insert]

/-! ## Many calls -/

/-- What the failures of a resolver depend on: some request is resolved in some world, or the
failures of a connector are forgotten. -/
inductive Occasion (σ : Type) where
  | resolve (world : σ) (resolution : Resolution)
  | reset (connectorId : String)

/-- The log of failures after an occasion. -/
def Occasion.failuresAfter (resolver : Resolver σ) (clock : σ → Instant × σ)
    (failures : FailureLog) : Occasion σ → FailureLog
  | .resolve world resolution =>
    (Resolver.resolve resolver clock { world, failures, resolution }).2.failures
  | .reset connectorId => failures.reset connectorId

/-- The log of failures of a new resolver after several occasions. -/
def failuresAfter (resolver : Resolver σ) (clock : σ → Instant × σ)
    (occasions : List (Occasion σ)) : FailureLog :=
  occasions.foldl (Occasion.failuresAfter resolver clock) (newFailureLog resolver)

/-- During a call the last failure of a connector only moves on. -/
theorem resolve_advances (resolver : Resolver σ) (clock : σ → Instant × σ) (start : Progress σ)
    (id : String) : start.failures.Advances id (resolve resolver clock start).2.failures :=
  (advances_stepLaw resolver clock id).resolves (fun _ _ _ => .refl _ _) start

/-- Nothing but a reset takes back the last failure of a connector. -/
theorem Occasion.advances {occasion : Occasion σ} {id : String} (spares : occasion ≠ .reset id)
    (log : FailureLog) : log.Advances id (occasion.failuresAfter resolver clock log) := by
  cases occasion with
  | resolve world resolution =>
      exact resolve_advances resolver clock { world, failures := log, resolution } id
  | reset other =>
      have differs : id ≠ other := fun same => spares (same ▸ rfl)
      exact FailureLog.advances_of_last?_eq (FailureLog.contains_reset log other id)
        (log.last?_reset_of_ne differs)

/-- No occasion adds or takes away slots. -/
theorem Occasion.followed (occasion : Occasion σ) (log : FailureLog) (id : String) :
    (occasion.failuresAfter resolver clock log).slots.contains id = log.slots.contains id := by
  cases occasion with
  | resolve world resolution =>
      exact (resolve_advances resolver clock { world, failures := log, resolution } id).followed
  | reset other => exact FailureLog.contains_reset log other id

/-- Until a connector is reset, its failures are only followed by later ones. -/
theorem failuresAfter_advances (earlier : List (Occasion σ)) {later : List (Occasion σ)}
    {id : String} (spared : .reset id ∉ later) :
    FailureLog.Advances id (failuresAfter resolver clock earlier)
      (failuresAfter resolver clock (earlier ++ later)) := by
  unfold failuresAfter
  rw [List.foldl_append]
  generalize earlier.foldl (Occasion.failuresAfter resolver clock) (newFailureLog resolver) = log
  induction later generalizing log with
  | nil => exact .refl id log
  | cons occasion rest ih =>
      rw [List.mem_cons, not_or] at spared
      exact (occasion.advances (Ne.symm spared.1) log).trans (ih spared.2 _)

/-- The connectors of a resolver are followed all the time. -/
theorem failuresAfter_followed (occasions : List (Occasion σ)) {id : String}
    {connector : Connector σ} (found : resolver.connectors.get? id = some connector) :
    (failuresAfter resolver clock occasions).slots.contains id = true := by
  have begins : (newFailureLog resolver).slots.contains id = true := by
    apply FailureLog.contains_new
    rw [KeyMap.mem_keys_iff, KeyMap.contains_iff]
    exact ⟨connector, found⟩
  unfold failuresAfter
  generalize newFailureLog resolver = log at begins ⊢
  induction occasions generalizing log with
  | nil => exact begins
  | cons occasion rest ih => exact ih _ ((occasion.followed log id).trans begins)

/-- A reset opens the window at once. -/
theorem failuresAfter_reset (occasions : List (Occasion σ)) (id : String) (delay : Duration)
    (now : Instant) :
    (failuresAfter resolver clock (occasions ++ [.reset id])).inNoRetryWindow id delay now =
      false := by
  unfold failuresAfter
  rw [List.foldl_concat]
  rw [FailureLog.inNoRetryWindow, Occasion.failuresAfter, FailureLog.last?_reset]
  split <;> rfl

/-- A connector has failed at a time on one of several occasions or before them, and was not reset
since. -/
def FailedAt (resolver : Resolver σ) (clock : σ → Instant × σ) (occasions : List (Occasion σ))
    (id : String) (last : Int) : Prop :=
  ∃ earlier later, occasions = earlier ++ later ∧ .reset id ∉ later ∧
    (failuresAfter resolver clock earlier).last? id = some last

/-- A failure that was noted since the last reset is the last one, or an earlier one than that. -/
theorem FailedAt.latest {occasions : List (Occasion σ)} {id : String} {last : Int}
    (failed : FailedAt resolver clock occasions id last) :
    ∃ latest, (failuresAfter resolver clock occasions).last? id = some latest ∧ last ≤ latest := by
  obtain ⟨earlier, later, rfl, spared, found⟩ := failed
  exact (failuresAfter_advances earlier spared).last last found

/-- While a call goes on, the log has a failure as late as any that counts. -/
theorem latest_of_failed {occasions : List (Occasion σ)} {log : FailureLog} {id : String}
    {last : Int} (advances : (failuresAfter resolver clock occasions).Advances id log)
    (failed : log.last? id = some last ∨ FailedAt resolver clock occasions id last) :
    ∃ latest, log.last? id = some latest ∧ last ≤ latest := by
  rcases failed with noted | failed
  · exact ⟨last, noted, le_rfl⟩
  · obtain ⟨middle, noted, less⟩ := failed.latest
    obtain ⟨latest, notedLater, lessLater⟩ := advances.last middle noted
    exact ⟨latest, notedLater, less.trans lessLater⟩

/-- A call on the state of a request, in some world and after some occasions. -/
def callAfter (resolver : Resolver σ) (clock : σ → Instant × σ) (occasions : List (Occasion σ))
    (world : σ) (resolution : Resolution) : Progress σ :=
  { world, failures := failuresAfter resolver clock occasions, resolution }

/-- After a further call the failures are those that the call leaves behind. -/
theorem failuresAfter_concat_resolve (occasions : List (Occasion σ)) (world : σ)
    (resolution : Resolution) :
    failuresAfter resolver clock (occasions ++ [.resolve world resolution]) =
      (resolve resolver clock
        (callAfter resolver clock occasions world resolution)).2.failures := by
  unfold failuresAfter
  rw [List.foldl_concat]
  rfl

/-- When a call has told of a failure of a source, the connector counts as failed at that time or
later, until it is reset. -/
theorem Invokes.failedAt {occasions : List (Occasion σ)} {world told : σ} {resolution : Resolution}
    {id : String} {connector : Connector σ} {moment : Progress σ} {error : ResolutionError}
    (invokes : Invokes resolver clock (callAfter resolver clock occasions world resolution) id
      connector moment)
    (advanced : (fetchConnector clock id connector moment).2.failures.Advances id
      (resolve resolver clock (callAfter resolver clock occasions world resolution)).2.failures)
    (answer : connector.fetch moment.resolution moment.world = (.error error, told))
    (source : error.isSourceFailure = true) {further : List (Occasion σ)}
    (spared : .reset id ∉ further) :
    ∃ last, FailedAt resolver clock (occasions ++ .resolve world resolution :: further) id last ∧
      (instantIn clock told).millis ≤ last := by
  have followed : moment.failures.slots.contains id = true := by
    rw [invokes.advances.followed]
    exact failuresAfter_followed occasions invokes.found
  have noted := FailureLog.last?_record_self followed (instantIn clock told)
  rw [← fetchConnector_failures answer source] at noted
  obtain ⟨last, found, less⟩ := advanced.last _ noted
  refine ⟨last, ⟨occasions ++ [.resolve world resolution], further, ?_, spared, ?_⟩, ?_⟩
  · rw [List.append_assoc, List.singleton_append]
  · rw [failuresAfter_concat_resolve]
    exact found
  · exact (FailureLog.le_of_later rfl).1.trans less

/-- Let some requests have been resolved and some connectors reset, in any order, and let a request
be resolved then, while nothing sets the clock back. A connector with a no-retry delay is run only
when the window after its last failure is over, which is the one in the log or any that was noted
since the connector was last reset; a failure of its source is noted for the time when it is told.
If the connector is visited without a record inside such a window, what stands in for it is its
failover, or nothing if it has none. A reset ends the window at once. -/
theorem no_invocation_within_window (nonDecreasing : NonDecreasing resolver clock)
    (occasions : List (Occasion σ)) (world : σ) (resolution : Resolution) {id : String}
    {connector : Connector σ} (found : resolver.connectors.get? id = some connector)
    (delayed : 0 < connector.settings.noRetryDelay) :
    (∀ earlier seen later,
        (resolve resolver clock (callAfter resolver clock occasions world resolution)).2.journal =
            earlier ++ .ran (.connector id) seen :: later →
          ∃ moment,
            Invokes resolver clock (callAfter resolver clock occasions world resolution) id
                connector moment ∧
              moment.journal = earlier ∧ moment.resolution = seen ∧
              (∀ last, moment.failures.last? id = some last ∨
                  FailedAt resolver clock occasions id last →
                connector.windowEnd last ≤ instantIn clock moment.world) ∧
              ∀ error told,
                connector.fetch moment.resolution moment.world = (.error error, told) →
                  error.isSourceFailure = true → ∀ further, .reset id ∉ further →
                    ∃ last,
                      FailedAt resolver clock (occasions ++ .resolve world resolution :: further) id
                          last ∧
                        (instantIn clock told).millis ≤ last) ∧
      (∀ inside before last,
        Visits resolver clock (callAfter resolver clock occasions world resolution) inside
            (.connector id) before →
          before.resolution.isRecorded (.connector id) = false →
            before.failures.last? id = some last ∨ FailedAt resolver clock occasions id last →
              instantIn clock before.world < connector.windowEnd last →
                StandsIn resolver clock (callAfter resolver clock occasions world resolution) inside
                  id connector before
                  ({ before with world := (clock before.world).2 }.note (.passedOver id))) ∧
      ∀ now, (failuresAfter resolver clock (occasions ++ [.reset id])).inNoRetryWindow id
        connector.settings.noRetryDelay now = false := by
  refine ⟨fun earlier seen later written => ?_, ?_, failuresAfter_reset occasions id _⟩
  · obtain ⟨other, moment, invokes, journal, shown, advanced⟩ :=
      resolve_attests rfl id earlier seen later written
    cases invokes.found.symm.trans found
    refine ⟨moment, invokes, journal, shown, fun last failed => ?_, ?_⟩
    · obtain ⟨latest, noted, less⟩ := latest_of_failed invokes.advances failed
      have elapsed := invokes.window_over nonDecreasing delayed noted
      exact (connector.windowEnd_mono less).trans elapsed
    · intro error told answer source further spared
      exact invokes.failedAt advanced answer source spared
  · intro inside before last visits fresh failed early
    have parts := (advances_stepLaw resolver clock id).walkLaw fun _ => .refl _ _
    obtain ⟨latest, noted, less⟩ := latest_of_failed (parts.visited visits) failed
    have within := early.trans_le (connector.windowEnd_mono less)
    exact visits.standsIn found fresh rfl (FailureLog.inNoRetryWindow_of_lt delayed noted within)

/-- The directory of an outage is not tried again for a minute. -/
def outageDirectory : Connector Unit :=
  ⟨{ id := "directory", failover := some "backup", noRetryDelay := 60000000000 },
    .pure fun _ => .error (.failed "directory" "out of reach" none)⟩

/-- One request was resolved during the outage. -/
def outageOccasions : List (Occasion Unit) := [.resolve () {}]

/-- The second request of an outage. -/
def outageCall : Progress Unit := callAfter outage outageClock outageOccasions () {}

theorem outage_nonDecreasing : NonDecreasing outage outageClock :=
  ⟨fun _ => le_rfl, fun _ _ _ _ _ => le_rfl, fun _ _ _ _ _ => le_rfl⟩

theorem outage_failedAt : FailedAt outage outageClock outageOccasions "directory" 1 := by
  refine ⟨outageOccasions, [], (List.append_nil _).symm, List.not_mem_nil, ?_⟩
  decide +kernel

theorem outage_visits : Visits outage outageClock outageCall
    [.definition "mail", .definition "contact"] (.connector "directory") outageCall := by
  let mail : Definition Unit := DefinitionKind.simple.toDefinition
    { id := "mail", dependencies := { connectors := [⟨"directory", []⟩, ⟨"index", []⟩] } }
  let contact : Definition Unit := DefinitionKind.simple.toDefinition
    { id := "contact"
      dependencies := { attributes := ["mail"], connectors := [⟨"archive", []⟩] } }
  have foundMail : outage.definitions.get? "mail" = some mail := by
    simp [outage, outageDefinitions, Keyed.add, KeyMap.get?_insert, mail,
      DefinitionKind.toDefinition]
  have foundContact : outage.definitions.get? "contact" = some contact := by
    simp [outage, outageDefinitions, Keyed.add, KeyMap.get?_insert, contact,
      DefinitionKind.toDefinition]
  have asked : (requestedIds outage {}).map PluginRef.definition =
      [] ++ .definition "contact" :: [.definition "mail"] := by
    decide +kernel
  have nothingExported : exportingIds outage = [] := by decide +kernel
  have exported : visitAll outage outageClock ((exportingIds outage).map .connector) outageCall =
      (.ok (), outageCall) := by
    rw [nothingExported]
    rfl
  have visits : Visits outage outageClock outageCall [] (.definition "contact") outageCall :=
    .ofStage (.requested rfl exported) asked .done
  exact .ofDefinition (.ofDefinition visits foundContact rfl rfl .done) foundMail rfl rfl .done

/-- On the second request of an outage the backup stands in for the directory. -/
theorem no_invocation_within_window_outage :
    FailedAt outage outageClock outageOccasions "directory" 1 ∧
      instantIn outageClock outageCall.world < outageDirectory.windowEnd 1 ∧
        StandsIn outage outageClock outageCall [.definition "mail", .definition "contact"]
          "directory" outageDirectory outageCall
          ({ outageCall with world := (outageClock outageCall.world).2 }.note
            (.passedOver "directory")) := by
  have found : outage.connectors.get? "directory" = some outageDirectory := by
    simp [outage, outageConnectors, Keyed.add, KeyMap.get?_insert, staticConnector,
      outageDirectory]
  have early : instantIn outageClock outageCall.world < outageDirectory.windowEnd 1 := by
    decide
  have fresh : outageCall.resolution.isRecorded (.connector "directory") = false := rfl
  have inWindow := (no_invocation_within_window outage_nonDecreasing outageOccasions () {} found
    (Nat.zero_lt_succ _)).2.1 _ outageCall 1 outage_visits fresh (.inr outage_failedAt) early
  exact ⟨outage_failedAt, early, inWindow⟩

end AttributeRelease.Resolver
