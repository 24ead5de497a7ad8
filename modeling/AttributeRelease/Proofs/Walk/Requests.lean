import AttributeRelease.Proofs.Walk.Alongside
import AttributeRelease.Proofs.Walk.Needs

/-!
# Requests for more and for less

When each plugin depends on nothing but its dependencies, and the clock stands still, evaluation
tells beforehand what a request will visit (`Visits.wanted`), whatever order it goes in: which
connectors it will pass over or find failing depends on where it starts alone (`Unusable.missed`,
`Visits.unusable_of_missed`). So a request that asks for less than one that succeeds meets no
connector that would end it (`succeeds_of_fewer`), and has the same records as far as it goes
(`retains_of_fewer`). In which order, how often and among which unknown ids definitions are asked
for makes no difference (`resolve_of_fewer_ids`).
-/

namespace AttributeRelease.Resolver

variable {σ : Type} {resolver : Resolver σ} {clock : σ → Instant × σ}
  {origin start before : Progress σ} {now : Instant} {inside : List PluginRef}

/-- When what was recorded before agrees with evaluation from some origin, and a part of a request
ends well, what is recorded then does as well. -/
def KeepsFaithful (resolver : Resolver σ) (origin : Progress σ) (now : Instant)
    (before : Progress σ) (outcome : Except Halt Unit) (after : Progress σ) : Prop :=
  Faithful resolver origin now [] before → outcome = .ok () →
    Faithful resolver origin now [] after

theorem KeepsFaithful.trans {middle after : Progress σ} {outcome : Except Halt Unit}
    (first : KeepsFaithful resolver origin now before (.ok ()) middle)
    (second : KeepsFaithful resolver origin now middle outcome after) :
    KeepsFaithful resolver origin now before outcome after :=
  fun faithful => second (first faithful rfl)

theorem keepsFaithful_sets (progress : Progress σ) (preResolved released : AttributeMap) :
    KeepsFaithful resolver origin now progress (.ok ()) { progress with
      resolution := { progress.resolution with preResolved, released } } :=
  fun faithful _ => ⟨{ faithful.evaluated with }, faithful.failures⟩

/-! ## What evaluation tells beforehand -/

/-- At the origin a connector is outside of its no-retry window. -/
def IsTried (resolver : Resolver σ) (origin : Progress σ) (now : Instant) (id : String) : Prop :=
  ∃ connector, resolver.connectors.get? id = some connector ∧
    origin.failures.inNoRetryWindow id connector.settings.noRetryDelay now = false

/-- Evaluation has no usable result of a connector itself: the connector is inside its no-retry
window at the origin, or its outcome is an error. -/
inductive IsMissed (resolver : Resolver σ) (origin : Progress σ) (now : Instant) (id : String) :
    Prop
  | passedOver {connector : Connector σ} (found : resolver.connectors.get? id = some connector)
      (window : origin.failures.inNoRetryWindow id connector.settings.noRetryDelay now = true) :
      IsMissed resolver origin now id
  | failed {connector : Connector σ} {shown : Resolution} {error : ResolutionError}
      (found : resolver.connectors.get? id = some connector)
      (viewed : view? resolver origin now connector.settings.dependencies = some shown)
      (outcome : connectorOutcome connector.settings id (connector.fetch shown origin.world).1 =
        .error error) : IsMissed resolver origin now id

/-- The plugins that are needed when some are asked for, as evaluation tells. -/
abbrev Wanted (resolver : Resolver σ) (origin : Progress σ) (now : Instant)
    (asked : PluginRef → Prop) : PluginRef → Prop :=
  Needed resolver asked (IsTried resolver origin now) (IsMissed resolver origin now)

/-- A request begins with no plugin that another does not begin with. -/
def AsksLess (resolver : Resolver σ) (fewer more : Resolution) : Prop :=
  ∀ ref, IsRoot resolver fewer.requestedIds ref → IsRoot resolver more.requestedIds ref

/-- Nothing was done for a request yet, and it starts as evaluation from some origin does. -/
structure IsNew (resolver : Resolver σ) (origin : Progress σ) (now : Instant)
    (start : Progress σ) : Prop where
  faithful : Faithful resolver origin now [] start
  unrecorded : ∀ ref, start.resolution.isRecorded ref = false
  silent : start.journal = []

/-- Of two states that agree with evaluation one has the other's records, once it has records of the
same plugins. -/
theorem Evaluated.retains {first second : Resolution}
    (left : Evaluated resolver origin now first) (right : Evaluated resolver origin now second)
    (kept : ∀ ref, first.isRecorded ref = true → second.isRecorded ref = true) :
    first.Retains second where
  definitions := fun id record found => by
    have recorded := kept (.definition id) ((first.definitions.contains_iff id).mpr ⟨record, found⟩)
    obtain ⟨other, foundOther⟩ := (second.definitions.contains_iff id).mp recorded
    have given := left.definitions id record found
    cases given.symm.trans (right.definitions id other foundOther)
    exact foundOther
  connectors := fun id record found => by
    have recorded := kept (.connector id) ((first.connectors.contains_iff id).mpr ⟨record, found⟩)
    obtain ⟨other, foundOther⟩ := (second.connectors.contains_iff id).mp recorded
    have given := left.connectors id record found
    cases given.symm.trans (right.connectors id other foundOther)
    exact foundOther

section Comparison

variable (steady : ∀ world, (clock world).1 = now) (determined : resolver.Determined)
include steady determined

/-! ### Requests agree with evaluation -/

theorem visitAll_keepsFaithful (refs : List PluginRef) :
    (visitAll resolver clock refs).Obeys (KeepsFaithful resolver origin now) :=
  fun progress faithful ended =>
    (runs_visitAll refs progress).faithful steady determined (List.forall_mem_nil _) trivial
      faithful ended

/-- A request that succeeds has recorded what evaluation gives. -/
theorem resolve_faithful (begins : Faithful resolver origin now [] start)
    (succeeded : (resolve resolver clock start).1 = .ok ()) :
    Faithful resolver origin now [] (resolve resolver clock start).2 :=
  resolve_obeys KeepsFaithful.trans (visitAll_keepsFaithful steady determined) keepsFaithful_sets
    start begins succeeded

theorem Stage.faithful (begins : Faithful resolver origin now [] start) {refs : List PluginRef}
    {first : Progress σ} (stage : Stage resolver clock start refs first) :
    Faithful resolver origin now [] first := by
  have visits : ∀ refs, (visitAll resolver clock refs).Obeys (KeepsFaithful resolver origin now) :=
    visitAll_keepsFaithful steady determined
  have preResolved : (preResolve resolver clock).Obeys (KeepsFaithful resolver origin now) :=
    preResolve_obeys_keeping KeepsFaithful.trans visits fun progress =>
      keepsFaithful_sets progress _ progress.resolution.released
  have kept := preResolved start begins
  cases stage with
  | preRequested => exact begins
  | exporting succeeded =>
      rw [succeeded] at kept
      exact kept rfl
  | @requested middle _ succeeded exported =>
      rw [succeeded] at kept
      have visited := visits ((exportingIds resolver).map .connector) middle (kept rfl)
      rw [exported] at visited
      exact visited rfl

/-- What is noted of a connector does not matter inside of it. -/
theorem Unusable.faithful {id : String} {connector : Connector σ} {after : Progress σ}
    {reason : ResolutionError}
    (unusable : Unusable resolver clock inside id connector before reason after)
    (faithful : Faithful resolver origin now inside before)
    (fresh : before.resolution.isRecorded (.connector id) = false)
    (outside : .connector id ∉ inside) :
    Faithful resolver origin now (.connector id :: inside) after := by
  cases unusable with
  | passedOver clockRead window =>
      obtain ⟨-, read⟩ := faithful.readClock steady clockRead fresh outside 0
      exact read.congr rfl rfl
  | failed clockRead noWindow dependencies fails =>
      obtain ⟨-, read⟩ := faithful.readClock steady clockRead fresh outside 0
      have ready := dependencies.faithful steady determined (List.forall_mem_nil _) trivial read rfl
      exact ready.fetched (fetched_of_fetchConnector rfl)

/-- Whenever a request visits a plugin, what it has recorded agrees with evaluation. -/
theorem Visits.faithful (begins : Faithful resolver origin now [] start) {ref : PluginRef}
    (visits : Visits resolver clock start inside ref before) :
    Faithful resolver origin now inside before := by
  induction visits with
  | ofStage stage listed done =>
      have first := stage.faithful steady determined begins
      exact done.faithful steady determined (List.forall_mem_nil _) trivial first rfl
  | ofDefinition visits found fresh listed done ih =>
      exact done.faithful steady determined (List.forall_mem_nil _) trivial (ih.enter _) rfl
  | ofConnector visits found fresh clockRead noWindow listed done ih =>
      have outside := visits.reaches.outside (hasPlugin_connector found)
      obtain ⟨-, read⟩ := ih.readClock steady clockRead fresh outside 0
      exact done.faithful steady determined (List.forall_mem_nil _) trivial read rfl
  | failover visits found fresh unusable named ih =>
      have outside := visits.reaches.outside (hasPlugin_connector found)
      exact unusable.faithful steady determined ih fresh outside

/-- A connector answers as in an evaluation once its dependencies were visited. -/
theorem Faithful.connectorOutcome_eq {id : String} {connector : Connector σ}
    {read middle : Progress σ} (entered : Faithful resolver origin now inside read)
    (found : resolver.connectors.get? id = some connector)
    (dependencies : Runs resolver clock inside
      (.visitAll connector.settings.dependencies.refs) read (.ok ()) middle) :
    ∃ shown, view? resolver origin now connector.settings.dependencies = some shown ∧
      connectorOutcome connector.settings id
          (connector.fetch middle.resolution middle.world).1 =
        connectorOutcome connector.settings id (connector.fetch shown origin.world).1 := by
  have ready :=
    dependencies.faithful steady determined (List.forall_mem_nil _) trivial entered rfl
  have recorded := dependencies.dependencies_recorded fun _ => declares_connector_iff found
  obtain ⟨shown, viewed, agrees⟩ := ready.evaluated.view recorded
  have answer := determined.connectors id connector found _ _ middle.world origin.world agrees
  exact ⟨shown, viewed, by rw [answer]⟩

/-- A connector that a request finds unusable is missed in an evaluation. -/
theorem Unusable.missed {id : String} {connector : Connector σ} {after : Progress σ}
    {reason : ResolutionError}
    (unusable : Unusable resolver clock inside id connector before reason after)
    (faithful : Faithful resolver origin now inside before)
    (found : resolver.connectors.get? id = some connector)
    (fresh : before.resolution.isRecorded (.connector id) = false)
    (outside : .connector id ∉ inside) : IsMissed resolver origin now id := by
  cases unusable with
  | passedOver clockRead window =>
      obtain ⟨same, -⟩ := faithful.readClock steady clockRead fresh outside _
      exact .passedOver found (same.symm.trans window)
  | failed clockRead noWindow dependencies fails =>
      obtain ⟨-, read⟩ := faithful.readClock steady clockRead fresh outside 0
      obtain ⟨shown, viewed, same⟩ := read.connectorOutcome_eq steady determined found dependencies
      exact .failed found viewed (same.symm.trans (failsWith_iff.mp fails))

/-- A connector that is missed in an evaluation turns out to be unusable when a request that
succeeds visits it. -/
theorem Visits.unusable_of_missed (begins : Faithful resolver origin now [] start)
    (succeeded : (resolve resolver clock start).1 = .ok ()) {id : String}
    {connector : Connector σ} (visits : Visits resolver clock start inside (.connector id) before)
    (found : resolver.connectors.get? id = some connector)
    (fresh : before.resolution.isRecorded (.connector id) = false)
    (missed : IsMissed resolver origin now id) :
    ∃ reason after, Unusable resolver clock inside id connector before reason after := by
  have faithful := visits.faithful steady determined begins
  have outside := visits.reaches.outside (hasPlugin_connector found)
  rcases clockRead : before.readClock clock with ⟨instant, read⟩
  obtain ⟨same, entered⟩ :=
    faithful.readClock steady clockRead fresh outside connector.settings.noRetryDelay
  cases window : read.failures.inNoRetryWindow id connector.settings.noRetryDelay instant with
  | true => exact ⟨_, _, .passedOver clockRead window⟩
  | false =>
      cases missed with
      | passedOver foundThere windowThere =>
          cases found.symm.trans foundThere
          cases windowThere.symm.trans (same.symm.trans window)
      | failed foundThere viewed outcome =>
          cases found.symm.trans foundThere
          obtain ⟨middle, dependencies⟩ :=
            visits.dependencies_ok succeeded found fresh clockRead window
          obtain ⟨shown, viewedHere, answer⟩ :=
            entered.connectorOutcome_eq steady determined found dependencies
          cases viewed.symm.trans viewedHere
          have fails := failsWith_iff.mpr (answer.trans outcome)
          exact ⟨_, _, .failed clockRead window dependencies fails⟩

/-! ### What is wanted is recorded -/

/-- What a request visits is wanted as evaluation tells, whether the request succeeds or not. -/
theorem Visits.wanted (begins : Faithful resolver origin now [] start) {ref : PluginRef}
    (visits : Visits resolver clock start inside ref before)
    (known : hasPlugin resolver ref = true) :
    Wanted resolver origin now (IsRoot resolver start.resolution.requestedIds) ref := by
  refine visits.needed_of (fun visits found fresh clockRead noWindow => ?_)
    (fun visits found fresh unusable => ?_) known
  · have faithful := visits.faithful steady determined begins
    have outside := visits.reaches.outside (hasPlugin_connector found)
    obtain ⟨same, -⟩ := faithful.readClock steady clockRead fresh outside _
    exact ⟨_, found, same.symm.trans noWindow⟩
  · have faithful := visits.faithful steady determined begins
    have outside := visits.reaches.outside (hasPlugin_connector found)
    exact unusable.missed steady determined faithful found fresh outside

/-- What a new request wants has a record in the end, if the request succeeds. -/
theorem IsNew.recorded_of_wanted (new : IsNew resolver origin now start)
    (succeeded : (resolve resolver clock start).1 = .ok ()) {ref : PluginRef}
    (wanted : Wanted resolver origin now (IsRoot resolver start.resolution.requestedIds) ref) :
    (resolve resolver clock start).2.resolution.isRecorded ref = true := by
  refine wanted.recorded_of new.unrecorded succeeded (fun id recorded tried => ?_)
    fun id recorded missed => ?_
  · obtain ⟨inside, before, visits, known, fresh⟩ :=
      enters_of_recorded new.unrecorded new.silent recorded
    obtain ⟨connector, found, noWindow⟩ := tried
    have faithful := visits.faithful steady determined new.faithful
    obtain ⟨same, -⟩ := faithful.readClock steady rfl fresh (visits.reaches.outside known)
      connector.settings.noRetryDelay
    exact visits.invoked succeeded found fresh rfl (same.trans noWindow)
  · obtain ⟨inside, before, visits, known, fresh⟩ :=
      enters_of_recorded new.unrecorded new.silent recorded
    obtain ⟨connector, found⟩ := (resolver.connectors.contains_iff id).mp known
    obtain ⟨reason, after, unusable⟩ :=
      visits.unusable_of_missed steady determined new.faithful succeeded found fresh missed
    exact ⟨inside, connector, before, reason, after, visits, found, fresh, unusable⟩

/-! ### Less and more -/

variable {fewer more : Progress σ}

/-- What a request visits is recorded by one that asks for all that it asks for and succeeds. -/
theorem Visits.recorded_of_more (less : IsNew resolver origin now fewer)
    (new : IsNew resolver origin now more)
    (asked : AsksLess resolver fewer.resolution more.resolution)
    (succeeded : (resolve resolver clock more).1 = .ok ()) {ref : PluginRef}
    (visits : Visits resolver clock fewer inside ref before)
    (known : hasPlugin resolver ref = true) :
    (resolve resolver clock more).2.resolution.isRecorded ref = true := by
  have wanted := visits.wanted steady determined less.faithful known
  exact new.recorded_of_wanted steady determined succeeded (wanted.mono asked)

/-- A connector that ends a request would end one that asks for all that it asks for as well. -/
theorem Breaks.halts_more (less : IsNew resolver origin now fewer)
    (new : IsNew resolver origin now more)
    (asked : AsksLess resolver fewer.resolution more.resolution)
    {id : String} {connector : Connector σ} {error : ResolutionError} {after : Progress σ}
    (breaks : Breaks resolver clock inside id connector before error after)
    (visits : Visits resolver clock fewer inside (.connector id) before) :
    (resolve resolver clock more).1 ≠ .ok () := by
  intro succeeded
  have known := hasPlugin_connector breaks.found
  have missed := breaks.unusable.missed steady determined
    (visits.faithful steady determined less.faithful) breaks.found breaks.fresh
    (visits.reaches.outside known)
  have recorded :=
    visits.recorded_of_more steady determined less new asked succeeded known
  -- the other request comes to the same connector, if inside of other plugins
  obtain ⟨others, met, visitsMore, -, fresh⟩ :=
    enters_of_recorded new.unrecorded new.silent recorded
  obtain ⟨reason, last, unusable⟩ := visitsMore.unusable_of_missed steady determined new.faithful
    succeeded breaks.found fresh missed
  have breaksMore : Breaks resolver clock others id connector met reason last :=
    ⟨breaks.found, fresh, unusable, breaks.unnamed, breaks.propagates⟩
  rw [breaksMore.halts visitsMore] at succeeded
  cases succeeded

/-- A request that asks for less than one that succeeds, succeeds. -/
theorem succeeds_of_fewer (less : IsNew resolver origin now fewer)
    (new : IsNew resolver origin now more)
    (asked : AsksLess resolver fewer.resolution more.resolution)
    (succeeded : (resolve resolver clock more).1 = .ok ()) :
    (resolve resolver clock fewer).1 = .ok () := by
  cases ended : (resolve resolver clock fewer).1 with
  | ok done => rfl
  | error halt =>
      cases halt with
      | reentered plugin => exact absurd ended (resolve_not_reentered resolver clock fewer plugin)
      | failed error =>
          obtain ⟨inside, id, connector, before, visits, breaks⟩ := isBroken_of_failed ended
          exact absurd succeeded (breaks.halts_more steady determined less new asked visits)

/-- All records of a request are those of one that asks for more, if that succeeds. -/
theorem retains_of_fewer (less : IsNew resolver origin now fewer)
    (new : IsNew resolver origin now more)
    (asked : AsksLess resolver fewer.resolution more.resolution)
    (succeeded : (resolve resolver clock more).1 = .ok ()) :
    (resolve resolver clock fewer).2.resolution.Retains
      (resolve resolver clock more).2.resolution := by
  have succeededLess := succeeds_of_fewer steady determined less new asked succeeded
  have evaluatedLess :=
    (resolve_faithful steady determined less.faithful succeededLess).evaluated
  have evaluated := (resolve_faithful steady determined new.faithful succeeded).evaluated
  refine evaluatedLess.retains evaluated fun ref recorded => ?_
  obtain ⟨inside, before, visits, known, -⟩ :=
    enters_of_recorded less.unrecorded less.silent recorded
  exact visits.recorded_of_more steady determined less new asked succeeded known

end Comparison

/-! ## New requests -/

/-- A request that nothing was done for yet. -/
def newRequest (request : Request) (inbound : AttributeMap) (failures : FailureLog) (world : σ)
    (requestedIds : List String) : Progress σ :=
  { world, failures, resolution := { request, requestedIds, inbound } }

/-- Resolves a new request. -/
def resolveNew (resolver : Resolver σ) (clock : σ → Instant × σ) (request : Request)
    (inbound : AttributeMap) (failures : FailureLog) (world : σ) (requestedIds : List String) :
    Except Halt Unit × Progress σ :=
  resolve resolver clock (newRequest request inbound failures world requestedIds)

/-- Evaluation gives the same for all new requests with the same data, whatever they ask for. -/
theorem newRequest_isNew (resolver : Resolver σ) (now : Instant) (request : Request)
    (inbound : AttributeMap) (failures : FailureLog) (world other : σ) (ids others : List String) :
    IsNew resolver (newRequest request inbound failures other others) now
      (newRequest request inbound failures world ids) where
  faithful := {
    evaluated := {
      request := rfl
      inbound := rfl
      definitions := fun _ record found => nomatch (show none = some record from found)
      connectors := fun _ record found => nomatch (show none = some record from found) }
    failures := fun _ _ _ => rfl }
  unrecorded := fun ref => by cases ref <;> rfl
  silent := rfl

/-- A request that asks for some definitions, and for no known one unless another does so, asks for
less than that. -/
theorem asksLess_of_ids {fewer more : Resolution} (asks : fewer.requestedIds ≠ [])
    (listed : ∀ id ∈ fewer.requestedIds, resolver.definitions.contains id = true →
      id ∈ more.requestedIds) : AsksLess resolver fewer more := by
  intro ref root
  cases root with
  | preRequested first => exact .preRequested first
  | exporting exports => exact .exporting exports
  | requested asked =>
      cases asked with
      | @intro id definition found asked =>
          have known := (resolver.definitions.contains_iff id).mpr ⟨definition, found⟩
          exact .requested (.intro found (.inr (listed id (asked.resolve_left asks) known)))

/-- A new request that asks for no other definitions than one that succeeds, succeeds with records
that are among those of the other. -/
theorem resolveNew_fewer (steady : ∀ world, (clock world).1 = now)
    (determined : resolver.Determined) {request : Request} {inbound : AttributeMap}
    {failures : FailureLog} (world other : σ) {fewer more : List String} (asks : fewer ≠ [])
    (listed : ∀ id ∈ fewer, resolver.definitions.contains id = true → id ∈ more)
    (succeeded : (resolveNew resolver clock request inbound failures other more).1 = .ok ()) :
    (resolveNew resolver clock request inbound failures world fewer).1 = .ok () ∧
      (resolveNew resolver clock request inbound failures world fewer).2.resolution.Retains
        (resolveNew resolver clock request inbound failures other more).2.resolution := by
  have new : ∀ (met : σ) (ids : List String),
      IsNew resolver (newRequest request inbound failures world []) now
        (newRequest request inbound failures met ids) := fun met ids =>
    newRequest_isNew resolver now request inbound failures met world ids []
  have asked : AsksLess resolver (newRequest request inbound failures world fewer).resolution
      (newRequest request inbound failures other more).resolution :=
    asksLess_of_ids asks listed
  exact ⟨succeeds_of_fewer steady determined (new world fewer) (new other more) asked succeeded,
    retains_of_fewer steady determined (new world fewer) (new other more) asked succeeded⟩

/-- Two states of requests hold the same results of plugins and release the same. -/
structure Resolution.SameResults (first second : Resolution) : Prop where
  records : first.SameRecords second
  released : first.released = second.released

/-- New requests that ask for the same definitions succeed together and come to the same. -/
theorem resolveNew_same (steady : ∀ world, (clock world).1 = now)
    (determined : resolver.Determined) {request : Request} {inbound : AttributeMap}
    {failures : FailureLog} (world other : σ) {first second : List String} (asksFirst : first ≠ [])
    (asksSecond : second ≠ [])
    (same : ∀ id, resolver.definitions.contains id = true → (id ∈ first ↔ id ∈ second))
    (succeeded : (resolveNew resolver clock request inbound failures world first).1 = .ok ()) :
    (resolveNew resolver clock request inbound failures other second).1 = .ok () ∧
      (resolveNew resolver clock request inbound failures world first).2.resolution.SameResults
        (resolveNew resolver clock request inbound failures other second).2.resolution := by
  obtain ⟨succeededSecond, retained⟩ := resolveNew_fewer steady determined other world asksSecond
    (fun id member known => (same id known).mpr member) succeeded
  obtain ⟨-, retainedBack⟩ := resolveNew_fewer steady determined world other asksFirst
    (fun id member known => (same id known).mp member) succeededSecond
  have records := retainedBack.antisymm retained
  refine ⟨succeededSecond, records, ?_⟩
  exact (resolve_released succeeded).trans
    ((releasedAttributes_congr records).trans (resolve_released succeededSecond).symm)

/-- Asking for nothing and asking for all definitions are the same. -/
theorem newRequest_alongside (request : Request) (inbound : AttributeMap) (failures : FailureLog)
    (world other : σ) :
    Alongside resolver (newRequest request inbound failures world [])
      (newRequest request inbound failures other resolver.definitions.keys) where
  request := rfl
  inbound := rfl
  requested := by simp [requestedIds, newRequest]
  definitions := rfl
  connectors := rfl
  preResolved := rfl
  released := rfl
  failures := rfl
  events := rfl

/-- Let each plugin depend on nothing but the request and its dependencies, and let the clock stand
still. When a new request for some ids succeeds, so does one with the same data that asks for no
other definitions than the first does, and all that it records the first one has recorded in the
same way. So requests for the same definitions, in whatever order, however often, and among
whatever unknown ids they are asked for, succeed together, with the same records and the same
released attributes. To ask for nothing is to ask for all definitions: both requests end in the same
way, also if they fail. -/
theorem resolve_of_fewer_ids (steady : ∀ world, (clock world).1 = now)
    (determined : resolver.Determined) (request : Request) (inbound : AttributeMap)
    (failures : FailureLog) (world other : σ) :
    (∀ fewer more, fewer ≠ [] → more ≠ [] →
        (∀ id ∈ fewer, resolver.definitions.contains id = true → id ∈ more) →
          (resolveNew resolver clock request inbound failures other more).1 = .ok () →
            (resolveNew resolver clock request inbound failures world fewer).1 = .ok () ∧
              (resolveNew resolver clock request inbound failures world fewer).2.resolution.Retains
                (resolveNew resolver clock request inbound failures other more).2.resolution) ∧
      (∀ first second, first ≠ [] → second ≠ [] →
        (∀ id, resolver.definitions.contains id = true → (id ∈ first ↔ id ∈ second)) →
          ((resolveNew resolver clock request inbound failures world first).1 = .ok () ↔
              (resolveNew resolver clock request inbound failures other second).1 = .ok ()) ∧
            ((resolveNew resolver clock request inbound failures world first).1 = .ok () →
              (resolveNew resolver clock request inbound failures world
                first).2.resolution.SameResults
                  (resolveNew resolver clock request inbound failures other
                    second).2.resolution)) ∧
      (resolveNew resolver clock request inbound failures world []).1 =
        (resolveNew resolver clock request inbound failures other resolver.definitions.keys).1 ∧
      Alongside resolver (resolveNew resolver clock request inbound failures world []).2
        (resolveNew resolver clock request inbound failures other resolver.definitions.keys).2 := by
  refine ⟨fun fewer more asks _ => resolveNew_fewer steady determined world other asks, ?_,
    resolve_parallel steady determined _ _
      (newRequest_alongside request inbound failures world other)⟩
  intro first second asksFirst asksSecond same
  refine ⟨⟨fun succeeded => ?_, fun succeeded => ?_⟩, fun succeeded => ?_⟩
  · exact (resolveNew_same steady determined world other asksFirst asksSecond same succeeded).1
  · exact (resolveNew_same steady determined other world asksSecond asksFirst
      (fun id known => (same id known).symm) succeeded).1
  · exact (resolveNew_same steady determined world other asksFirst asksSecond same succeeded).2

/-- Resolves a request that begins during an outage. -/
def resolveInOutage (ids : List String) : Except Halt Unit × Progress Unit :=
  resolveNew outage outageClock {} ∅ outageFailures () ids

/-- During an outage the mail address is the same with the contact and alone, and released among
whatever is asked for that is unknown. -/
theorem resolve_of_fewer_ids_outage :
    (∀ world, (outageClock world).1 = 1000000) ∧ outage.Determined ∧
      (resolveInOutage ["contact", "mail"]).1 = .ok () ∧
      (resolveInOutage ["mail", "fax"]).1 = .ok () ∧
      (resolveInOutage ["mail", "fax"]).2.resolution.Retains
        (resolveInOutage ["contact", "mail"]).2.resolution ∧
      (resolveInOutage ["mail", "fax"]).2.resolution.released =
        (resolveInOutage ["fax", "mail", "mail", "phone"]).2.resolution.released ∧
      (resolveInOutage []).1 = (resolveInOutage outage.definitions.keys).1 := by
  have steady : ∀ world, (outageClock world).1 = 1000000 := fun _ => rfl
  have succeeded : (resolveInOutage ["contact", "mail"]).1 = .ok () := by decide +kernel
  have keys : outage.definitions.keys = ["contact", "mail"] := by decide +kernel
  have listed : ∀ id ∈ ["mail", "fax"], outage.definitions.contains id = true →
      id ∈ ["contact", "mail"] := by
    decide +kernel
  have alike : ∀ id, outage.definitions.contains id = true →
      (id ∈ ["mail", "fax"] ↔ id ∈ ["fax", "mail", "mail", "phone"]) := by
    intro id known
    rw [← KeyMap.mem_keys_iff, keys] at known
    rcases List.mem_pair.mp known with rfl | rfl <;> decide
  obtain ⟨less, same, all, -⟩ :=
    resolve_of_fewer_ids steady outage_determined {} ∅ outageFailures () ()
  obtain ⟨ended, retained⟩ :=
    less ["mail", "fax"] ["contact", "mail"] (by simp) (by simp) listed succeeded
  have released := ((same ["mail", "fax"] ["fax", "mail", "mail", "phone"] (by simp) (by simp)
    alike).2 ended).released
  refine ⟨steady, outage_determined, succeeded, ended, ?_, released, all⟩
  unfold resolveInOutage
  exact retained

end AttributeRelease.Resolver
