import AttributeRelease.Proofs.Walk.Failures

/-!
# When connectors are run

A journal tells that a connector was run, but not when. Each run that it tells of is one of the
request's invocations (`Attests`): the connector was visited outside of its no-retry window, and was
run once its dependencies were visited. From then on the log of failures keeps the connector's last
failure or has a later one (`FailureLog.Advances`).
-/

namespace AttributeRelease.Resolver

variable {σ : Type} {resolver : Resolver σ} {clock : σ → Instant × σ} {start : Progress σ}

/-! ## Last failures -/

namespace FailureLog

/-- A failure of a connector is only followed by later ones. -/
structure Advances (id : String) (before after : FailureLog) : Prop where
  followed : after.slots.contains id = before.slots.contains id
  last : ∀ last, before.last? id = some last →
    ∃ later, after.last? id = some later ∧ last ≤ later

variable {id : String} {first middle last log : FailureLog}

theorem Advances.refl (id : String) (log : FailureLog) : Advances id log log :=
  ⟨rfl, fun last found => ⟨last, found, le_rfl⟩⟩

theorem Advances.trans (left : Advances id first middle) (right : Advances id middle last) :
    Advances id first last where
  followed := right.followed.trans left.followed
  last := fun failure found => by
    obtain ⟨later, foundLater, less⟩ := left.last failure found
    obtain ⟨latest, foundLatest, lessLater⟩ := right.last later foundLater
    exact ⟨latest, foundLatest, less.trans lessLater⟩

theorem advances_of_last?_eq (followed : last.slots.contains id = first.slots.contains id)
    (same : last.last? id = first.last? id) : Advances id first last :=
  ⟨followed, fun failure found => ⟨failure, same.trans found, le_rfl⟩⟩

/-- The later of two instants is no earlier than either. -/
theorem le_of_later {before : Option Int} {millis after : Int}
    (found : later before millis = some after) :
    millis ≤ after ∧ ∀ last, before = some last → last ≤ after := by
  cases before with
  | none =>
      cases found
      exact ⟨le_rfl, nofun⟩
  | some last =>
      cases found
      refine ⟨le_max_right last millis, fun other same => ?_⟩
      cases same
      exact le_max_left last millis

/-- A failure is only noted where there is a place for it. -/
theorem contains_record (log : FailureLog) (noted : String) (instant : Instant) (id : String) :
    (log.record noted instant).slots.contains id = log.slots.contains id := by
  rw [record]
  split
  · rename_i last found
    by_cases same : noted = id
    · subst same
      simp [KeyMap.contains, KeyMap.get?_insert, found]
    · simp [KeyMap.contains, KeyMap.get?_insert, same]
  · rfl

/-- A failure that is noted is not forgotten for an earlier one. -/
theorem last?_record_self (followed : log.slots.contains id = true) (instant : Instant) :
    (log.record id instant).last? id = later (log.last? id) instant.millis := by
  obtain ⟨last, found⟩ := (log.slots.contains_iff id).mp followed
  simp only [record, found, last?, KeyMap.get?_insert, if_true, Option.join_some]

/-- Noting a failure moves the last failure of a connector forward or not at all. -/
theorem advances_record (log : FailureLog) (noted : String) (instant : Instant) (id : String) :
    Advances id log (log.record noted instant) := by
  by_cases same : id = noted
  · subst same
    refine ⟨contains_record log id instant id, fun last found => ?_⟩
    have followed : log.slots.contains id = true := by
      cases slot : log.slots.get? id with
      | none => simp [last?, slot] at found
      | some _ => simp [KeyMap.contains, slot]
    rw [last?_record_self followed]
    exact ⟨_, rfl, (le_of_later rfl).2 last found⟩
  · exact advances_of_last?_eq (contains_record log noted instant id)
      (log.last?_record same instant)

end FailureLog

/-- Only failures of the source are noted, at the time that the clock then shows. -/
theorem noteFailure_failures (clock : σ → Instant × σ) (id : String) (error : ResolutionError)
    (progress : Progress σ) :
    (noteFailure clock id error progress).failures =
      if error.isSourceFailure then progress.failures.record id (clock progress.world).1
      else progress.failures := by
  simp only [noteFailure]
  cases error.isSourceFailure <;> rfl

/-- Running a connector moves the last failures forward or not at all, whatever its outcome. -/
theorem fetchConnector_advances (clock : σ → Instant × σ) (id : String) (connector : Connector σ)
    (progress : Progress σ) (other : String) :
    FailureLog.Advances other progress.failures
      (fetchConnector clock id connector progress).2.failures := by
  simp only [fetchConnector, Progress.run]
  split
  · exact .refl _ _
  · rw [noteFailure_failures]
    split
    · exact FailureLog.advances_record _ _ _ _
    · exact .refl _ _

/-- No step of a walk takes a last failure back. -/
theorem advances_stepLaw (resolver : Resolver σ) (clock : σ → Instant × σ) (id : String) :
    StepLaw resolver clock fun before after =>
      FailureLog.Advances id before.failures after.failures where
  refl := fun _ => .refl _ _
  trans := fun first second => first.trans second
  reads := fun _ => .refl _ _
  passes := fun _ _ => .refl _ _
  defines := fun {_ definition} _ progress => by
    rw [runDefinition_failures]
    exact .refl _ _
  fetches := fun {noted connector} _ progress =>
    fetchConnector_advances clock noted connector progress id
  records := fun _ _ => .refl _ _

/-- Inside of a connector no failure of it is noted. -/
theorem Runs.last?_of_inside {inside : List PluginRef} {errand : Errand} {before after : Progress σ}
    {outcome : Except Halt Unit} (runs : Runs resolver clock inside errand before outcome after)
    {id : String} (within : .connector id ∈ inside) :
    after.failures.last? id = before.failures.last? id := by
  have spared {other : String} {connector : Connector σ} {inside : List PluginRef}
      {start ran : Progress σ} {answer : Except ResolutionError (Option AttributeMap)}
      (outside : .connector other ∉ inside) (within : .connector id ∈ inside)
      (answered : fetchConnector clock other connector start = (answer, ran)) :
      ran.failures.last? id = start.failures.last? id := by
    have differs : id ≠ other := fun same => outside (same ▸ within)
    exact (fetched_of_fetchConnector answered).failures id differs
  induction runs with
  | idle | stuck | propagated | absorbed | done => rfl
  | definition _ _ _ _ ih =>
      rw [runDefinition_failures]
      exact ih (List.mem_cons_of_mem _ within)
  | definitionHalted _ _ _ _ ih => exact ih (List.mem_cons_of_mem _ within)
  | passedOver _ _ _ clockRead _ _ ih | connectorHalted _ _ _ clockRead _ _ ih =>
      obtain ⟨-, rfl⟩ := readClock_eq clockRead
      exact ih (List.mem_cons_of_mem _ within)
  | fetched _ _ outside clockRead _ _ answered ih =>
      obtain ⟨-, rfl⟩ := readClock_eq clockRead
      exact (spared outside within answered).trans (ih (List.mem_cons_of_mem _ within))
  | fetchFailed _ _ outside clockRead _ _ failed _ ihDependencies ihReplaced =>
      obtain ⟨-, rfl⟩ := readClock_eq clockRead
      have ran := spared outside within failed
      have replaced := ihReplaced (List.mem_cons_of_mem _ within)
      exact replaced.trans (ran.trans (ihDependencies (List.mem_cons_of_mem _ within)))
  | failedOver _ _ ih => exact ih within
  | failoverHalted _ _ ih => exact ih within
  | next _ _ ihFirst ihOthers => exact (ihOthers within).trans (ihFirst within)
  | halted _ ih => exact ih within

/-! ## Invocations -/

/-- A request comes to run a connector: it visits it without a record and outside of its no-retry
window, and has then visited its dependencies. -/
inductive Invokes (resolver : Resolver σ) (clock : σ → Instant × σ) (start : Progress σ)
    (id : String) (connector : Connector σ) : Progress σ → Prop
  | intro {inside : List PluginRef} {before read moment : Progress σ} {now : Instant}
      (visits : Visits resolver clock start inside (.connector id) before)
      (found : resolver.connectors.get? id = some connector)
      (fresh : before.resolution.isRecorded (.connector id) = false)
      (clockRead : before.readClock clock = (now, read))
      (noWindow : read.failures.inNoRetryWindow id connector.settings.noRetryDelay now = false)
      (dependencies : Runs resolver clock (.connector id :: inside)
        (.visitAll connector.settings.dependencies.refs) read (.ok ()) moment) :
      Invokes resolver clock start id connector moment

/-- Before it runs a connector a request keeps to what its steps keep to. -/
theorem StepLaw.invoked {law : Progress σ → Progress σ → Prop} (steps : StepLaw resolver clock law)
    (sets : ∀ (progress : Progress σ) (preResolved released : AttributeMap),
      law progress { progress with
        resolution := { progress.resolution with preResolved, released } })
    {id : String} {connector : Connector σ} {moment : Progress σ}
    (invokes : Invokes resolver clock start id connector moment) : law start moment := by
  have parts := steps.walkLaw fun progress => sets progress _ progress.resolution.released
  cases invokes with
  | intro visits found fresh clockRead noWindow dependencies =>
      have visited := parts.trans (parts.visited visits) (parts.read clockRead)
      exact parts.trans visited (steps.runs dependencies)

/-- After it ran a connector a request keeps to what all that follows keeps to. -/
theorem RestLaw.invoked {law : Progress σ → Progress σ → Prop} (rest : RestLaw resolver clock law)
    {id : String} {connector : Connector σ} {moment : Progress σ}
    (invokes : Invokes resolver clock start id connector moment) :
    law (fetchConnector clock id connector moment).2 (resolve resolver clock start).2 := by
  cases invokes with
  | intro visits found fresh clockRead noWindow dependencies =>
      have outside := visits.reaches.outside (hasPlugin_connector found)
      obtain ⟨outcome, after, whole, kept⟩ :=
        rest.fetched dependencies found fresh outside clockRead noWindow
      exact rest.trans kept (rest.follows visits whole)

/-- Each run of a connector that the journal tells of is an invocation of the request, and failures
have only advanced since. -/
def Attests (resolver : Resolver σ) (clock : σ → Instant × σ) (start : Progress σ) (id : String)
    (progress : Progress σ) : Prop :=
  ∀ earlier seen later, progress.journal = earlier ++ .ran (.connector id) seen :: later →
    ∃ connector moment, Invokes resolver clock start id connector moment ∧
      moment.journal = earlier ∧ moment.resolution = seen ∧
        (fetchConnector clock id connector moment).2.failures.Advances id progress.failures

variable {id : String} {progress other : Progress σ}

/-- When the journal is written on, the new runs must be invocations too. -/
theorem Attests.extend (attests : Attests resolver clock start id progress) {events : List Event}
    (journal : other.journal = progress.journal ++ events)
    (advances : FailureLog.Advances id progress.failures other.failures)
    (new : ∀ earlier seen later, events = earlier ++ .ran (.connector id) seen :: later →
      ∃ connector moment, Invokes resolver clock start id connector moment ∧
        moment.journal = progress.journal ++ earlier ∧ moment.resolution = seen ∧
          (fetchConnector clock id connector moment).2.failures.Advances id other.failures) :
    Attests resolver clock start id other := by
  intro earlier seen later written
  rw [journal, List.append_eq_append_iff] at written
  rcases written with ⟨middle, rfl, split⟩ | ⟨middle, split, rest⟩
  · exact new middle seen later split
  · cases middle with
    | nil =>
        rw [List.append_nil] at split
        have ran := new [] seen later rest.symm
        rw [List.append_nil, split] at ran
        exact ran
    | cons event others =>
        cases (List.cons.inj rest).1
        obtain ⟨connector, moment, invokes, before, shown, advanced⟩ :=
          attests earlier seen others split
        exact ⟨connector, moment, invokes, before, shown, advanced.trans advances⟩

/-- Nothing new was run of the connector. -/
theorem Attests.extend_silent (attests : Attests resolver clock start id progress)
    {events : List Event} (journal : other.journal = progress.journal ++ events)
    (advances : FailureLog.Advances id progress.failures other.failures)
    (silent : ∀ seen, .ran (.connector id) seen ∉ events) :
    Attests resolver clock start id other := by
  refine attests.extend journal advances fun earlier seen later split => ?_
  refine absurd ?_ (silent seen)
  rw [split]
  exact List.mem_append_right _ List.mem_cons_self

theorem Event.Tells.ran {plugin ran : PluginRef} {seen shown : Resolution} {events : List Event}
    (tells : Event.Tells plugin seen events) (member : .ran ran shown ∈ events) : ran = plugin := by
  rcases tells with rfl | ⟨error, rfl⟩
  · cases List.mem_singleton.mp member
    rfl
  · simp only [List.mem_cons, Event.ran.injEq, reduceCtorEq, List.not_mem_nil, or_false] at member
    exact member.1

/-- That a plugin was run is written down first, with what it was shown. -/
theorem Event.Tells.split {plugin ran : PluginRef} {seen shown : Resolution}
    {events earlier later : List Event} (tells : Event.Tells plugin seen events)
    (split : events = earlier ++ .ran ran shown :: later) : earlier = [] ∧ shown = seen := by
  cases earlier with
  | nil =>
      refine ⟨rfl, ?_⟩
      rcases tells with rfl | ⟨error, rfl⟩
      · cases split
        rfl
      · cases split
        rfl
  | cons event others =>
      rcases tells with rfl | ⟨error, rfl⟩
      · simp at split
      · cases others with
        | nil => simp at split
        | cons _ _ => simp at split

/-- Running a connector writes down an invocation of it, and of no other connector. -/
theorem Attests.fetch {noted : String} {connector : Connector σ}
    (attests : Attests resolver clock start id progress)
    (invokes : Invokes resolver clock start noted connector progress) :
    Attests resolver clock start id (fetchConnector clock noted connector progress).2 := by
  obtain ⟨events, tells, journal⟩ := fetchConnector_journal clock noted connector progress
  have advances := fetchConnector_advances clock noted connector progress id
  by_cases same : id = noted
  · subst same
    refine attests.extend journal advances fun earlier seen later split => ?_
    obtain ⟨rfl, rfl⟩ := tells.split split
    exact ⟨connector, progress, invokes, (List.append_nil _).symm, rfl, .refl _ _⟩
  · refine attests.extend_silent journal advances fun seen member => same ?_
    cases tells.ran member
    rfl

/-- The journal of an errand of a request tells of no other runs than invocations. -/
theorem Runs.attests {inside : List PluginRef} {errand : Errand} {before after : Progress σ}
    {outcome : Except Halt Unit} (runs : Runs resolver clock inside errand before outcome after)
    (covered : errand.Covered resolver clock start inside before)
    (attests : Attests resolver clock start id before) :
    Attests resolver clock start id after := by
  induction runs with
  | idle | stuck | propagated | done => exact attests
  | @definition _ other definition _ middle found fresh outside dependencies ih =>
      have visited := ih (covered.coversDefinition found fresh) attests
      obtain ⟨events, tells, journal⟩ := runDefinition_journal other definition middle
      have advances := (advances_stepLaw resolver clock id).defines found middle
      exact visited.extend_silent journal advances fun seen member => nomatch tells.ran member
  | definitionHalted found fresh outside dependencies ih =>
      exact ih (covered.coversDefinition found fresh) attests
  | @passedOver inside _ _ _ _ _ _ _ found fresh outside clockRead window replaced ih =>
      have unusable : Unusable resolver clock inside _ _ _ _ _ := .passedOver clockRead window
      obtain ⟨-, rfl⟩ := readClock_eq clockRead
      refine ih (covered.coversFailover found fresh unusable) ?_
      exact attests.extend_silent rfl (.refl _ _) (by simp)
  | connectorHalted found fresh outside clockRead noWindow dependencies ih =>
      have covers := covered.coversConnector found fresh clockRead noWindow
      obtain ⟨-, rfl⟩ := readClock_eq clockRead
      exact ih covers attests
  | fetched found fresh outside clockRead noWindow dependencies answered ih =>
      have invokes := Invokes.intro covered found fresh clockRead noWindow dependencies
      have covers := covered.coversConnector found fresh clockRead noWindow
      obtain ⟨-, rfl⟩ := readClock_eq clockRead
      have ran := (ih covers attests).fetch invokes
      rw [answered] at ran
      exact ran
  | fetchFailed found fresh outside clockRead noWindow dependencies failed replaced
      ihDependencies ihReplaced =>
      have invokes := Invokes.intro covered found fresh clockRead noWindow dependencies
      have covers := covered.coversConnector found fresh clockRead noWindow
      have fails := failsWith_iff.mpr (fetched_of_fetchConnector failed).answered.symm
      have unusable := Unusable.failed clockRead noWindow dependencies fails
      obtain ⟨-, rfl⟩ := readClock_eq clockRead
      have ran := (ihDependencies covers attests).fetch invokes
      rw [failed] at ran unusable
      exact ihReplaced (covered.coversFailover found fresh unusable) ran
  | failedOver named resolved ih => exact ih (covered _ named) attests
  | failoverHalted named resolved ih => exact ih (covered _ named) attests
  | absorbed => exact attests
  | next first others ihFirst ihOthers =>
      have visited := ihFirst (visits_of_covers covered) attests
      exact ihOthers (covers_rest covered first) visited
  | halted first ih => exact ih (visits_of_covers covered) attests

/-- What the visits from outside preserve holds at the end of a request, whatever is kept and
released in between. -/
theorem resolve_along {holds : Progress σ → Prop} (begins : holds start)
    (stages : ∀ refs first, Stage resolver clock start refs first → holds first →
      holds (visitAll resolver clock refs first).2)
    (sets : ∀ (progress : Progress σ) (preResolved released : AttributeMap), holds progress →
      holds { progress with resolution := { progress.resolution with preResolved, released } }) :
    holds (resolve resolver clock start).2 := by
  have preResolved : holds (preResolve resolver clock start).2 := by
    have visited := stages _ _ .preRequested begins
    unfold preResolve
    split
    · exact begins
    · rw [Step.andThen_eq]
      split
      · exact sets _ _ _ visited
      · exact visited
  unfold resolve
  rw [Step.andThen_eq]
  cases kept : (preResolve resolver clock start).1 with
  | error halt => exact preResolved
  | ok done =>
      have exported := stages _ _ (.exporting (Prod.ext kept rfl)) preResolved
      simp only
      rw [Step.andThen_eq]
      cases visited : (visitAll resolver clock ((exportingIds resolver).map .connector)
          (preResolve resolver clock start).2).1 with
      | error halt => exact exported
      | ok done =>
          have asked :=
            stages _ _ (.requested (Prod.ext kept rfl) (Prod.ext visited rfl)) exported
          simp only
          rw [Step.andThen_eq]
          split
          · exact sets _ _ _ asked
          · exact asked

/-- The journal of a request tells of no other runs than its invocations. -/
theorem resolve_attests (empty : start.journal = []) (id : String) :
    Attests resolver clock start id (resolve resolver clock start).2 := by
  refine resolve_along (fun earlier seen later written => ?_) (fun refs first stage attests => ?_)
    fun _ _ _ attests => attests
  · rw [empty] at written
    exact absurd written (by simp)
  · have runs : Runs resolver clock [] (.visitAll refs) first _ _ := runs_visitAll refs first
    exact runs.attests stage.covers attests

end AttributeRelease.Resolver
