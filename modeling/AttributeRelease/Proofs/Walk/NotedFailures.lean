import AttributeRelease.Proofs.Walk.Windows

/-!
# Which failures are noted

A failure takes the same way through a walk whether it is that of a connector's source, of its
failover or of a dependency, and whether it ends the request or is absorbed. In the log of failures
each is noted for the connector alone whose own answer tells that its source failed
(`TellsFailure`), and nothing else that a call does changes what the log has for a connector
(`own_failure_alone_is_noted`).
-/

namespace AttributeRelease.Resolver

variable {σ : Type} {resolver : Resolver σ} {clock : σ → Instant × σ} {start : Progress σ}
  {id : String} {connector : Connector σ} {moment : Progress σ}

/-! ## A call runs a plugin once -/

theorem mem_invocations_of_ran {journal : List Event} {plugin : PluginRef} {seen : Resolution}
    (member : .ran plugin seen ∈ journal) : plugin ∈ (invocations journal).map Prod.fst := by
  apply List.mem_map.mpr
  exact ⟨(plugin, seen), List.mem_filterMap.mpr ⟨_, member, rfl⟩, rfl⟩

/-- Beside the run of a plugin that the journal of a call tells of, it tells of no other one. -/
theorem resolve_ran_once {plugin : PluginRef} {seen : Resolution} {earlier later : List Event}
    (written : (resolve resolver clock start).2.journal =
      start.journal ++ (earlier ++ .ran plugin seen :: later)) :
    (∀ shown, .ran plugin shown ∉ earlier) ∧ ∀ shown, .ran plugin shown ∉ later := by
  obtain ⟨-, ran, journal, orderly⟩ := resolve_orderly resolver clock start
  have split : ran = invocations earlier ++ (plugin, seen) :: invocations later := by
    have whole := journal.symm
    rw [written, invocations_append, invocations_append] at whole
    exact List.append_cancel_left whole
  have distinct := orderly.distinct
  rw [split, List.map_append, List.map_cons, List.nodup_append, List.nodup_cons] at distinct
  obtain ⟨-, ⟨notLater, -⟩, apart⟩ := distinct
  constructor
  · intro shown member
    exact apart plugin (mem_invocations_of_ran member) plugin List.mem_cons_self rfl
  · intro shown member
    exact notLater (mem_invocations_of_ran member)

/-! ## Without a run -/

/-- The journal is written on. Unless that tells of a run of a connector, it tells of no failure of
the connector either, and the log has the same for it as before. -/
def Spares (id : String) (before after : Progress σ) : Prop :=
  ∃ events, after.journal = before.journal ++ events ∧
    ((∀ seen, .ran (.connector id) seen ∉ events) →
      after.failures.last? id = before.failures.last? id ∧
        ∀ error, .failed (.connector id) error ∉ events)

/-- What writes nothing down and notes no failure spares every connector. -/
theorem Spares.of_same {before after : Progress σ} (journal : after.journal = before.journal)
    (failures : after.failures = before.failures) : Spares id before after := by
  refine ⟨[], by rw [journal, List.append_nil], fun _ => ⟨by rw [failures], ?_⟩⟩
  exact fun _ => List.not_mem_nil

theorem Spares.trans {first middle last : Progress σ} (left : Spares id first middle)
    (right : Spares id middle last) : Spares id first last := by
  obtain ⟨events, journal, spared⟩ := left
  obtain ⟨others, journalLater, sparedLater⟩ := right
  refine ⟨events ++ others, by rw [journalLater, journal, List.append_assoc], fun silent => ?_⟩
  obtain ⟨same, unfailed⟩ := spared fun seen member => silent seen (List.mem_append_left _ member)
  obtain ⟨sameLater, unfailedLater⟩ :=
    sparedLater fun seen member => silent seen (List.mem_append_right _ member)
  refine ⟨sameLater.trans same, fun error member => ?_⟩
  rcases List.mem_append.mp member with early | late
  · exact unfailed error early
  · exact unfailedLater error late

/-- Only the plugin that was run can be told to have failed. -/
theorem Event.Tells.failed {plugin failed : PluginRef} {seen : Resolution} {events : List Event}
    {error : ResolutionError} (tells : Event.Tells plugin seen events)
    (member : .failed failed error ∈ events) : failed = plugin := by
  rcases tells with rfl | ⟨reason, rfl⟩
  · cases List.mem_singleton.mp member
  · simp only [List.mem_cons, reduceCtorEq, Event.failed.injEq, List.not_mem_nil, or_false,
      false_or] at member
    exact member.1

/-- What is written down about another plugin spares a connector. -/
theorem Spares.of_tells {before after : Progress σ} {plugin : PluginRef} {seen : Resolution}
    {events : List Event} (tells : Event.Tells plugin seen events)
    (journal : after.journal = before.journal ++ events) (other : .connector id ≠ plugin)
    (same : after.failures.last? id = before.failures.last? id) : Spares id before after :=
  ⟨events, journal, fun _ => ⟨same, fun _ member => other (tells.failed member)⟩⟩

/-- On a walk the failures of a connector stay as they are unless it is told to have failed. -/
theorem spares_stepLaw (resolver : Resolver σ) (clock : σ → Instant × σ) (id : String) :
    StepLaw resolver clock (Spares id) where
  refl := fun _ => .of_same rfl rfl
  trans := Spares.trans
  reads := fun _ => .of_same rfl rfl
  passes := fun progress other =>
    ⟨[.passedOver other], rfl, fun _ => ⟨rfl, fun _ member => by simp at member⟩⟩
  defines := fun {other definition} _ progress => by
    obtain ⟨events, tells, journal⟩ := runDefinition_journal other definition progress
    apply Spares.of_tells tells journal
    · intro impossible
      cases impossible
    · rw [runDefinition_failures]
  fetches := fun {other connector} _ progress => by
    obtain ⟨events, tells, journal⟩ := fetchConnector_journal clock other connector progress
    by_cases same : id = other
    · -- the run itself is written down
      subst same
      refine ⟨events, journal, fun silent => absurd ?_ (silent progress.resolution)⟩
      rcases tells with rfl | ⟨error, rfl⟩ <;> exact List.mem_cons_self
    · apply Spares.of_tells tells journal
      · intro named
        cases named
        exact same rfl
      · exact (fetched_of_fetchConnector rfl).failures id same
  records := fun _ _ => .of_same rfl rfl

/-! ## With a run -/

/-- That a plugin was run is told before anything else of it. -/
theorem Event.Tells.first {plugin : PluginRef} {seen : Resolution} {events : List Event}
    (tells : Event.Tells plugin seen events) : ∃ others, events = .ran plugin seen :: others := by
  rcases tells with rfl | ⟨error, rfl⟩
  · exact ⟨[], rfl⟩
  · exact ⟨[.failed plugin error], rfl⟩

/-- A call does nothing about a connector before it runs it and after that. -/
structure Alone (resolver : Resolver σ) (clock : σ → Instant × σ) (start : Progress σ)
    (id : String) (connector : Connector σ) (moment : Progress σ) : Prop where
  unnoted : moment.failures.last? id = start.failures.last? id
  noted : (resolve resolver clock start).2.failures.last? id =
    (fetchConnector clock id connector moment).2.failures.last? id
  unfailed : ∀ error, .failed (.connector id) error ∈ moment.journal →
    .failed (.connector id) error ∈ start.journal
  failed : ∀ error, .failed (.connector id) error ∈ (resolve resolver clock start).2.journal ↔
    .failed (.connector id) error ∈ (fetchConnector clock id connector moment).2.journal

/-- A connector that is invoked is invoked only then. -/
theorem Invokes.alone (invokes : Invokes resolver clock start id connector moment) :
    Alone resolver clock start id connector moment := by
  have steps := spares_stepLaw resolver clock id
  have sets : ∀ (progress : Progress σ) (preResolved released : AttributeMap), Spares id progress
      { progress with resolution := { progress.resolution with preResolved, released } } :=
    fun _ _ _ => .of_same rfl rfl
  obtain ⟨earlier, before, sparedBefore⟩ := steps.invoked sets invokes
  obtain ⟨later, after, sparedAfter⟩ := (steps.restLaw sets).invoked invokes
  obtain ⟨events, tells, journal⟩ := fetchConnector_journal clock id connector moment
  obtain ⟨others, rfl⟩ := tells.first
  have written : (resolve resolver clock start).2.journal = start.journal ++
      (earlier ++ .ran (.connector id) moment.resolution :: (others ++ later)) := by
    rw [after, journal, before]
    simp
  obtain ⟨notEarlier, notLater⟩ := resolve_ran_once written
  have quietBefore := sparedBefore notEarlier
  have quietAfter := sparedAfter fun seen member =>
    notLater seen (List.mem_append_right _ member)
  refine ⟨quietBefore.1, quietAfter.1, fun error member => ?_, fun error => ?_⟩
  · rw [before, List.mem_append] at member
    exact member.resolve_right (quietBefore.2 error)
  · rw [after, List.mem_append]
    exact or_iff_left (quietAfter.2 error)

/-! ## The instant of a failure -/

/-- A call learns from a connector at some instant that its source failed: it runs the connector,
whose own answer tells so. -/
inductive TellsFailure (resolver : Resolver σ) (clock : σ → Instant × σ) (start : Progress σ)
    (id : String) : Instant → Prop
  | intro {connector : Connector σ} {moment : Progress σ} {error : ResolutionError} {told : σ}
      (invokes : Invokes resolver clock start id connector moment)
      (answer : connector.fetch moment.resolution moment.world = (.error error, told))
      (source : error.isSourceFailure = true) :
      TellsFailure resolver clock start id (instantIn clock told)

namespace FailureLog

theorem later_eq (last : Option Int) (millis : Int) :
    later last millis = some (last.elim millis (max · millis)) := by
  cases last <;> rfl

/-- Only a failure after the last one makes a difference. -/
theorem later_ne_iff (last : Option Int) (millis : Int) :
    later last millis ≠ last ↔ ∀ noted, last = some noted → noted < millis := by
  cases last with
  | none => simp [later_eq]
  | some noted => simp [later_eq]

end FailureLog

/-- An error of a connector's own is written down as its failure. -/
theorem fetchConnector_failed_journal {progress : Progress σ} {error : ResolutionError}
    {world : σ}
    (answer : connector.fetch progress.resolution progress.world = (.error error, world)) :
    .failed (.connector id) error ∈ (fetchConnector clock id connector progress).2.journal := by
  have outcome : connectorOutcome connector.settings id (.error error) = .error error := rfl
  simp only [fetchConnector, Progress.run, answer, outcome, noteFailure_journal]
  exact List.mem_append_right _ (List.mem_singleton_self _)

/-- A failure that is told of is noted with the instant when it is told of. -/
theorem TellsFailure.noted {instant : Instant}
    (tells : TellsFailure resolver clock start id instant)
    (followed : start.failures.slots.contains id = true) :
    (resolve resolver clock start).2.failures.last? id =
      FailureLog.later (start.failures.last? id) instant.millis := by
  cases tells with
  | intro invokes answer source =>
      have alone := invokes.alone
      rw [alone.noted, fetchConnector_failures answer source, FailureLog.last?_record_self,
        alone.unnoted]
      exact invokes.advances.followed.trans followed

/-- A failure that a call tells of is in its journal. -/
theorem TellsFailure.journal {instant : Instant}
    (tells : TellsFailure resolver clock start id instant) :
    ∃ error, error.isSourceFailure = true ∧
      .failed (.connector id) error ∈ (resolve resolver clock start).2.journal := by
  cases tells with
  | intro invokes answer source =>
      exact ⟨_, source, (invokes.alone.failed _).mpr (fetchConnector_failed_journal answer)⟩

/-! ## No failure of the source -/

/-- A connector that does not answer that its source failed has nothing noted for it. -/
theorem fetchConnector_harmless (clock : σ → Instant × σ) (id : String) {progress : Progress σ}
    (harmless : ∀ error told, connector.fetch progress.resolution progress.world =
      (.error error, told) → error.isSourceFailure = false) :
    (fetchConnector clock id connector progress).2.failures = progress.failures ∧
      ∀ error, error.isSourceFailure = true →
        .failed (.connector id) error ∈ (fetchConnector clock id connector progress).2.journal →
          .failed (.connector id) error ∈ progress.journal := by
  simp only [fetchConnector, Progress.run]
  split
  · exact ⟨rfl, fun error _ member => by simpa [Progress.note] using member⟩
  · rename_i reason outcome
    have spared : reason.isSourceFailure = false := by
      cases failsWith_iff.mpr outcome with
      | failed answer => exact harmless reason _ (Prod.ext answer rfl)
      | noResult => rfl
    constructor
    · rw [noteFailure_failures, spared]
      rfl
    · intro error source member
      have differs : error ≠ reason := by
        rintro rfl
        cases source.symm.trans spared
      rw [noteFailure_journal] at member
      simpa [Progress.note, differs] using member

/-- What is not told of is not noted. -/
theorem unnoted_of_not_tells (empty : start.journal = [])
    (silent : ∀ instant, ¬ TellsFailure resolver clock start id instant) :
    (resolve resolver clock start).2.failures.last? id = start.failures.last? id ∧
      ∀ error, error.isSourceFailure = true →
        .failed (.connector id) error ∉ (resolve resolver clock start).2.journal := by
  by_cases ran : ∃ seen, .ran (.connector id) seen ∈ (resolve resolver clock start).2.journal
  · obtain ⟨seen, member⟩ := ran
    obtain ⟨earlier, later, written⟩ := List.append_of_mem member
    obtain ⟨connector, moment, invokes, -⟩ := resolve_attests empty id earlier seen later written
    have alone := invokes.alone
    have harmless : ∀ error told, connector.fetch moment.resolution moment.world =
        (.error error, told) → error.isSourceFailure = false := by
      intro error told answer
      by_contra source
      rw [Bool.not_eq_false] at source
      exact silent _ (.intro invokes answer source)
    obtain ⟨same, unfailed⟩ := fetchConnector_harmless clock id harmless
    constructor
    · rw [alone.noted, same, alone.unnoted]
    · intro error source failed
      have before := unfailed error source ((alone.failed error).mp failed)
      have atStart := alone.unfailed error before
      rw [empty] at atStart
      exact List.not_mem_nil atStart
  · obtain ⟨events, journal, spared⟩ := (spares_stepLaw resolver clock id).resolves
      (fun _ _ _ => .of_same rfl rfl) start
    rw [empty, List.nil_append] at journal
    rw [journal] at ran ⊢
    obtain ⟨same, unfailed⟩ := spared fun seen member => ran ⟨seen, member⟩
    exact ⟨same, fun error _ => unfailed error⟩

/-- What the log of failures has for a connector is changed by a call only if the call runs that
connector and the connector's own answer tells that its source failed; then it has the later of what
it had and the instant when the call learnt of it, and the journal tells of such a failure. Whatever
else becomes of the connector or of others, and however the call ends, the log has for it what it
had before. -/
theorem own_failure_alone_is_noted (resolver : Resolver σ) (clock : σ → Instant × σ) (id : String)
    (empty : start.journal = []) (followed : start.failures.slots.contains id = true) :
    (∀ instant, TellsFailure resolver clock start id instant →
        (resolve resolver clock start).2.failures.last? id =
          some ((start.failures.last? id).elim instant.millis (max · instant.millis))) ∧
      ((∀ instant, ¬ TellsFailure resolver clock start id instant) →
        (resolve resolver clock start).2.failures.last? id = start.failures.last? id) ∧
      ((resolve resolver clock start).2.failures.last? id ≠ start.failures.last? id ↔
        ∃ instant, TellsFailure resolver clock start id instant ∧
          ∀ noted, start.failures.last? id = some noted → noted < instant.millis) ∧
      ((∃ instant, TellsFailure resolver clock start id instant) ↔
        ∃ error, error.isSourceFailure = true ∧
          .failed (.connector id) error ∈ (resolve resolver clock start).2.journal) := by
  have noted : ∀ instant, TellsFailure resolver clock start id instant →
      (resolve resolver clock start).2.failures.last? id =
        FailureLog.later (start.failures.last? id) instant.millis :=
    fun instant tells => tells.noted followed
  refine ⟨?_, fun silent => (unnoted_of_not_tells empty silent).1, ?_, ?_⟩
  · intro instant tells
    rw [noted instant tells, FailureLog.later_eq]
  · constructor
    · intro changed
      by_cases told : ∃ instant, TellsFailure resolver clock start id instant
      · obtain ⟨instant, tells⟩ := told
        rw [noted instant tells, FailureLog.later_ne_iff] at changed
        exact ⟨instant, tells, changed⟩
      · exact absurd (unnoted_of_not_tells empty (not_exists.mp told)).1 changed
    · rintro ⟨instant, tells, after⟩
      rw [noted instant tells]
      exact (FailureLog.later_ne_iff _ _).mpr after
  · constructor
    · rintro ⟨instant, tells⟩
      exact tells.journal
    · rintro ⟨error, source, failed⟩
      by_contra none
      exact (unnoted_of_not_tells empty (not_exists.mp none)).2 error source failed

/-- The first request of an outage. -/
def outageBegin : Progress Unit :=
  { world := (), failures := newFailureLog outage, resolution := {} }

/-- At the beginning of the outage the failure of the index is noted when it is told of. The archive
fails too, but only for want of a result, and the backup does not; nothing is noted for them. -/
theorem own_failure_alone_is_noted_outage :
    (∃ instant, TellsFailure outage outageClock outageBegin "index" instant ∧ instant.millis = 1) ∧
      (resolve outage outageClock outageBegin).2.failures.last? "index" = some 1 ∧
      (.failed (.connector "archive") (.noResult "archive") ∈
        (resolve outage outageClock outageBegin).2.journal) ∧
      (∀ instant, ¬ TellsFailure outage outageClock outageBegin "archive" instant) ∧
      (resolve outage outageClock outageBegin).2.failures.last? "archive" = none := by
  have index : (resolve outage outageClock outageBegin).2.failures.last? "index" = some 1 := by
    decide +kernel
  have archive : (resolve outage outageClock outageBegin).2.journal.filterMap (fun
      | .failed (.connector "archive") error => some error
      | _ => none) = [.noResult "archive"] := by
    decide +kernel
  have missed : .failed (.connector "archive") (.noResult "archive") ∈
      (resolve outage outageClock outageBegin).2.journal := by
    have listed := List.mem_singleton_self (ResolutionError.noResult "archive")
    rw [← archive] at listed
    obtain ⟨event, member, told⟩ := List.mem_filterMap.mp listed
    split at told
    · cases told
      exact member
    · cases told
  have harmless : ∀ error, .failed (.connector "archive") error ∈
      (resolve outage outageClock outageBegin).2.journal → error = .noResult "archive" := by
    intro error member
    apply List.mem_singleton.mp
    rw [← archive]
    exact List.mem_filterMap.mpr ⟨_, member, rfl⟩
  have begun : outageBegin.journal = [] := rfl
  obtain ⟨noted, -, changed, -⟩ :=
    own_failure_alone_is_noted outage outageClock "index" begun (by decide +kernel)
  obtain ⟨-, unnoted, -, journal⟩ :=
    own_failure_alone_is_noted outage outageClock "archive" begun (by decide +kernel)
  have silent : ∀ instant, ¬ TellsFailure outage outageClock outageBegin "archive" instant := by
    intro instant tells
    obtain ⟨error, source, failed⟩ := journal.mp ⟨instant, tells⟩
    rw [harmless error failed] at source
    cases source
  obtain ⟨instant, tells, -⟩ := changed.mp (by rw [index]; decide +kernel)
  have same := noted instant tells
  rw [index] at same
  refine ⟨⟨instant, tells, ?_⟩, index, missed, silent, unnoted silent⟩
  exact (Option.some.inj same).symm

end AttributeRelease.Resolver
