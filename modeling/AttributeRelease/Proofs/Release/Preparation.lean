import AttributeRelease.Proofs.Release.Precedence
import AttributeRelease.Proofs.Walk.Extent

/-!
# Attributes kept for other plugins

Once the definitions that come before all else are resolved, the attributes of all definitions with
records are kept, those that are only there for other plugins among them. From then on every plugin
of the call is shown them (`ShowsKept`). What is kept is that of the definitions that come before
all else and of those that they lead to, as long as no other has been recorded by an earlier call
(`Preparation.supplied`); a later call keeps what has been recorded in the meantime as well
(`attributes_kept_for_others`).
-/

namespace AttributeRelease.Resolver

variable {σ : Type} {resolver : Resolver σ} {clock : σ → Instant × σ} {start : Progress σ}

/-! ## What is kept -/

/-- With those that are only there for other plugins, the last definition that supplies an attribute
with an id counts. -/
theorem definedAttributes_all_iff {resolution : Resolution} {key : String} {attr : Attribute} :
    (definedAttributes resolver true resolution).get? key = some attr ↔
      ∃ id record kept, Supplies resolver resolution key id record kept ∧
        (∀ later other attr, id < later → ¬ Supplies resolver resolution key later other attr) ∧
          resolver.displayDefined record kept = attr := by
  have ordered := List.pairwise_reverse.mpr resolution.definitions.sorted
  rw [get?_definedAttributes]
  refine search_eq_some_iff (fun _ _ => String.lt_asymm) ordered (fun id record kept supplies => ?_)
    (fun id record listed attr => ?_) attr
  · exact List.mem_reverse.mpr ((KeyMap.mem_entries_iff _ _ _).mpr supplies.recorded)
  · have recorded := (KeyMap.mem_entries_iff _ id record).mp (List.mem_reverse.mp listed)
    rw [counts_iff recorded]
    simp

/-- Between two points of a call the attributes kept for other plugins stay as they are, and all
plugins that are run are shown them. -/
structure ShowsKept (before after : Progress σ) : Prop where
  kept : after.resolution.preResolved = before.resolution.preResolved
  shown : ∃ later, after.journal = before.journal ++ later ∧
    ∀ plugin seen, .ran plugin seen ∈ later →
      seen.preResolved = before.resolution.preResolved

theorem ShowsKept.silent {before after : Progress σ}
    (kept : after.resolution.preResolved = before.resolution.preResolved)
    (same : after.journal = before.journal) : ShowsKept before after :=
  ⟨kept, [], by rw [same, List.append_nil], fun _ _ listed => absurd listed List.not_mem_nil⟩

/-- One stretch of a call after another shows plugins the same kept attributes. -/
theorem ShowsKept.trans {before middle after : Progress σ} (first : ShowsKept before middle)
    (second : ShowsKept middle after) : ShowsKept before after where
  kept := second.kept.trans first.kept
  shown := by
    obtain ⟨events, journal, shown⟩ := first.shown
    obtain ⟨others, journalLater, shownLater⟩ := second.shown
    refine ⟨events ++ others, by rw [journalLater, journal, List.append_assoc], ?_⟩
    intro plugin seen listed
    rcases List.mem_append.mp listed with earlier | later
    · exact shown plugin seen earlier
    · rw [← first.kept]
      exact shownLater plugin seen later

/-- A plugin that is run is shown the state that it is run in. -/
theorem ShowsKept.of_tells {before after : Progress σ} {plugin : PluginRef} {events : List Event}
    (tells : Event.Tells plugin before.resolution events)
    (journal : after.journal = before.journal ++ events)
    (kept : after.resolution.preResolved = before.resolution.preResolved) :
    ShowsKept before after := by
  refine ⟨kept, events, journal, fun ran seen listed => ?_⟩
  obtain ⟨earlier, later, split⟩ := List.append_of_mem listed
  rw [(tells.split split).2]

/-- Each step of a walk leaves the kept attributes as they are and shows them to whatever it
runs. -/
theorem showsKept_stepLaw (resolver : Resolver σ) (clock : σ → Instant × σ) :
    StepLaw resolver clock ShowsKept where
  refl := fun _ => .silent rfl rfl
  trans := fun first second => first.trans second
  reads := fun _ => .silent rfl rfl
  passes := fun _ id => ⟨rfl, [.passedOver id], rfl, by simp⟩
  defines := fun {id definition} _ progress => by
    obtain ⟨events, tells, journal⟩ := runDefinition_journal id definition progress
    refine .of_tells tells journal ?_
    rw [runDefinition_resolution]
    rfl
  fetches := fun {id connector} _ progress => by
    obtain ⟨events, tells, journal⟩ := fetchConnector_journal clock id connector progress
    refine .of_tells tells journal ?_
    rw [fetchConnector_resolution]
  records := fun _ _ => .silent rfl rfl

/-- Whatever comes of a call after it has kept attributes for other plugins, its plugins are shown
them. -/
theorem showsKept_of_preResolve {kept : Progress σ}
    (prepared : preResolve resolver clock start = (.ok (), kept)) :
    ShowsKept kept (resolve resolver clock start).2 := by
  have steps := showsKept_stepLaw resolver clock
  have visits : ∀ refs, (visitAll resolver clock refs).Obeys fun before _ after =>
      ShowsKept before after := fun refs progress => steps.runs (runs_visitAll refs progress)
  have sets : (setReleased resolver).Obeys fun before _ after => ShowsKept before after :=
    fun _ => .silent rfl rfl
  have asked : Step.Obeys (fun before _ after => ShowsKept before after) fun progress =>
      visitAll resolver clock ((requestedIds resolver progress.resolution).map .definition)
        progress := fun progress => visits _ progress
  have rest := Step.Obeys.andThen steps.trans (visits ((exportingIds resolver).map .connector))
    (.andThen steps.trans asked sets)
  unfold resolve
  rw [Step.andThen_eq, prepared]
  exact rest kept

/-! ## What a call keeps -/

/-- A plugin is among those that the definitions that come before all else lead to. -/
def ComesFirst (resolver : Resolver σ) (ref : PluginRef) : Prop :=
  ∃ root, IsPreRequested resolver root ∧
    Relation.ReflTransGen resolver.graph.LeadsTo root ref

/-- What a call comes to that has kept attributes for other plugins. -/
structure Preparation (resolver : Resolver σ) (before : Resolution) (kept final : Progress σ) :
    Prop where
  /-- By then exactly that is recorded which was before, and what is needed first. -/
  recorded : ∀ ref, kept.resolution.isRecorded ref = true ↔ before.isRecorded ref = true ∨
    Needed resolver (IsPreRequested resolver) (WasRun kept.journal) (WasUnusable kept.journal) ref
  /-- Kept under a key is what the last definition supplies of those recorded by then. -/
  supplied : ∀ key attr, final.resolution.preResolved.get? key = some attr ↔
    ∃ id record own, Supplies resolver kept.resolution key id record own ∧
      (∀ later other attr, id < later → ¬ Supplies resolver kept.resolution key later other attr) ∧
        resolver.displayDefined record own = attr
  /-- If nothing else was recorded before, only definitions that come first supply anything. -/
  first : (∀ id, before.isRecorded (.definition id) = true → ComesFirst resolver (.definition id)) →
    ∀ key id record own, Supplies resolver kept.resolution key id record own →
      ComesFirst resolver (.definition id)
  /-- Until then only what is needed first is run, and from then on all plugins are shown it. -/
  shown : kept.IsNeeded resolver (IsPreRequested resolver) (WasRun kept.journal)
      (WasUnusable kept.journal) ∧
    ∃ later, final.journal = kept.journal ++ later ∧ ∀ plugin seen, .ran plugin seen ∈ later →
      seen.preResolved = final.resolution.preResolved

/-- Once the definitions that come first are resolved, all recorded definitions are kept for other
plugins, those that only serve these included. -/
theorem preResolve_keeps {kept : Progress σ} (someone : ∃ ref, IsPreRequested resolver ref)
    (prepared : preResolve resolver clock start = (.ok (), kept)) :
    kept.resolution.preResolved = definedAttributes resolver true kept.resolution := by
  obtain ⟨visited, -, rfl⟩ := preResolve_eq_ok prepared
  unfold keptAttributes
  split
  · rename_i nobody
    obtain ⟨ref, first⟩ := someone
    have listed := mem_preRequested_iff.mpr first
    rw [nobody] at listed
    exact absurd listed List.not_mem_nil
  · exact definedAttributes_congr ⟨rfl, rfl⟩ true

/-- A call that has resolved what comes first has prepared for the other plugins. -/
theorem preparation_of_preResolve {kept : Progress σ}
    (someone : ∃ ref, IsPreRequested resolver ref)
    (empty : start.journal = []) (backed : start.resolution.Backed resolver)
    (prepared : preResolve resolver clock start = (.ok (), kept)) :
    Preparation resolver start.resolution kept (resolve resolver clock start).2 := by
  obtain ⟨needed, recorded⟩ := preResolve_recorded_iff empty backed prepared
  have shows := showsKept_of_preResolve prepared
  obtain ⟨later, journal, shown⟩ := shows.shown
  refine ⟨recorded, fun key attr => ?_, fun only key id record own supplies => ?_, needed, later,
    journal, fun plugin seen listed => ?_⟩
  · rw [shows.kept, preResolve_keeps someone prepared]
    exact definedAttributes_all_iff
  · have there := (kept.resolution.definitions.contains_iff id).mpr ⟨record, supplies.recorded⟩
    rcases (recorded (.definition id)).mp there with before | needed
    · exact only id before
    · exact needed.leads
  · rw [shows.kept]
    exact shown plugin seen listed

/-! ## Further calls -/

/-- Where no definition was recorded meanwhile, the records of definitions are the same. -/
theorem Resolution.Retains.definitions_eq {before after : Resolution}
    (retained : before.Retains after)
    (nothing : ∀ id, after.isRecorded (.definition id) = true →
      before.isRecorded (.definition id) = true) : after.definitions = before.definitions := by
  refine KeyMap.ext_get? fun id => Option.ext fun record => ⟨fun found => ?_, ?_⟩
  · have there := nothing id ((after.definitions.contains_iff id).mpr ⟨record, found⟩)
    obtain ⟨other, foundBefore⟩ := (before.definitions.contains_iff id).mp there
    cases found.symm.trans (retained.definitions id other foundBefore)
    exact foundBefore
  · exact retained.definitions id record

/-- What was recorded when attributes were kept is there unchanged at the end of the call. -/
theorem retains_of_preResolve {kept : Progress σ}
    (prepared : preResolve resolver clock start = (.ok (), kept)) :
    kept.resolution.Retains (resolve resolver clock start).2.resolution := by
  have runs : Runs resolver clock [] (.visitAll _) kept _ _ :=
    runs_visitAll ((exportingIds resolver).map .connector) kept
  exact (runs.grows nofun).extended.retains.trans (Stage.exporting prepared).retained.retains

/-- However a request is used, its records stay. -/
theorem stateAfter_retains {resolution : Resolution} (traceable : resolution.Traceable resolver)
    (uses : List (Use σ)) : resolution.Retains (stateAfter resolver clock resolution uses) :=
  ((statesOf_unfolds uses traceable).1 _ (stateAfter_mem_statesOf uses resolution)).1

/-- A call of a request that has records of all that comes first keeps what its definitions have. -/
theorem preResolved_of_settled {progress : Progress σ}
    (someone : ∃ ref, IsPreRequested resolver ref)
    (settled : ∀ ref, IsPreRequested resolver ref → progress.resolution.isRecorded ref = true) :
    (resolve resolver clock progress).2.resolution.preResolved =
      definedAttributes resolver true progress.resolution := by
  have prepared : preResolve resolver clock progress = _ := preResolve_settled settled
  rw [(showsKept_of_preResolve prepared).kept, preResolve_keeps someone prepared]
  exact definedAttributes_congr ⟨rfl, rfl⟩ true

/-- Let some definitions come before all else, and let a request be used in any way and then be
resolved. Either that fails with them, and that was all; or attributes are kept for other plugins.
These are what the definitions supply that are recorded by then, those that are only there for
other plugins among them: the ones recorded by earlier calls, and those that are needed first. So if
no others were recorded before, all of it comes from definitions that come first. It is kept before
anything else is run, and shown to all that is run then. A later call keeps what all definitions
supply that are recorded when it begins. It keeps the same if none was recorded in the meantime. -/
theorem attributes_kept_for_others (resolver : Resolver σ) (clock : σ → Instant × σ)
    (request : Request) (uses : List (Use σ)) (world : σ) (failures : FailureLog)
    {outcome : Except Halt Unit} {final : Progress σ}
    (someone : ∃ ref, IsPreRequested resolver ref)
    (ended : resolve resolver clock
      { world, failures, resolution := stateAfter resolver clock { request } uses } =
        (outcome, final)) :
    (∃ halt, outcome = .error halt ∧ preResolve resolver clock
      { world, failures, resolution := stateAfter resolver clock { request } uses } =
        (.error halt, final)) ∨
      ∃ kept, preResolve resolver clock
        { world, failures, resolution := stateAfter resolver clock { request } uses } =
          (.ok (), kept) ∧
        Preparation resolver (stateAfter resolver clock { request } uses) kept final ∧
        ∀ usesLater worldLater failuresLater,
          let state := stateAfter resolver clock final.resolution usesLater
          let last := (resolve resolver clock
            { world := worldLater, failures := failuresLater, resolution := state }).2
          last.resolution.preResolved = definedAttributes resolver true state ∧
            ((∀ id, state.isRecorded (.definition id) = true →
                kept.resolution.isRecorded (.definition id) = true) →
              last.resolution.preResolved = final.resolution.preResolved) := by
  let start : Progress σ :=
    { world, failures, resolution := stateAfter resolver clock { request } uses }
  have traceable : start.resolution.Traceable resolver :=
    stateAfter_traceable resolver clock request uses
  rcases prepared : preResolve resolver clock start with ⟨halt | done, kept⟩
  · have halted : resolve resolver clock start = (.error halt, kept) := by
      rw [resolve, Step.andThen_eq, prepared]
    cases halted.symm.trans ended
    exact .inl ⟨halt, rfl, rfl⟩
  · have preparation := preparation_of_preResolve someone rfl
      (stateAfter_backed resolver clock request uses) prepared
    have shows := showsKept_of_preResolve prepared
    have retained := retains_of_preResolve prepared
    obtain ⟨ran, -, unfolds⟩ := resolve_unfolds resolver clock start traceable
    have traceableFinal := unfolds.finished
    have last : resolve resolver clock start = (outcome, final) := ended
    rw [last] at preparation shows retained traceableFinal
    refine .inr ⟨kept, rfl, preparation, fun usesLater worldLater failuresLater => ?_⟩
    let state := stateAfter resolver clock final.resolution usesLater
    have onward : kept.resolution.Retains state :=
      retained.trans (stateAfter_retains traceableFinal usesLater)
    have settled : ∀ ref, IsPreRequested resolver ref → state.isRecorded ref = true :=
      fun ref first => onward.isRecorded ((preparation.recorded ref).mpr (.inr (.asked first)))
    let next : Progress σ :=
      { world := worldLater, failures := failuresLater, resolution := state }
    have again : (resolve resolver clock next).2.resolution.preResolved =
        definedAttributes resolver true state := preResolved_of_settled someone settled
    refine ⟨again, fun nothing => ?_⟩
    have same := onward.definitions_eq nothing
    rw [again, shows.kept, preResolve_keeps someone prepared, definedAttributes, definedAttributes,
      same]

/-- An entitlement is there before all else, for other plugins only; a mail address is not. -/
def entranceDefinitions : Keyed fun definition : Definition Unit => definition.settings.id :=
  (Keyed.add .empty
    (fixedDefinition { id := "entitlement", preRequested := true, dependencyOnly := true }
      ⟨"entitlement", [.ofText "urn:example:admin"], ∅, ∅⟩)).add
    (fixedDefinition { id := "mail" } ⟨"mail", [.ofText "a@example.org"], ∅, ∅⟩)

/-- A resolver for an entrance. -/
def entrance : Resolver Unit where
  id := "entrance"
  definitions := entranceDefinitions.1
  connectors := ∅
  stripNulls := false
  suppressDisplay := false
  definitions_keyed := entranceDefinitions.2
  connectors_keyed := fun _ _ found => nomatch found
  accepted := by decide +kernel

/-- The mail address is asked for at the entrance. -/
def entranceUses : List (Use Unit) := [.ask ["mail"] ∅]

def entranceFirst : Except Halt Unit × Progress Unit :=
  resolve entrance (fun world => (0, world)) {
    world := ()
    failures := .new []
    resolution := stateAfter entrance (fun world => (0, world)) {} entranceUses }

/-- The same request is resolved once more. -/
def entranceSecond : Except Halt Unit × Progress Unit :=
  resolve entrance (fun world => (0, world))
    { world := (), failures := .new [], resolution := entranceFirst.2.resolution }

theorem attributes_kept_for_others_entrance :
    IsPreRequested entrance (.definition "entitlement") ∧ entranceFirst.1 = .ok () ∧
      (∃ kept, Preparation entrance (stateAfter entrance (fun world => (0, world)) {} entranceUses)
        kept entranceFirst.2) ∧
      (entranceFirst.2.resolution.preResolved.get? "entitlement").isSome = true ∧
      entranceSecond.2.resolution.preResolved =
        definedAttributes entrance true entranceFirst.2.resolution := by
  have first : IsPreRequested entrance (.definition "entitlement") := .intro rfl rfl
  have ended : entranceFirst.1 = .ok () := by decide +kernel
  rcases attributes_kept_for_others entrance (fun world => (0, world)) {} entranceUses () (.new [])
      ⟨_, first⟩ (Step.eq_of_ok ended) with ⟨halt, failed, -⟩ | ⟨kept, -, preparation, later⟩
  · cases failed
  · exact ⟨first, ended, ⟨kept, preparation⟩, by decide +kernel, (later [] () (.new [])).1⟩

/-- The mail address neither comes first nor is it needed for a definition that does. -/
theorem entrance_mail_not_first : ¬ ComesFirst entrance (.definition "mail") := by
  rintro ⟨root, first, leads⟩
  have ids : preRequestedIds entrance = ["entitlement"] := by decide +kernel
  have listed := mem_preRequested_iff.mpr first
  rw [ids] at listed
  cases List.mem_singleton.mp listed
  rcases leads.cases_head with same | ⟨next, leadsTo, -⟩
  · exact absurd same (by decide)
  · cases leadsTo with
    | dependency declared =>
        have found : entrance.definitions.get? "entitlement" = some _ := rfl
        exact absurd ((declares_definition_iff found).mp declared) List.not_mem_nil

/-- At the entrance the second call keeps a mail address that the first one did not keep, though no
definition that comes before all else leads to it. -/
theorem entrance_keeps_mail :
    entranceFirst.1 = .ok () ∧ entranceSecond.1 = .ok () ∧
      entranceFirst.2.resolution.preResolved.get? "mail" = none ∧
      (entranceSecond.2.resolution.preResolved.get? "mail").isSome = true ∧
      entranceSecond.2.resolution.preResolved ≠ entranceFirst.2.resolution.preResolved ∧
      ¬ ComesFirst entrance (.definition "mail") := by
  have nothing : entranceFirst.2.resolution.preResolved.get? "mail" = none := by decide +kernel
  have kept : (entranceSecond.2.resolution.preResolved.get? "mail").isSome = true := by
    decide +kernel
  refine ⟨by decide +kernel, by decide +kernel, nothing, kept, fun same => ?_,
    entrance_mail_not_first⟩
  rw [same, nothing] at kept
  cases kept

end AttributeRelease.Resolver
