import AttributeRelease.Proofs.Walk.Faithfulness
import AttributeRelease.Proofs.Walk.Visits

/-!
# How deep a walk goes

A walk is stopped where it would enter a plugin again or go too deep, but along an accepted graph it
comes to neither: a recursion that looks out for nothing (`unguarded`) does the same, whatever it
would do at a depth that it does not reach (`unguarded_eq_visit`). So there is exactly one way of
visiting plugins that resolves each by visiting those it leads to, and requests are resolved that
way (`resolve_terminates`).
-/

namespace AttributeRelease.Resolver

variable {σ : Type} {resolver : Resolver σ} {clock : σ → Instant × σ}

/-! ## Walks without a guard -/

/-- Does nothing for a plugin that has a record or is unknown, and otherwise enters it. -/
def approach (resolver : Resolver σ) (enterPlugin : PluginRef → Step σ) (ref : PluginRef) :
    Step σ := fun progress =>
  if progress.resolution.isRecorded ref || !hasPlugin resolver ref then (.ok (), progress)
  else enterPlugin ref progress

/-- Visits a plugin without regard to those that are being resolved. Inside of as many plugins as
`depth` says, something else is done than to enter another. -/
def unguarded (resolver : Resolver σ) (clock : σ → Instant × σ) (deeper : PluginRef → Step σ) :
    (depth : Nat) → PluginRef → Step σ
  | 0 => approach resolver deeper
  | depth + 1 => approach resolver (enter resolver clock (unguarded resolver clock deeper depth))

/-- A way of visiting plugins that enters each by visiting those that it leads to. -/
def IsRecursive (resolver : Resolver σ) (clock : σ → Instant × σ) (walk : PluginRef → Step σ) :
    Prop :=
  walk = approach resolver (enter resolver clock walk)

/-- Resolves a request, given how plugins are visited from outside. -/
def resolveBy (resolver : Resolver σ) (walk : PluginRef → Step σ) : Step σ :=
  let preResolve : Step σ := fun progress =>
    match preRequestedIds resolver with
    | [] => (.ok (), progress)
    | ids =>
      Step.andThen (Step.forEach walk (ids.map .definition))
        (fun progress => (.ok (), { progress with
          resolution := { progress.resolution with
            preResolved := definedAttributes resolver true progress.resolution } }))
        progress
  Step.andThen preResolve <|
  Step.andThen (Step.forEach walk ((exportingIds resolver).map .connector)) <|
  Step.andThen
    (fun progress => Step.forEach walk
      ((requestedIds resolver progress.resolution).map .definition) progress)
    (setReleased resolver)

theorem resolve_eq_resolveBy (resolver : Resolver σ) (clock : σ → Instant × σ) :
    resolve resolver clock =
      resolveBy resolver (visit resolver clock resolver.graph.plugins.length []) := rfl

/-! ## Entering a plugin -/

theorem Step.forEach_congr {first second : PluginRef → Step σ} {refs : List PluginRef}
    (same : ∀ ref ∈ refs, first ref = second ref) :
    Step.forEach first refs = Step.forEach second refs := by
  induction refs with
  | nil => rfl
  | cons ref rest ih =>
      have others := ih fun other member => same other (List.mem_cons_of_mem _ member)
      rw [Step.forEach, Step.forEach, same ref List.mem_cons_self, others]

theorem replaceConnector_congr {first second : PluginRef → Step σ} {settings : ConnectorSettings}
    (same : ∀ next, settings.failover = some next →
      first (.connector next) = second (.connector next)) (id : String) :
    replaceConnector first id settings = replaceConnector second id settings := by
  funext reason progress
  unfold replaceConnector resolveFailover
  split
  · rename_i next named
    rw [same next named]
  · rfl

/-- To enter a plugin, only the plugins that it leads to are visited. -/
theorem enter_congr {first second : PluginRef → Step σ} {ref : PluginRef}
    (same : ∀ next, resolver.graph.LeadsTo ref next → first next = second next) :
    enter resolver clock first ref = enter resolver clock second ref := by
  cases ref with
  | definition id =>
      simp only [enter]
      cases found : resolver.definitions.get? id with
      | none => rfl
      | some definition =>
          have dependencies := Step.forEach_congr fun next listed =>
            same next (leadsTo_of_definition found listed)
          simp only [resolveDefinition, dependencies]
  | connector id =>
      simp only [enter]
      cases found : resolver.connectors.get? id with
      | none => rfl
      | some connector =>
          have dependencies := Step.forEach_congr fun next listed =>
            same next (leadsTo_of_connector found listed)
          have replaced := replaceConnector_congr (fun next named =>
            same _ (leadsTo_of_failover found named)) id
          have run : runConnector clock first id connector =
              runConnector clock second id connector := by
            funext progress
            simp only [runConnector, replaced]
          funext progress
          simp only [resolveConnector, dependencies, replaced, run]

/-! ## The guard is never needed -/

/-- A plugin that is to be entered is not being resolved, and not all plugins are. -/
theorem Reaches.room {inside : List PluginRef} {ref : PluginRef}
    (reaches : Reaches resolver inside [ref]) {progress : Progress σ}
    (unsettled : ¬ (progress.resolution.isRecorded ref || !hasPlugin resolver ref) = true) :
    hasPlugin resolver ref = true ∧ ref ∉ inside ∧
      inside.length < resolver.graph.plugins.length := by
  obtain ⟨-, known⟩ : progress.resolution.isRecorded ref = false ∧
    hasPlugin resolver ref = true := by simpa using unsettled
  have outside := reaches.outside known
  exact ⟨known, outside, (reaches ref (List.mem_singleton_self ref) known).length_lt outside⟩

/-- Inside of the plugins on a way that may still be gone on, a walk without a guard visits the
plugins ahead as one with a guard does. -/
theorem unguarded_eq_visit (deeper : PluginRef → Step σ) {depth : Nat} {inside : List PluginRef}
    {ref : PluginRef} (reaches : Reaches resolver inside [ref])
    (enough : resolver.graph.plugins.length ≤ inside.length + depth) :
    unguarded resolver clock deeper depth ref = visit resolver clock depth inside ref := by
  induction depth generalizing inside ref with
  | zero =>
      funext progress
      rw [unguarded, approach, visit]
      split
      · rfl
      · rename_i unsettled
        obtain ⟨-, -, shorter⟩ := reaches.room unsettled
        omega
  | succ depth ih =>
      funext progress
      rw [unguarded, approach, visit]
      split
      · rfl
      · rename_i unsettled
        obtain ⟨known, outside, shorter⟩ := reaches.room unsettled
        rw [if_neg outside]
        refine congrFun (enter_congr fun next leads => ?_) progress
        have ahead : Reaches resolver (ref :: inside) [next] :=
          reaches.enter (List.mem_singleton_self ref) known outside
            (List.forall_mem_singleton.mpr leads)
        apply ih ahead
        rw [List.length_cons]
        omega

/-- From outside as many plugins may be entered one inside of another as there are. -/
theorem unguarded_eq_visit_root (deeper : PluginRef → Step σ) {depth : Nat}
    (enough : resolver.graph.plugins.length ≤ depth) :
    unguarded resolver clock deeper depth = visit resolver clock depth [] := by
  funext ref
  exact unguarded_eq_visit deeper (reaches_root [ref]) (enough.trans (Nat.le_add_left _ _))

/-- What is done at some depth may as well be done one plugin further on. -/
theorem unguarded_succ (deeper : PluginRef → Step σ) (depth : Nat) :
    unguarded resolver clock deeper (depth + 1) =
      unguarded resolver clock (enter resolver clock (approach resolver deeper)) depth := by
  induction depth with
  | zero => rfl
  | succ depth ih => rw [unguarded, ih, unguarded]

/-- A recursive way of visiting plugins does the same at any depth. -/
theorem IsRecursive.eq_unguarded {walk : PluginRef → Step σ}
    (recursive : IsRecursive resolver clock walk) (depth : Nat) :
    walk = unguarded resolver clock (enter resolver clock walk) depth := by
  induction depth with
  | zero => exact recursive
  | succ depth ih =>
      rw [unguarded, ← ih]
      exact recursive

/-- There is one recursive way of visiting plugins, and requests are resolved that way. -/
theorem isRecursive_iff {walk : PluginRef → Step σ} :
    IsRecursive resolver clock walk ↔
      walk = visit resolver clock resolver.graph.plugins.length [] := by
  constructor
  · intro recursive
    exact (recursive.eq_unguarded _).trans (unguarded_eq_visit_root _ le_rfl)
  · rintro rfl
    let halting : PluginRef → Step σ := fun ref progress => (.error (.reentered ref), progress)
    have same : unguarded resolver clock halting resolver.graph.plugins.length =
        visit resolver clock resolver.graph.plugins.length [] :=
      unguarded_eq_visit_root halting le_rfl
    have further : unguarded resolver clock halting (resolver.graph.plugins.length + 1) =
        visit resolver clock resolver.graph.plugins.length [] := by
      rw [unguarded_succ]
      exact unguarded_eq_visit_root _ le_rfl
    rw [unguarded, same] at further
    exact further.symm

/-- What a request visits is not being resolved already, and not more plugins are being resolved
than there are. -/
theorem Visits.distinct {start before : Progress σ} {inside : List PluginRef} {ref : PluginRef}
    (visits : Visits resolver clock start inside ref before)
    (known : hasPlugin resolver ref = true) :
    (ref :: inside).Nodup ∧ (ref :: inside).length ≤ resolver.graph.plugins.length := by
  have wayTo := visits.reaches ref (List.mem_singleton_self ref) known
  have outside := visits.reaches.outside known
  exact ⟨List.nodup_cons.mpr ⟨outside, wayTo.distinct⟩, wayTo.length_lt outside⟩

/-- Whatever state a request is in, whatever failures were noted before, and whatever its plugins
do, no plugin is entered while it is being resolved, so that at most as many are being resolved one
inside of another as there are, and no request ends because a plugin is entered again. Nothing is
owed to the guard against this: a recursion that enters plugins without any regard to those being
resolved, and does anything else at the depth that there are plugins, resolves requests to the same
end; and the recursive way of visiting plugins, which knows no depth at all, is determined and
resolves requests to that end too. -/
theorem resolve_terminates (resolver : Resolver σ) (clock : σ → Instant × σ) :
    (∀ start inside ref before, Visits resolver clock start inside ref before →
        hasPlugin resolver ref = true →
          (ref :: inside).Nodup ∧ (ref :: inside).length ≤ resolver.graph.plugins.length) ∧
      (∀ start plugin, (resolve resolver clock start).1 ≠ .error (.reentered plugin)) ∧
      (∀ deeper, resolveBy resolver
        (unguarded resolver clock deeper resolver.graph.plugins.length) =
          resolve resolver clock) ∧
      ∃ walk, IsRecursive resolver clock walk ∧
        (∀ other, IsRecursive resolver clock other → other = walk) ∧
        resolveBy resolver walk = resolve resolver clock := by
  refine ⟨fun start inside ref before visits known => visits.distinct known,
    resolve_not_reentered resolver clock, fun deeper => ?_, _, isRecursive_iff.mpr rfl,
    fun other recursive => isRecursive_iff.mp recursive,
    (resolve_eq_resolveBy resolver clock).symm⟩
  rw [unguarded_eq_visit_root deeper le_rfl, ← resolve_eq_resolveBy]

/-- During an outage a request for everything comes to visit the backup while it resolves three
other plugins: the contact needs the mail address, this the directory, and this its backup. -/
theorem visits_outage_backup :
    ∃ before, Visits outage outageClock outageStart
      [.connector "directory", .definition "mail", .definition "contact"] (.connector "backup")
      before := by
  have asked : (requestedIds outage outageStart.resolution).map PluginRef.definition =
      [] ++ .definition "contact" :: [.definition "mail"] := by
    decide +kernel
  have contactRefs : (outage.definitions.get? "contact").map
      (fun definition => definition.settings.dependencies.refs) =
        some ([] ++ .definition "mail" :: [.connector "archive"]) := by
    decide +kernel
  have mailRefs : (outage.definitions.get? "mail").map
      (fun definition => definition.settings.dependencies.refs) =
        some ([] ++ .connector "directory" :: [.connector "index"]) := by
    decide +kernel
  have directorySettings : (outage.connectors.get? "directory").map
      (fun connector => (connector.settings.failover, connector.settings.noRetryDelay)) =
        some (some "backup", 60000000000) := by
    decide +kernel
  obtain ⟨contact, foundContact, contactRefs⟩ := Option.map_eq_some_iff.mp contactRefs
  obtain ⟨mail, foundMail, mailRefs⟩ := Option.map_eq_some_iff.mp mailRefs
  obtain ⟨directory, foundDirectory, directorySettings⟩ :=
    Option.map_eq_some_iff.mp directorySettings
  obtain ⟨named, delay⟩ := Prod.mk.inj directorySettings
  have window : outageFailures.inNoRetryWindow "directory" directory.settings.noRetryDelay
      1000000 = true := by
    rw [delay]
    decide +kernel
  have first : Visits outage outageClock outageStart [] (.definition "contact") outageStart :=
    .ofStage (.requested rfl rfl) asked .done
  have second := Visits.ofDefinition first foundContact rfl contactRefs .done
  have third := Visits.ofDefinition second foundMail rfl mailRefs .done
  exact ⟨_, third.failover foundDirectory rfl (.passedOver rfl window) named⟩

/-- The backup is one of four plugins that are being resolved then, of six that there are. -/
theorem resolve_terminates_outage :
    ∃ before, Visits outage outageClock outageStart
        [.connector "directory", .definition "mail", .definition "contact"] (.connector "backup")
        before ∧
      [PluginRef.connector "backup", .connector "directory", .definition "mail",
        .definition "contact"].Nodup ∧
      4 ≤ outage.graph.plugins.length := by
  obtain ⟨before, visits⟩ := visits_outage_backup
  have known : hasPlugin outage (.connector "backup") = true := by decide +kernel
  exact ⟨before, visits, (resolve_terminates outage outageClock).1 _ _ _ before visits known⟩

end AttributeRelease.Resolver
