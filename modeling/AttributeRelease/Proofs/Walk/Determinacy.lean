import AttributeRelease.Proofs.Walk.Records

/-!
# Derivations determine walks

A derivation of `Runs` tells what a walk does: along an accepted graph an errand comes to what its
derivation says (`Runs.perform_eq`), so that no errand has two outcomes. Together with `runs_visit`
derivations and walks are the same.
-/

namespace AttributeRelease.Resolver

variable {σ : Type} {resolver : Resolver σ} {clock : σ → Instant × σ}

/-- Does an errand inside of some plugins, of which `depth` more may be entered. -/
def Errand.perform (resolver : Resolver σ) (clock : σ → Instant × σ) (depth : Nat)
    (inside : List PluginRef) : Errand → Step σ
  | .visit ref => Resolver.visit resolver clock depth inside ref
  | .visitAll refs => Step.forEach (Resolver.visit resolver clock depth inside) refs
  | .replace id settings reason =>
    replaceConnector (Resolver.visit resolver clock depth inside) id settings reason

/-- A visit to a plugin that has a record, or that there is not, does nothing. -/
theorem visit_settled {depth : Nat} {inside : List PluginRef} {ref : PluginRef}
    {progress : Progress σ}
    (settled : progress.resolution.isRecorded ref = true ∨ hasPlugin resolver ref = false) :
    visit resolver clock depth inside ref progress = (.ok (), progress) := by
  have skipped : (progress.resolution.isRecorded ref || !hasPlugin resolver ref) = true := by
    simpa using settled
  unfold visit
  rw [if_pos skipped]

theorem hasPlugin_definition {id : String} {definition : Definition σ}
    (found : resolver.definitions.get? id = some definition) :
    hasPlugin resolver (.definition id) = true :=
  (resolver.definitions.contains_iff id).mpr ⟨definition, found⟩

theorem hasPlugin_connector {id : String} {connector : Connector σ}
    (found : resolver.connectors.get? id = some connector) :
    hasPlugin resolver (.connector id) = true :=
  (resolver.connectors.contains_iff id).mpr ⟨connector, found⟩

/-- A plugin without a record that the walk is not inside of is entered, one level deeper. -/
theorem visit_entered {depth : Nat} {inside : List PluginRef} {ref : PluginRef}
    {progress : Progress σ} (known : hasPlugin resolver ref = true)
    (fresh : progress.resolution.isRecorded ref = false) (outside : ref ∉ inside) :
    visit resolver clock (depth + 1) inside ref progress =
      enter resolver clock (visit resolver clock depth (ref :: inside)) ref progress := by
  have unsettled : ¬ (progress.resolution.isRecorded ref || !hasPlugin resolver ref) = true := by
    simp [known, fresh]
  rw [visit, if_neg unsettled, if_neg outside]

theorem visit_definition {depth : Nat} {inside : List PluginRef} {id : String}
    {definition : Definition σ} {progress : Progress σ}
    (found : resolver.definitions.get? id = some definition)
    (fresh : progress.resolution.isRecorded (.definition id) = false)
    (outside : .definition id ∉ inside) :
    visit resolver clock (depth + 1) inside (.definition id) progress =
      resolveDefinition (visit resolver clock depth (.definition id :: inside)) id definition
        progress := by
  rw [visit_entered (hasPlugin_definition found) fresh outside]
  simp only [enter, found]

theorem visit_connector {depth : Nat} {inside : List PluginRef} {id : String}
    {connector : Connector σ} {progress : Progress σ}
    (found : resolver.connectors.get? id = some connector)
    (fresh : progress.resolution.isRecorded (.connector id) = false)
    (outside : .connector id ∉ inside) :
    visit resolver clock (depth + 1) inside (.connector id) progress =
      resolveConnector clock (visit resolver clock depth (.connector id :: inside)) id connector
        progress := by
  rw [visit_entered (hasPlugin_connector found) fresh outside]
  simp only [enter, found]

/-- Inside of the plugins on a way to a known plugin, that plugin may still be entered. -/
theorem Reaches.depth_pos {inside : List PluginRef} {ref : PluginRef} {depth : Nat}
    (reaches : Reaches resolver inside [ref]) (known : hasPlugin resolver ref = true)
    (outside : ref ∉ inside) (enough : resolver.graph.plugins.length ≤ inside.length + depth) :
    ∃ less, depth = less + 1 ∧ resolver.graph.plugins.length ≤ (ref :: inside).length + less := by
  have shorter := (reaches ref (List.mem_singleton_self ref) known).length_lt outside
  refine ⟨depth - 1, by omega, ?_⟩
  rw [List.length_cons]
  omega

/-- Along an accepted graph a derivation tells what is done: there is only one. -/
theorem Runs.perform_eq {inside : List PluginRef} {errand : Errand} {before after : Progress σ}
    {outcome : Except Halt Unit} (runs : Runs resolver clock inside errand before outcome after)
    (reaches : Reaches resolver inside errand.targets) {depth : Nat}
    (enough : resolver.graph.plugins.length ≤ inside.length + depth) :
    errand.perform resolver clock depth inside before = (outcome, after) := by
  induction runs generalizing depth with
  | idle settled => exact visit_settled settled
  | stuck known round =>
      have wayTo := reaches _ (List.mem_singleton_self _) known
      have outside := wayTo.outside resolver.wellFormed.acyclic
      have room := wayTo.length_lt outside
      rcases round with again | exhausted
      · exact absurd again outside
      · omega
  | definition found fresh outside dependencies ih =>
      obtain ⟨less, rfl, deeper⟩ :=
        reaches.depth_pos (hasPlugin_definition found) outside enough
      have done := ih (reaches.enterDefinition found outside) deeper
      simp only [Errand.perform] at done ⊢
      rw [visit_definition found fresh outside]
      simp only [resolveDefinition, Step.andThen_eq, done]
      rfl
  | definitionHalted found fresh outside dependencies ih =>
      obtain ⟨less, rfl, deeper⟩ :=
        reaches.depth_pos (hasPlugin_definition found) outside enough
      have done := ih (reaches.enterDefinition found outside) deeper
      simp only [Errand.perform] at done ⊢
      rw [visit_definition found fresh outside]
      simp only [resolveDefinition, Step.andThen_eq, done]
  | passedOver found fresh outside clockRead window replaced ih =>
      obtain ⟨less, rfl, deeper⟩ :=
        reaches.depth_pos (hasPlugin_connector found) outside enough
      have done := ih ((reaches.enterConnector found outside).mono (List.subset_append_right _ _))
        deeper
      simp only [Errand.perform] at done ⊢
      rw [visit_connector found fresh outside]
      simp only [resolveConnector, clockRead, window, if_true, done]
  | connectorHalted found fresh outside clockRead noWindow dependencies ih =>
      obtain ⟨less, rfl, deeper⟩ :=
        reaches.depth_pos (hasPlugin_connector found) outside enough
      have done := ih ((reaches.enterConnector found outside).mono (List.subset_append_left _ _))
        deeper
      simp only [Errand.perform] at done ⊢
      rw [visit_connector found fresh outside]
      simp only [resolveConnector, clockRead, noWindow, Bool.false_eq_true, if_false,
        Step.andThen_eq, done]
  | fetched found fresh outside clockRead noWindow dependencies answered ih =>
      obtain ⟨less, rfl, deeper⟩ :=
        reaches.depth_pos (hasPlugin_connector found) outside enough
      have done := ih ((reaches.enterConnector found outside).mono (List.subset_append_left _ _))
        deeper
      simp only [Errand.perform] at done ⊢
      rw [visit_connector found fresh outside]
      simp only [resolveConnector, clockRead, noWindow, Bool.false_eq_true, if_false,
        Step.andThen_eq, done, runConnector, answered]
  | fetchFailed found fresh outside clockRead noWindow dependencies failed replaced ihDependencies
      ihReplaced =>
      obtain ⟨less, rfl, deeper⟩ :=
        reaches.depth_pos (hasPlugin_connector found) outside enough
      have entered := reaches.enterConnector found outside
      have done := ihDependencies (entered.mono (List.subset_append_left _ _)) deeper
      have doneReplaced := ihReplaced (entered.mono (List.subset_append_right _ _)) deeper
      simp only [Errand.perform] at done doneReplaced ⊢
      rw [visit_connector found fresh outside]
      simp only [resolveConnector, clockRead, noWindow, Bool.false_eq_true, if_false,
        Step.andThen_eq, done, runConnector, failed, doneReplaced]
  | failedOver named resolved ih =>
      have done := ih (by simpa [Errand.targets, named] using reaches) enough
      simp only [Errand.perform] at done ⊢
      simp only [replaceConnector, named, resolveFailover, Step.andThen_eq, done]
  | failoverHalted named resolved ih =>
      have done := ih (by simpa [Errand.targets, named] using reaches) enough
      simp only [Errand.perform] at done ⊢
      simp only [replaceConnector, named, resolveFailover, Step.andThen_eq, done]
  | propagated unnamed propagates =>
      simp only [Errand.perform, replaceConnector, unnamed, propagates, if_true]
  | absorbed unnamed absorbs =>
      simp only [Errand.perform, replaceConnector, unnamed, absorbs, Bool.false_eq_true, if_false]
  | done => rfl
  | next first others ihFirst ihOthers =>
      have done := ihFirst (reaches.mono (by simp [Errand.targets])) enough
      have doneOthers := ihOthers (reaches.mono (List.subset_cons_self _ _)) enough
      simp only [Errand.perform] at done doneOthers ⊢
      simp only [Step.forEach, Step.andThen_eq, done, doneOthers]
  | halted first ih =>
      have done := ih (reaches.mono (by simp [Errand.targets])) enough
      simp only [Errand.perform] at done ⊢
      simp only [Step.forEach, Step.andThen_eq, done]

end AttributeRelease.Resolver
