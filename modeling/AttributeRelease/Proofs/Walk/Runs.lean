import AttributeRelease.Resolver.Release

/-!
# Walks as derivations

`Runs` says once what a walk can do, rule by rule: which plugins are visited inside of which others,
where a walk ends early, and what it leaves behind. Every visit is such a derivation
(`runs_visit`), so that what a walk preserves is shown by induction on `Runs`, one case for each
rule.
-/

namespace AttributeRelease.Resolver

variable {σ : Type} {resolver : Resolver σ} {clock : σ → Instant × σ}

/-- The graph of the plugins of a resolver. -/
def graph (resolver : Resolver σ) : PluginGraph := graphOf resolver.definitions resolver.connectors

/-- What there is to do on a walk: to visit a plugin or several in order, or to replace a connector
that has no usable result. -/
inductive Errand where
  | visit (ref : PluginRef)
  | visitAll (refs : List PluginRef)
  | replace (id : String) (settings : ConnectorSettings) (reason : ResolutionError)

/-- How an errand is run inside of some plugins, from one progress to another. -/
inductive Runs (resolver : Resolver σ) (clock : σ → Instant × σ) :
    List PluginRef → Errand → Progress σ → Except Halt Unit → Progress σ → Prop
  | idle {inside : List PluginRef} {ref : PluginRef} {progress : Progress σ}
      (settled : progress.resolution.isRecorded ref = true ∨ hasPlugin resolver ref = false) :
      Runs resolver clock inside (.visit ref) progress (.ok ()) progress
  | stuck {inside : List PluginRef} {ref : PluginRef} {progress : Progress σ}
      (known : hasPlugin resolver ref = true)
      (round : ref ∈ inside ∨ resolver.graph.plugins.length ≤ inside.length) :
      Runs resolver clock inside (.visit ref) progress (.error (.reentered ref)) progress
  | definition {inside : List PluginRef} {id : String} {definition : Definition σ}
      {before middle : Progress σ}
      (found : resolver.definitions.get? id = some definition)
      (fresh : before.resolution.isRecorded (.definition id) = false)
      (outside : .definition id ∉ inside)
      (dependencies : Runs resolver clock (.definition id :: inside)
        (.visitAll definition.settings.dependencies.refs) before (.ok ()) middle) :
      Runs resolver clock inside (.visit (.definition id)) before (.ok ())
        (runDefinition id definition middle).2
  | definitionHalted {inside : List PluginRef} {id : String} {definition : Definition σ}
      {before after : Progress σ} {halt : Halt}
      (found : resolver.definitions.get? id = some definition)
      (fresh : before.resolution.isRecorded (.definition id) = false)
      (outside : .definition id ∉ inside)
      (dependencies : Runs resolver clock (.definition id :: inside)
        (.visitAll definition.settings.dependencies.refs) before (.error halt) after) :
      Runs resolver clock inside (.visit (.definition id)) before (.error halt) after
  | passedOver {inside : List PluginRef} {id : String} {connector : Connector σ}
      {before read after : Progress σ} {now : Instant} {outcome : Except Halt Unit}
      (found : resolver.connectors.get? id = some connector)
      (fresh : before.resolution.isRecorded (.connector id) = false)
      (outside : .connector id ∉ inside)
      (clockRead : before.readClock clock = (now, read))
      (window : read.failures.inNoRetryWindow id connector.settings.noRetryDelay now = true)
      (replaced : Runs resolver clock (.connector id :: inside)
        (.replace id connector.settings (.noRetryWindow id)) (read.note (.passedOver id))
        outcome after) :
      Runs resolver clock inside (.visit (.connector id)) before outcome after
  | connectorHalted {inside : List PluginRef} {id : String} {connector : Connector σ}
      {before read after : Progress σ} {now : Instant} {halt : Halt}
      (found : resolver.connectors.get? id = some connector)
      (fresh : before.resolution.isRecorded (.connector id) = false)
      (outside : .connector id ∉ inside)
      (clockRead : before.readClock clock = (now, read))
      (noWindow : read.failures.inNoRetryWindow id connector.settings.noRetryDelay now = false)
      (dependencies : Runs resolver clock (.connector id :: inside)
        (.visitAll connector.settings.dependencies.refs) read (.error halt) after) :
      Runs resolver clock inside (.visit (.connector id)) before (.error halt) after
  | fetched {inside : List PluginRef} {id : String} {connector : Connector σ}
      {before read middle ran : Progress σ} {now : Instant} {attributes : Option AttributeMap}
      (found : resolver.connectors.get? id = some connector)
      (fresh : before.resolution.isRecorded (.connector id) = false)
      (outside : .connector id ∉ inside)
      (clockRead : before.readClock clock = (now, read))
      (noWindow : read.failures.inNoRetryWindow id connector.settings.noRetryDelay now = false)
      (dependencies : Runs resolver clock (.connector id :: inside)
        (.visitAll connector.settings.dependencies.refs) read (.ok ()) middle)
      (answered : fetchConnector clock id connector middle = (.ok attributes, ran)) :
      Runs resolver clock inside (.visit (.connector id)) before (.ok ())
        (ran.recordConnector ⟨id, id, attributes⟩)
  | fetchFailed {inside : List PluginRef} {id : String} {connector : Connector σ}
      {before read middle ran after : Progress σ} {now : Instant} {error : ResolutionError}
      {outcome : Except Halt Unit}
      (found : resolver.connectors.get? id = some connector)
      (fresh : before.resolution.isRecorded (.connector id) = false)
      (outside : .connector id ∉ inside)
      (clockRead : before.readClock clock = (now, read))
      (noWindow : read.failures.inNoRetryWindow id connector.settings.noRetryDelay now = false)
      (dependencies : Runs resolver clock (.connector id :: inside)
        (.visitAll connector.settings.dependencies.refs) read (.ok ()) middle)
      (failed : fetchConnector clock id connector middle = (.error error, ran))
      (replaced : Runs resolver clock (.connector id :: inside)
        (.replace id connector.settings error) ran outcome after) :
      Runs resolver clock inside (.visit (.connector id)) before outcome after
  | failedOver {inside : List PluginRef} {id next : String} {settings : ConnectorSettings}
      {reason : ResolutionError} {before after : Progress σ}
      (named : settings.failover = some next)
      (resolved : Runs resolver clock inside (.visit (.connector next)) before (.ok ()) after) :
      Runs resolver clock inside (.replace id settings reason) before (.ok ())
        (after.recordConnector (substituteRecord after.resolution id next))
  | failoverHalted {inside : List PluginRef} {id next : String} {settings : ConnectorSettings}
      {reason : ResolutionError} {before after : Progress σ} {halt : Halt}
      (named : settings.failover = some next)
      (resolved : Runs resolver clock inside (.visit (.connector next)) before (.error halt)
        after) :
      Runs resolver clock inside (.replace id settings reason) before (.error halt) after
  | propagated {inside : List PluginRef} {id : String} {settings : ConnectorSettings}
      {reason : ResolutionError} {progress : Progress σ}
      (unnamed : settings.failover = none) (propagates : settings.propagateErrors = true) :
      Runs resolver clock inside (.replace id settings reason) progress (.error (.failed reason))
        progress
  | absorbed {inside : List PluginRef} {id : String} {settings : ConnectorSettings}
      {reason : ResolutionError} {progress : Progress σ}
      (unnamed : settings.failover = none) (absorbs : settings.propagateErrors = false) :
      Runs resolver clock inside (.replace id settings reason) progress (.ok ())
        (progress.recordConnector (.empty id))
  | done {inside : List PluginRef} {progress : Progress σ} :
      Runs resolver clock inside (.visitAll []) progress (.ok ()) progress
  | next {inside : List PluginRef} {ref : PluginRef} {rest : List PluginRef}
      {before middle after : Progress σ} {outcome : Except Halt Unit}
      (first : Runs resolver clock inside (.visit ref) before (.ok ()) middle)
      (others : Runs resolver clock inside (.visitAll rest) middle outcome after) :
      Runs resolver clock inside (.visitAll (ref :: rest)) before outcome after
  | halted {inside : List PluginRef} {ref : PluginRef} {rest : List PluginRef}
      {before after : Progress σ} {halt : Halt}
      (first : Runs resolver clock inside (.visit ref) before (.error halt) after) :
      Runs resolver clock inside (.visitAll (ref :: rest)) before (.error halt) after

/-! ## Visits are derivations -/

theorem Step.andThen_eq (first second : Step σ) (progress : Progress σ) :
    Step.andThen first second progress =
      match (first progress).1 with
      | .ok () => second (first progress).2
      | .error halt => (.error halt, (first progress).2) := by
  rw [Step.andThen]
  rcases first progress with ⟨_ | _, after⟩ <;> rfl

theorem Step.eq_of_ok {step : Step σ} {start : Progress σ} (ended : (step start).1 = .ok ()) :
    step start = (.ok (), (step start).2) := Prod.ext ended rfl

theorem Step.andThen_ok {first second : Step σ} {start : Progress σ}
    (succeeded : (Step.andThen first second start).1 = .ok ()) :
    ∃ middle, first start = (.ok (), middle) ∧
      Step.andThen first second start = second middle ∧ (second middle).1 = .ok () := by
  rw [Step.andThen_eq] at succeeded ⊢
  cases outcome : (first start).1 with
  | error halt =>
      rw [outcome] at succeeded
      cases succeeded
  | ok done =>
      rw [outcome] at succeeded
      exact ⟨(first start).2, Prod.ext outcome rfl, rfl, succeeded⟩

/-- Visiting several plugins in order runs if each visit does. -/
theorem runs_forEach {inside : List PluginRef} {step : PluginRef → Step σ}
    (each : ∀ ref progress, Runs resolver clock inside (.visit ref) progress
      (step ref progress).1 (step ref progress).2)
    (refs : List PluginRef) (progress : Progress σ) :
    Runs resolver clock inside (.visitAll refs) progress
      (Step.forEach step refs progress).1 (Step.forEach step refs progress).2 := by
  induction refs generalizing progress with
  | nil => exact .done
  | cons ref rest ih =>
      have first := each ref progress
      rw [Step.forEach, Step.andThen_eq]
      cases outcome : (step ref progress).1 with
      | error halt =>
          rw [outcome] at first
          exact .halted first
      | ok done =>
          rw [outcome] at first
          exact .next first (ih _)

/-- Replacing a connector runs if visits do. -/
theorem runs_replace {inside : List PluginRef} {step : PluginRef → Step σ}
    (each : ∀ ref progress, Runs resolver clock inside (.visit ref) progress
      (step ref progress).1 (step ref progress).2)
    (id : String) (settings : ConnectorSettings) (reason : ResolutionError)
    (progress : Progress σ) :
    Runs resolver clock inside (.replace id settings reason) progress
      (replaceConnector step id settings reason progress).1
      (replaceConnector step id settings reason progress).2 := by
  rw [replaceConnector]
  cases named : settings.failover with
  | none =>
      cases propagates : settings.propagateErrors with
      | true => exact .propagated named propagates
      | false => exact .absorbed named propagates
  | some next =>
      have resolved := each (.connector next) progress
      simp only [resolveFailover]
      rw [Step.andThen_eq]
      cases outcome : (step (.connector next) progress).1 with
      | error halt =>
          rw [outcome] at resolved
          exact .failoverHalted named resolved
      | ok done =>
          rw [outcome] at resolved
          exact .failedOver named resolved

/-- Resolving a definition runs if visits inside of it do. -/
theorem runs_resolveDefinition {inside : List PluginRef} {id : String}
    {definition : Definition σ} {step : PluginRef → Step σ}
    (each : ∀ ref progress, Runs resolver clock (.definition id :: inside) (.visit ref) progress
      (step ref progress).1 (step ref progress).2)
    (found : resolver.definitions.get? id = some definition) {progress : Progress σ}
    (fresh : progress.resolution.isRecorded (.definition id) = false)
    (outside : .definition id ∉ inside) :
    Runs resolver clock inside (.visit (.definition id)) progress
      (resolveDefinition step id definition progress).1
      (resolveDefinition step id definition progress).2 := by
  have dependencies := runs_forEach each definition.settings.dependencies.refs progress
  rw [resolveDefinition, Step.andThen_eq]
  cases outcome : (Step.forEach step definition.settings.dependencies.refs progress).1 with
  | error halt =>
      rw [outcome] at dependencies
      exact .definitionHalted found fresh outside dependencies
  | ok done =>
      rw [outcome] at dependencies
      exact .definition found fresh outside dependencies

/-- Resolving a connector runs if visits inside of it do. -/
theorem runs_resolveConnector {inside : List PluginRef} {id : String}
    {connector : Connector σ} {step : PluginRef → Step σ}
    (each : ∀ ref progress, Runs resolver clock (.connector id :: inside) (.visit ref) progress
      (step ref progress).1 (step ref progress).2)
    (found : resolver.connectors.get? id = some connector) {progress : Progress σ}
    (fresh : progress.resolution.isRecorded (.connector id) = false)
    (outside : .connector id ∉ inside) :
    Runs resolver clock inside (.visit (.connector id)) progress
      (resolveConnector clock step id connector progress).1
      (resolveConnector clock step id connector progress).2 := by
  rw [resolveConnector]
  rcases clockRead : progress.readClock clock with ⟨now, read⟩
  simp only
  split
  · rename_i window
    exact .passedOver found fresh outside clockRead window (runs_replace each _ _ _ _)
  · rename_i noWindow
    rw [Bool.not_eq_true] at noWindow
    have dependencies := runs_forEach each connector.settings.dependencies.refs read
    rw [Step.andThen_eq]
    cases outcome : (Step.forEach step connector.settings.dependencies.refs read).1 with
    | error halt =>
        rw [outcome] at dependencies
        exact .connectorHalted found fresh outside clockRead noWindow dependencies
    | ok done =>
        rw [outcome] at dependencies
        simp only [runConnector]
        rcases answered : fetchConnector clock id connector
          (Step.forEach step connector.settings.dependencies.refs read).2 with ⟨_ | _, ran⟩
        · exact .fetchFailed found fresh outside clockRead noWindow dependencies answered
            (runs_replace each _ _ _ _)
        · exact .fetched found fresh outside clockRead noWindow dependencies answered

/-- A visit runs, when its depth is enough for all plugins that it is not inside of. -/
theorem runs_visit {depth : Nat} {inside : List PluginRef}
    (enough : resolver.graph.plugins.length ≤ inside.length + depth) (ref : PluginRef)
    (progress : Progress σ) :
    Runs resolver clock inside (.visit ref) progress
      (visit resolver clock depth inside ref progress).1
      (visit resolver clock depth inside ref progress).2 := by
  induction depth generalizing inside ref progress with
  | zero =>
      rw [visit]
      split
      · rename_i settled
        exact .idle (by simpa using settled)
      · rename_i unsettled
        have known : hasPlugin resolver ref = true := by simp_all
        split
        · rename_i again
          exact .stuck known (.inl again)
        · exact .stuck known (.inr enough)
  | succ depth ih =>
      rw [visit]
      split
      · rename_i settled
        exact .idle (by simpa using settled)
      · rename_i unsettled
        obtain ⟨fresh, known⟩ : progress.resolution.isRecorded ref = false ∧
          hasPlugin resolver ref = true := by simpa using unsettled
        split
        · rename_i again
          exact .stuck known (.inl again)
        · rename_i outside
          have deeper : resolver.graph.plugins.length ≤ (ref :: inside).length + depth := by
            rw [List.length_cons]
            omega
          cases ref with
          | definition id =>
              obtain ⟨definition, found⟩ := (resolver.definitions.contains_iff id).mp known
              simp only [enter, found]
              exact runs_resolveDefinition (ih deeper) found fresh outside
          | connector id =>
              obtain ⟨connector, found⟩ := (resolver.connectors.contains_iff id).mp known
              simp only [enter, found]
              exact runs_resolveConnector (ih deeper) found fresh outside

/-- Visits from outside run. -/
theorem runs_visitAll (refs : List PluginRef) (progress : Progress σ) :
    Runs resolver clock [] (.visitAll refs) progress (visitAll resolver clock refs progress).1
      (visitAll resolver clock refs progress).2 :=
  runs_forEach (runs_visit (Nat.le_add_left _ _)) refs progress

/-! ## Laws of a request -/

/-- A step keeps to a law on what it starts from, how it ends, and what it leaves behind. -/
def Step.Obeys (law : Progress σ → Except Halt Unit → Progress σ → Prop) (step : Step σ) : Prop :=
  ∀ progress, law progress (step progress).1 (step progress).2

/-- Steps in turn keep to a law that composes. -/
theorem Step.Obeys.andThen {law : Progress σ → Except Halt Unit → Progress σ → Prop}
    (compose : ∀ {before middle after outcome}, law before (.ok ()) middle →
      law middle outcome after → law before outcome after)
    {first second : Step σ} (left : first.Obeys law) (right : second.Obeys law) :
    (Step.andThen first second).Obeys law := by
  intro progress
  have start := left progress
  rw [Step.andThen_eq]
  cases outcome : (first progress).1 with
  | error halt =>
      rw [outcome] at start
      exact start
  | ok done =>
      rw [outcome] at start
      exact compose start (right _)

/-- What is resolved before all else is visited from outside, and its attributes are kept. -/
theorem preResolve_obeys_keeping {law : Progress σ → Except Halt Unit → Progress σ → Prop}
    (compose : ∀ {before middle after outcome}, law before (.ok ()) middle →
      law middle outcome after → law before outcome after)
    (visits : ∀ refs, (visitAll resolver clock refs).Obeys law)
    (keeps : ∀ progress : Progress σ, law progress (.ok ())
      { progress with resolution := { progress.resolution with
        preResolved := definedAttributes resolver true progress.resolution } }) :
    (preResolve resolver clock).Obeys law := by
  intro progress
  rw [preResolve]
  split
  · exact visits [] progress
  · exact Step.Obeys.andThen compose (visits _) (fun progress => keeps progress) progress

/-- A request is resolved by visits from outside, between which attributes are kept and released. -/
theorem resolve_obeys_releasing {law : Progress σ → Except Halt Unit → Progress σ → Prop}
    (compose : ∀ {before middle after outcome}, law before (.ok ()) middle →
      law middle outcome after → law before outcome after)
    (visits : ∀ refs, (visitAll resolver clock refs).Obeys law)
    (keeps : ∀ progress : Progress σ, law progress (.ok ())
      { progress with resolution := { progress.resolution with
        preResolved := definedAttributes resolver true progress.resolution } })
    (releases : (setReleased resolver).Obeys law) : (resolve resolver clock).Obeys law := by
  have kept := preResolve_obeys_keeping compose visits keeps
  have asked : Step.Obeys law fun progress : Progress σ => visitAll resolver clock
      ((requestedIds resolver progress.resolution).map .definition) progress :=
    fun progress => visits _ progress
  exact .andThen compose kept (.andThen compose (visits _) (.andThen compose asked releases))

/-- A law that does not depend on which attributes are kept and released. -/
theorem resolve_obeys {law : Progress σ → Except Halt Unit → Progress σ → Prop}
    (compose : ∀ {before middle after outcome}, law before (.ok ()) middle →
      law middle outcome after → law before outcome after)
    (visits : ∀ refs, (visitAll resolver clock refs).Obeys law)
    (sets : ∀ (progress : Progress σ) (preResolved released : AttributeMap),
      law progress (.ok ())
        { progress with resolution := { progress.resolution with preResolved, released } }) :
    (resolve resolver clock).Obeys law :=
  resolve_obeys_releasing compose visits (fun progress => sets progress _ _)
    fun progress => sets progress _ _

end AttributeRelease.Resolver
