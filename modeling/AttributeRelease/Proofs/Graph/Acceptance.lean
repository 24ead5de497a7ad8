import AttributeRelease.Proofs.Graph.Circles

/-!
# Accepted graphs

A graph is accepted exactly when it is well-formed, and an error always tells of something that is
there (`PluginGraph.check_iff_wellFormed_and_describes`). Each stage of the check is shown to accept
only what it is there for and to fail only for a reason; since a well-formed graph gives no reason,
the check accepts it. The references of an accepted graph are well-founded
(`PluginGraph.wellFounded_of_check`), which is what requests are resolved along.
-/

namespace AttributeRelease.Resolver.PluginGraph

variable {graph : PluginGraph}

/-- What a stage of the check comes to: it found what it looks for, or an error tells of something
that is there. -/
def Ensures (graph : PluginGraph) (fact : Prop) : Except ConfigError Unit → Prop
  | .ok () => fact
  | .error error => graph.Describes error

/-- Two stages in turn find what both look for. -/
theorem Ensures.andThen {first second : Prop} {stage next : Except ConfigError Unit}
    (left : graph.Ensures first stage) (right : first → graph.Ensures second next) :
    graph.Ensures (first ∧ second) (stage >>= fun _ => next) := by
  cases stage with
  | error error => exact left
  | ok done =>
      have found : first := left
      change graph.Ensures (first ∧ second) next
      cases next with
      | error error => exact right found
      | ok done => exact ⟨found, right found⟩

theorem Ensures.mono {first second : Prop} {stage : Except ConfigError Unit}
    (found : graph.Ensures first stage) (implies : first → second) :
    graph.Ensures second stage := by
  cases stage with
  | error error => exact found
  | ok done => exact implies found

/-! ## Dependencies -/

/-- A dependency that is missing is declared and leads nowhere. -/
theorem checkDependencies_ensures {list : List (String × Dependencies)}
    (declared : ∀ entry ∈ list, ∃ ref : PluginRef,
      ref.id = entry.1 ∧ graph.dependencies? ref = some entry.2) :
    graph.Ensures (∀ entry ∈ list, ∀ next ∈ entry.2.refs, graph.has next)
      (graph.checkDependencies list) := by
  induction list with
  | nil => exact fun _ member => (List.not_mem_nil member).elim
  | cons entry rest ih =>
      obtain ⟨id, dependencies⟩ := entry
      have others := ih fun other member => declared other (List.mem_cons_of_mem _ member)
      simp only [checkDependencies]
      cases missing : graph.missing? dependencies with
      | some next =>
          obtain ⟨ref, named, found⟩ := declared (id, dependencies) List.mem_cons_self
          refine ⟨ref, next, named, rfl, declares_iff.mpr ⟨dependencies, found, ?_⟩, ?_⟩
          · exact List.mem_of_find?_eq_some missing
          · simpa using List.find?_some missing
      | none =>
          have known : ∀ next ∈ dependencies.refs, graph.has next := fun next member => by
            simpa using List.find?_eq_none.mp missing next member
          exact others.mono fun found => List.forall_mem_cons.mpr ⟨known, found⟩

/-! ## Failover references -/

/-- The next failover of a connector is known; one that was met before closes a loop. -/
theorem followFailover_ensures {budget : Nat} {current : String} {before : List String}
    (chain : (current :: before).IsChain fun next previous => graph.FailsOver previous next) :
    graph.Ensures (∀ next, graph.FailsOver current next → graph.connectors.contains next)
      (graph.followFailover budget current before) := by
  fun_induction graph.followFailover budget current before with
  | case1 budget current before unnamed =>
      intro next named
      cases named.symm.trans unnamed
  | case2 budget current before next named unknown =>
      exact ⟨named, by simpa using unknown⟩
  | case3 budget current before next named known again =>
      refine ⟨(current :: before).reverse, next, List.reverse_cons, List.mem_reverse.mpr again, ?_⟩
      exact List.isChain_reverse.mpr (List.isChain_cons_cons.mpr ⟨named, chain⟩)
  | case4 current before next named known fresh =>
      intro other namedOther
      cases named.symm.trans namedOther
      simpa using known
  | case5 current before next named known fresh budget ih =>
      have onward := ih (List.isChain_cons_cons.mpr ⟨named, chain⟩)
      refine onward.mono fun _ other namedOther => ?_
      cases named.symm.trans namedOther
      simpa using known

/-- The failover references of several connectors are followed in turn. -/
theorem checkFailover_ensures (graph : PluginGraph) (ids : List String) :
    graph.Ensures (∀ id ∈ ids, ∀ next, graph.FailsOver id next → graph.connectors.contains next)
      (graph.checkFailover ids) := by
  induction ids with
  | nil => exact fun _ member => (List.not_mem_nil member).elim
  | cons id rest ih =>
      have first : graph.Ensures _ (graph.followFailover graph.connectors.keys.length id []) :=
        followFailover_ensures (List.isChain_singleton id)
      exact (first.andThen fun _ => ih).mono fun found => List.forall_mem_cons.mpr found

/-! ## The whole check -/

theorem declares_of_mem_definitions {entry : String × Dependencies}
    (member : entry ∈ graph.definitions.entries) :
    ∃ ref : PluginRef, ref.id = entry.1 ∧ graph.dependencies? ref = some entry.2 :=
  ⟨.definition entry.1, rfl, (graph.definitions.mem_entries_iff _ _).mp member⟩

theorem declares_of_mem_connectors {entry : String × Dependencies}
    (member : entry ∈ graph.connectors.entries.map fun entry => (entry.1, entry.2.dependencies)) :
    ∃ ref : PluginRef, ref.id = entry.1 ∧ graph.dependencies? ref = some entry.2 := by
  obtain ⟨⟨id, node⟩, listed, rfl⟩ := List.mem_map.mp member
  refine ⟨.connector id, rfl, ?_⟩
  simp only [dependencies?, (graph.connectors.mem_entries_iff id node).mp listed, Option.map_some]

/-- Dependencies are known if those of all entries are. -/
theorem dependencies_known_of_entries
    (definitions : ∀ entry ∈ graph.definitions.entries, ∀ next ∈ entry.2.refs, graph.has next)
    (connectors : ∀ entry ∈ graph.connectors.entries.map fun entry =>
      (entry.1, entry.2.dependencies), ∀ next ∈ entry.2.refs, graph.has next)
    {ref next : PluginRef} (declared : graph.Declares ref next) : graph.has next := by
  obtain ⟨dependencies, found, member⟩ := declares_iff.mp declared
  cases ref with
  | definition id =>
      exact definitions (id, dependencies)
        ((graph.definitions.mem_entries_iff id dependencies).mpr found) next member
  | connector id =>
      obtain ⟨node, stored, rfl⟩ := Option.map_eq_some_iff.mp found
      have listed := (graph.connectors.mem_entries_iff id node).mpr stored
      exact connectors (id, node.dependencies) (List.mem_map.mpr ⟨(id, node), listed, rfl⟩) next
        member

/-- Failover references are known if those of all connectors are. -/
theorem failover_known_of_keys
    (connectors : ∀ id ∈ graph.connectors.keys, ∀ next, graph.FailsOver id next →
      graph.connectors.contains next)
    {id next : String} (named : graph.FailsOver id next) : graph.connectors.contains next := by
  obtain ⟨node, found, -⟩ := Option.bind_eq_some_iff.mp named
  exact connectors id ((KeyMap.mem_keys_iff _ _).mpr ((KeyMap.contains_iff _ _).mpr ⟨node, found⟩))
    next named

theorem leadsTo_known
    (dependencies : ∀ {ref next}, graph.Declares ref next → graph.has next)
    (failover : ∀ {id next}, graph.FailsOver id next → graph.connectors.contains next)
    {ref next : PluginRef} (leads : graph.LeadsTo ref next) : graph.has next := by
  cases leads with
  | dependency declared => exact dependencies declared
  | failover named => exact failover named

/-- The search at the end finds that references are well-founded. -/
theorem visitEach_ensures (closed : ∀ ref next, graph.LeadsTo ref next → graph.has next) :
    graph.Ensures (WellFounded fun next ref => graph.LeadsTo ref next)
      (visitEach (graph.visit graph.plugins.length []) graph.plugins [] >>= fun _ => pure ()) := by
  have explored := visitEach_plugins_explores closed
  cases visited : visitEach (graph.visit graph.plugins.length []) graph.plugins [] with
  | error error =>
      rw [visited] at explored
      exact explored
  | ok done =>
      rw [visited] at explored
      obtain ⟨settled, -, complete⟩ := explored
      exact settled.wellFounded fun ref known => complete ref (mem_plugins_iff.mpr known)

/-- The check finds a well-formed graph with well-founded references, or something wrong. -/
theorem check_ensures (graph : PluginGraph) :
    graph.Ensures (graph.WellFormed ∧ WellFounded fun next ref => graph.LeadsTo ref next)
      graph.check := by
  rw [check]
  cases shared : graph.definitions.keys.find? graph.connectors.contains with
  | some id =>
      have listed := List.mem_of_find?_eq_some shared
      exact ⟨(KeyMap.mem_keys_iff _ _).mp listed, List.find?_some shared⟩
  | none =>
      have disjoint : ∀ id, ¬ (graph.definitions.contains id ∧ graph.connectors.contains id) :=
        fun id both => List.find?_eq_none.mp shared id ((KeyMap.mem_keys_iff _ _).mpr both.1) both.2
      have definitions : graph.Ensures _ (graph.checkDependencies graph.definitions.entries) :=
        checkDependencies_ensures fun _ => declares_of_mem_definitions
      have connectors : graph.Ensures _ (graph.checkDependencies
          (graph.connectors.entries.map fun entry => (entry.1, entry.2.dependencies))) :=
        checkDependencies_ensures fun _ => declares_of_mem_connectors
      have failover := checkFailover_ensures graph graph.connectors.keys
      refine Ensures.mono (definitions.andThen fun first => connectors.andThen fun second =>
        failover.andThen fun third => visitEach_ensures fun ref next leads =>
          leadsTo_known (dependencies_known_of_entries first second) (failover_known_of_keys third)
            leads) ?_
      rintro ⟨first, second, third, wellFounded⟩
      refine ⟨?_, wellFounded⟩
      have acyclic := not_transGen_self wellFounded
      exact {
        kinds_disjoint := disjoint
        dependencies_known := fun _ _ => dependencies_known_of_entries first second
        failover_known := fun _ _ => failover_known_of_keys third
        failover_simple := fun way chain =>
          List.Nodup.of_map _ (nodup_of_isChain acyclic (isChain_connectors chain))
        acyclic }

/-- References between the plugins of an accepted graph are well-founded. -/
theorem wellFounded_of_check (accepted : graph.check = .ok ()) :
    WellFounded fun next ref => graph.LeadsTo ref next := by
  have ensured := check_ensures graph
  rw [accepted] at ensured
  exact ensured.2

/-- An accepted graph is well-formed. -/
theorem wellFormed_of_check (accepted : graph.check = .ok ()) : graph.WellFormed := by
  have ensured := check_ensures graph
  rw [accepted] at ensured
  exact ensured.1

/-- An error tells of something that is there. -/
theorem describes_of_check {error : ConfigError} (refused : graph.check = .error error) :
    graph.Describes error := by
  have ensured := check_ensures graph
  rw [refused] at ensured
  exact ensured

/-- The check accepts exactly the well-formed graphs, and its errors tell of what is there: a circle
of references, a way along failover references that comes back to itself, or a reference that a
plugin really has and that nothing of its kind answers. -/
theorem check_iff_wellFormed_and_describes (graph : PluginGraph) :
    (graph.check = .ok () ↔ graph.WellFormed) ∧
      ∀ error, graph.check = .error error → graph.Describes error := by
  refine ⟨⟨wellFormed_of_check, fun wellFormed => ?_⟩, fun _ => describes_of_check⟩
  cases outcome : graph.check with
  | ok done => rfl
  | error error => exact (wellFormed.not_describes error (describes_of_check outcome)).elim

/-- A definition that reads a connector whose failover reads the definition. -/
def circleThroughFailover : PluginGraph where
  definitions := .ofList [("mail", { connectors := [⟨"directory", []⟩] })]
  connectors := .ofList
    [("directory", ⟨{}, some "backup"⟩), ("backup", ⟨{ attributes := ["mail"] }, none⟩)]

/-- A circle that needs a dependency of each kind and a failover reference is found, and its error
gives it. -/
theorem check_circleThroughFailover :
    circleThroughFailover.check =
        .error (.circularDependency ["mail", "directory", "backup", "mail"]) ∧
      circleThroughFailover.Describes
        (.circularDependency ["mail", "directory", "backup", "mail"]) ∧
      ¬ circleThroughFailover.WellFormed := by
  have refused : circleThroughFailover.check =
      .error (.circularDependency ["mail", "directory", "backup", "mail"]) := rfl
  obtain ⟨accepts, describes⟩ := check_iff_wellFormed_and_describes circleThroughFailover
  refine ⟨refused, describes _ refused, fun wellFormed => ?_⟩
  cases refused.symm.trans (accepts.mpr wellFormed)

end AttributeRelease.Resolver.PluginGraph
