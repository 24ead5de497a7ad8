import AttributeRelease.Proofs.Graph.References
import Mathlib.Order.WellFounded

/-!
# The search for circles

The search goes from plugin to plugin along references, keeping the plugins it is inside of and a
list of plugins that are done, the last one done first. That list is in order: every plugin in it
leads only to plugins further down (`PluginGraph.Settled`). Hence nothing in it lies on a circle,
and the references between plugins in such a list are well-founded (`PluginGraph.Settled.acc`). A
search that meets a plugin it is inside of has found a circle, and its error gives that circle
(`PluginGraph.visit_explores`).
-/

namespace AttributeRelease.Resolver.PluginGraph

variable {graph : PluginGraph}

/-- Plugins in an order in which each leads only to those that follow it. -/
def Settled (graph : PluginGraph) : List PluginRef → Prop
  | [] => True
  | ref :: rest => (∀ next, graph.LeadsTo ref next → next ∈ rest) ∧ Settled graph rest

/-- What a search from several plugins comes to: they are added to the plugins that are done, or an
error tells of something that is there. -/
def Explores (graph : PluginGraph) (refs done : List PluginRef) :
    Except ConfigError (List PluginRef) → Prop
  | .ok after => graph.Settled after ∧ done ⊆ after ∧ ∀ ref ∈ refs, ref ∈ after
  | .error error => graph.Describes error

/-! ## Orders without circles -/

/-- References between settled plugins are well-founded. -/
theorem Settled.acc {done : List PluginRef} (settled : graph.Settled done) :
    ∀ ref ∈ done, Acc (fun next ref => graph.LeadsTo ref next) ref := by
  induction done with
  | nil => exact fun _ member => (List.not_mem_nil member).elim
  | cons head rest ih =>
      have others := ih settled.2
      intro ref member
      rcases List.mem_cons.mp member with rfl | later
      · exact .intro ref fun next leads => others next (settled.1 next leads)
      · exact others ref later

/-- When all plugins are settled, references are well-founded. -/
theorem Settled.wellFounded {done : List PluginRef} (settled : graph.Settled done)
    (complete : ∀ ref, graph.has ref → ref ∈ done) :
    WellFounded fun next ref => graph.LeadsTo ref next := by
  refine ⟨fun ref => ?_⟩
  by_cases known : graph.has ref
  · exact settled.acc ref (complete ref known)
  · refine .intro ref fun next leads => (known ?_).elim
    cases leads with
    | dependency declared =>
        obtain ⟨dependencies, found, -⟩ := declares_iff.mp declared
        exact has_of_dependencies? found
    | failover named =>
        obtain ⟨node, found, -⟩ := Option.bind_eq_some_iff.mp named
        exact (graph.connectors.contains_iff _).mpr ⟨node, found⟩

/-- Well-founded references go round in no circle. -/
theorem not_transGen_self (wellFounded : WellFounded fun next ref => graph.LeadsTo ref next)
    (ref : PluginRef) : ¬ Relation.TransGen graph.LeadsTo ref ref := by
  intro circle
  have swapped : Relation.TransGen (fun next ref => graph.LeadsTo ref next) ref ref :=
    Relation.transGen_swap.mpr circle
  exact wellFounded.transGen.irrefl.irrefl ref swapped

/-! ## The search -/

/-- A search from several plugins in order, each explored with what was done before. -/
theorem visitEach_explores
    {visit : PluginRef → List PluginRef → Except ConfigError (List PluginRef)}
    {refs : List PluginRef}
    (explores : ∀ ref ∈ refs, ∀ done, graph.Settled done →
      graph.Explores [ref] done (visit ref done))
    {done : List PluginRef} (settled : graph.Settled done) :
    graph.Explores refs done (visitEach visit refs done) := by
  induction refs generalizing done with
  | nil => exact ⟨settled, List.Subset.refl done, fun _ member => (List.not_mem_nil member).elim⟩
  | cons ref rest ih =>
      have first := explores ref List.mem_cons_self done settled
      simp only [visitEach]
      cases visited : visit ref done with
      | error error =>
          rw [visited] at first
          exact first
      | ok middle =>
          rw [visited] at first
          obtain ⟨settledMiddle, kept, included⟩ := first
          have others := ih (fun other member => explores other (List.mem_cons_of_mem _ member))
            settledMiddle
          change graph.Explores (ref :: rest) done (visitEach visit rest middle)
          cases remaining : visitEach visit rest middle with
          | error error =>
              rw [remaining] at others
              exact others
          | ok after =>
              rw [remaining] at others
              obtain ⟨settledAfter, keptAfter, includedAfter⟩ := others
              refine ⟨settledAfter, List.Subset.trans kept keptAfter, fun other member => ?_⟩
              rcases List.mem_cons.mp member with rfl | later
              · exact keptAfter (included other (List.mem_singleton_self other))
              · exact includedAfter other later

/-- A plugin that is met while the search is inside of it lies on a circle. -/
theorem WayTo.circle {way : List PluginRef} {ref : PluginRef}
    (wayTo : graph.WayTo way ref) (inside : ref ∈ way) :
    graph.Describes (.circularDependency
      ((ref :: (way.takeWhile fun other => other != ref).reverse ++ [ref]).map PluginRef.id)) := by
  obtain ⟨between, after, split, first⟩ := List.eq_append_cons_of_mem inside
  have taken : way.takeWhile (fun other => other != ref) = between := by
    have differs : ∀ other ∈ between, (other != ref) = true := fun other member =>
      bne_iff_ne.mpr fun same => first (same ▸ member)
    rw [split, List.takeWhile_append_of_pos differs, List.takeWhile_cons_of_neg (by simp),
      List.append_nil]
  refine ⟨ref, between.reverse, by rw [taken], ?_⟩
  have backwards : (ref :: between ++ [ref]).IsChain
      fun next previous => graph.LeadsTo previous next := by
    have whole : (ref :: between ++ [ref]) ++ after = ref :: way := by
      rw [split, List.append_assoc, List.singleton_append, List.cons_append]
    have chain := wayTo.chain
    rw [← whole] at chain
    exact chain.left_of_append
  have forwards := List.isChain_reverse.mpr backwards
  simpa only [List.reverse_append, List.reverse_cons, List.reverse_nil, List.nil_append,
    List.singleton_append, List.cons_append] using forwards

/-- The search settles a plugin and all that it leads to, or finds a circle. -/
theorem visit_explores (closed : ∀ ref next, graph.LeadsTo ref next → graph.has next)
    {budget : Nat} {way : List PluginRef} {ref : PluginRef} {done : List PluginRef}
    (wayTo : graph.WayTo way ref) (enough : graph.plugins.length ≤ way.length + budget)
    (settled : graph.Settled done) :
    graph.Explores [ref] done (graph.visit budget way ref done) := by
  induction budget generalizing way ref done with
  | zero =>
      rw [visit]
      split
      · rename_i found
        exact ⟨settled, List.Subset.refl done, by simpa using found⟩
      · split
        · rename_i inside
          exact wayTo.circle inside
        · rename_i outside
          have room := wayTo.length_lt outside
          omega
  | succ budget ih =>
      rw [visit]
      split
      · rename_i found
        exact ⟨settled, List.Subset.refl done, by simpa using found⟩
      · split
        · rename_i inside
          exact wayTo.circle inside
        · rename_i outside
          have each : graph.Explores (graph.edges ref) done
              (visitEach (graph.visit budget (ref :: way)) (graph.edges ref) done) := by
            refine visitEach_explores (fun next member done settled => ?_) settled
            have leads := mem_edges_iff.mp member
            refine ih (wayTo.extend outside leads (closed ref next leads)) ?_ settled
            rw [List.length_cons]
            omega
          cases explored : visitEach (graph.visit budget (ref :: way)) (graph.edges ref) done with
          | error error =>
              rw [explored] at each
              exact each
          | ok after =>
              rw [explored] at each
              obtain ⟨settledAfter, kept, included⟩ := each
              have complete : ∀ next, graph.LeadsTo ref next → next ∈ after := fun next leads =>
                included next (mem_edges_iff.mpr leads)
              have keptAfter := List.Subset.trans kept (List.subset_cons_self ref after)
              exact ⟨⟨complete, settledAfter⟩, keptAfter, by simp⟩

/-- The search from all plugins settles all of them, or finds a circle. -/
theorem visitEach_plugins_explores (closed : ∀ ref next, graph.LeadsTo ref next → graph.has next) :
    graph.Explores graph.plugins []
      (visitEach (graph.visit graph.plugins.length []) graph.plugins []) :=
  visitEach_explores (fun _ member _ settled =>
    visit_explores closed (wayTo_root (mem_plugins_iff.mp member)) (by simp) settled) trivial

end AttributeRelease.Resolver.PluginGraph
