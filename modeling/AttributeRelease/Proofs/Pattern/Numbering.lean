import AttributeRelease.Pattern.Node
import AttributeRelease.Pattern.Parser

/-!
# The numbers of groups

The groups that a pattern captures are numbered from one on; the number zero is that of the match.
Applying the flags to an expression leaves no group that was not in it (`groups_toNode?`).
-/

namespace AttributeRelease.Pattern

mutual

/-- The numbers of the groups in an expression. -/
def Expr.groups : Expr → List Nat
  | .empty => []
  | .flags _ => []
  | .literal _ => []
  | .dot => []
  | .anchor _ => []
  | .property _ _ => []
  | .perl _ _ => []
  | .bracketed _ _ => []
  | .repeated _ _ _ body => body.groups
  | .group (.capture index) body => index :: body.groups
  | .group (.flags _) body => body.groups
  | .concat items => groupsOf items
  | .alternatives items => groupsOf items

/-- The numbers of the groups in several expressions. -/
def groupsOf : List Expr → List Nat
  | [] => []
  | item :: rest => item.groups ++ groupsOf rest

end

/-- The groups are numbered from one on; the number zero is that of the match. -/
def Expr.IsNumbered (expr : Expr) : Prop := 0 ∉ expr.groups

/-- Several expressions are numbered together exactly when each of them is. -/
theorem zero_notMem_groupsOf_iff {items : List Expr} :
    0 ∉ groupsOf items ↔ ∀ item ∈ items, item.IsNumbered := by
  induction items with
  | nil => exact ⟨nofun, nofun⟩
  | cons item items ih =>
    rw [groupsOf, List.mem_append, not_or, List.forall_mem_cons, ih]
    rfl

theorem zero_notMem_groupsOf_reverse {items : List Expr}
    (numbered : ∀ item ∈ items, item.IsNumbered) : 0 ∉ groupsOf items.reverse :=
  zero_notMem_groupsOf_iff.mpr fun item listed => numbered item (List.mem_reverse.mp listed)

/-- The reader keeps items in reverse; putting them in order leaves them numbered. -/
theorem isNumbered_concatOf {items : List Expr} (numbered : ∀ item ∈ items, item.IsNumbered) :
    (Parse.concatOf items).IsNumbered := by
  match items with
  | [] => exact List.not_mem_nil
  | [item] => exact numbered item List.mem_cons_self
  | _ :: _ :: _ => exact zero_notMem_groupsOf_reverse numbered

/-- Choosing between numbered expressions gives no group the number of the match. -/
theorem isNumbered_alternativesOf {items : List Expr}
    (numbered : ∀ item ∈ items, item.IsNumbered) : (Parse.alternativesOf items).IsNumbered := by
  match items with
  | [] => exact List.not_mem_nil
  | [item] => exact numbered item List.mem_cons_self
  | _ :: _ :: _ => exact zero_notMem_groupsOf_reverse numbered

/-- Only a group that captures under the number zero would be numbered as the match is. -/
theorem isNumbered_group {kind : GroupKind} {body : Expr} (numbered : body.IsNumbered)
    (capturing : kind ≠ .capture 0) : (Expr.group kind body).IsNumbered := by
  cases kind with
  | capture index =>
    exact List.not_mem_cons_of_ne_of_not_mem (fun same => capturing (congrArg _ same.symm)) numbered
  | flags changes => exact numbered

/-- Escapes, classes and characters have no groups at all. -/
theorem isNumbered_toExpr (atom : Parse.Atom) : atom.toExpr.IsNumbered := by
  cases atom <;> exact List.not_mem_nil

/-! ## The groups of a pattern with its flags applied -/

/-- The numbers of the groups that a pattern notes. -/
def Node.groups : Node → List Nat
  | .empty => []
  | .set _ => []
  | .look _ => []
  | .group index body => index :: body.groups
  | .cat first second => first.groups ++ second.groups
  | .alt first second => first.groups ++ second.groups
  | .repeated _ _ _ body => body.groups

/-- A repetition captures what its body captures, or nothing if it is repeated zero times. -/
theorem groups_times_subset (least : Nat) (most : Option Nat) (greedy : Bool) (body : Node) :
    (Node.times least most greedy body).groups ⊆ body.groups := by
  rw [Node.times]
  generalize (if body.isZeroWidth then _ else _ : Nat × Option Nat) = range
  obtain ⟨least, most⟩ := range
  dsimp only
  split
  · exact List.nil_subset _
  · split <;> exact List.Subset.refl _

theorem append_subset_append {first first' second second' : List Nat} (left : first ⊆ first')
    (right : second ⊆ second') : first ++ second ⊆ first' ++ second' :=
  List.append_subset.mpr ⟨List.subset_append_of_subset_left _ left,
    List.subset_append_of_subset_right _ right⟩

mutual

/-- Flags add no groups. -/
theorem groups_toNode? {flags after : Flags} {node : Node} (expr : Expr)
    (applied : expr.toNode? flags = some (node, after)) : node.groups ⊆ expr.groups := by
  cases expr with
  | empty | flags _ | anchor _ =>
    cases applied
    exact List.Subset.refl _
  | literal _ | dot | property _ _ | perl _ _ =>
    obtain ⟨set, _, same⟩ := Option.map_eq_some_iff.mp applied
    cases same
    exact List.Subset.refl _
  | bracketed negated body =>
    obtain ⟨set, _, applied⟩ := Option.bind_eq_some_iff.mp applied
    obtain ⟨set, _, same⟩ := Option.bind_eq_some_iff.mp applied
    cases same
    exact List.Subset.refl _
  | repeated least most greedy body =>
    obtain ⟨_, found, same⟩ := Option.bind_eq_some_iff.mp applied
    cases same
    exact List.Subset.trans (groups_times_subset ..) (groups_toNode? body found)
  | group kind body =>
    cases kind with
    | capture index =>
      obtain ⟨_, found, same⟩ := Option.bind_eq_some_iff.mp applied
      cases same
      exact List.cons_subset_cons index (groups_toNode? body found)
    | flags changes =>
      obtain ⟨_, found, same⟩ := Option.bind_eq_some_iff.mp applied
      cases same
      exact groups_toNode? body found
  | concat items => exact groups_concatNode? items applied
  | alternatives items => exact groups_alternativesNode? items applied

/-- Applying the flags to a sequence leaves no group that none of its items has. -/
theorem groups_concatNode? {flags after : Flags} {node : Node} (items : List Expr)
    (applied : concatNode? flags items = some (node, after)) : node.groups ⊆ groupsOf items := by
  cases items with
  | nil =>
    cases applied
    exact List.Subset.refl _
  | cons item rest =>
    obtain ⟨_, found, applied⟩ := Option.bind_eq_some_iff.mp applied
    obtain ⟨_, foundRest, same⟩ := Option.bind_eq_some_iff.mp applied
    cases same
    exact append_subset_append (groups_toNode? item found) (groups_concatNode? rest foundRest)

/-- Applying the flags to alternatives leaves no group that none of them has. -/
theorem groups_alternativesNode? {flags after : Flags} {node : Node} (items : List Expr)
    (applied : alternativesNode? flags items = some (node, after)) :
    node.groups ⊆ groupsOf items := by
  match items with
  | [] =>
    cases applied
    exact List.Subset.refl _
  | [item] =>
    rw [groupsOf, groupsOf, List.append_nil]
    exact groups_toNode? item applied
  | item :: other :: rest =>
    obtain ⟨_, found, applied⟩ := Option.bind_eq_some_iff.mp applied
    obtain ⟨_, foundRest, same⟩ := Option.bind_eq_some_iff.mp applied
    cases same
    exact append_subset_append (groups_toNode? item found)
      (groups_alternativesNode? (other :: rest) foundRest)

end

end AttributeRelease.Pattern
