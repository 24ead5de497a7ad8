import AttributeRelease.Proofs.Release.Precedence
import AttributeRelease.Proofs.Walk.Provenance

/-!
# Which values are released

A released attribute has the distinct values of the attribute that it is taken from, each where it
stands first, without placeholders if these are stripped, and it has at least one (`Distilled`).
This holds of attributes of definitions, of those that connectors export, be they their own or those
of a failover, and of those kept for other plugins (`released_values_distilled`).
-/

namespace AttributeRelease.Resolver

variable {σ : Type} {resolver : Resolver σ} {clock : σ → Instant × σ}

/-! ## Where attributes are taken from -/

/-- A definition has recorded an attribute under a key. -/
def Resolution.Defines (resolution : Resolution) (key : String) (attr : Attribute) : Prop :=
  ∃ id record, resolution.definitions.get? id = some record ∧ record.attr = some attr ∧
    attr.id = key

/-- The attribute that the one released under a key is taken from. It is that of the last definition
that contributes to the key, or else the one that the first connector offering the key has there,
which it has fetched itself or taken over from the connector at the end of its failovers. -/
inductive TakenFrom (resolver : Resolver σ) (resolution : Resolution) (key : String) :
    Attribute → Prop
  | definition {id : String} {record : DefinitionRecord} {own kept : Attribute}
      (contributes : Contributes resolver resolution key id record kept)
      (last : ∀ later other attr, id < later →
        ¬ Contributes resolver resolution key later other attr)
      (has : record.attr = some own) (named : own.id = key) :
      TakenFrom resolver resolution key own
  | connector {id : String} {connector : Connector σ} {record : ConnectorRecord}
      {attributes : AttributeMap} {own kept : Attribute}
      (undefined : ∀ id record attr, ¬ Contributes resolver resolution key id record attr)
      (offers : Offers resolver resolution key id connector kept)
      (first : ∀ earlier other attr, earlier < id →
        ¬ Offers resolver resolution key earlier other attr)
      (recorded : resolution.connectors.get? id = some record)
      (has : record.attributes = some attributes) (listed : attributes.get? key = some own)
      (leads : Relation.ReflTransGen resolver.graph.FailsOver id record.resolvedBy)
      (fetched : resolution.connectors.get? record.resolvedBy =
        some ⟨record.resolvedBy, record.resolvedBy, some attributes⟩) :
      TakenFrom resolver resolution key own

theorem displayDefined_values (record : DefinitionRecord) (attr : Attribute) :
    (resolver.displayDefined record attr).values = attr.values := rfl

theorem displayExported_values (settings : ConnectorSettings) (key : String) (attr : Attribute) :
    (resolver.displayExported settings key attr).values = attr.values := rfl

/-- What is released under a key has the distinct values of an attribute that was recorded or
exported under it. -/
theorem releasedAttributes_distilled {resolution : Resolution} {key : String} {attr : Attribute}
    (traceable : resolution.Traceable resolver)
    (released : (releasedAttributes resolver resolution).get? key = some attr) :
    ∃ own, TakenFrom resolver resolution key own ∧
      Distilled resolver.stripNulls own.values attr.values := by
  have prevails := (releasedAttributes_iff_prevails resolver resolution key _).mp released
  cases prevails with
  | contributed contributes last =>
      obtain ⟨own, has, named, keeps⟩ := contributes.keeps
      refine ⟨own, .definition contributes last has named, ?_⟩
      rw [displayDefined_values]
      exact keeps.values
  | offered undefined offers first =>
      obtain ⟨record, attributes, own, recorded, has, listed, keeps⟩ := offers.keeps
      obtain ⟨leads, fetched⟩ := traceable.source _ record recorded
      rw [has] at fetched
      refine ⟨own, .connector undefined offers first recorded has listed leads fetched, ?_⟩
      rw [displayExported_values]
      exact keeps.values

/-- What is found among the recorded definitions has the distinct values of an attribute that one of
them has under that id. -/
theorem definedAttributes_distilled {includeDependencyOnly : Bool} {resolution : Resolution}
    {key : String} {attr : Attribute}
    (found : (definedAttributes resolver includeDependencyOnly resolution).get? key = some attr) :
    ∃ own, resolution.Defines key own ∧
      Distilled resolver.stripNulls own.values attr.values := by
  rw [get?_definedAttributes] at found
  obtain ⟨⟨id, record⟩, listed, here⟩ := List.exists_of_findSome?_eq_some found
  have recorded := (KeyMap.mem_entries_iff _ id record).mp (List.mem_reverse.mp listed)
  rw [Option.filter_eq_some_iff, contributed?_eq, Option.ite_none_left_eq_some,
    Option.map_eq_some_iff] at here
  obtain ⟨⟨-, kept, bound, rfl⟩, named⟩ := here
  obtain ⟨own, has, keeps⟩ := Option.bind_eq_some_iff.mp bound
  have keeps := releasable?_eq_some_iff.mp keeps
  have same : own.id = key := by
    rw [← keeps.id, ← displayDefined_id record kept]
    exact of_decide_eq_true named
  refine ⟨own, ⟨id, record, recorded, has, same⟩, ?_⟩
  rw [displayDefined_values]
  exact keeps.values

/-! ## Attributes kept for other plugins -/

/-- The attributes that are kept for other plugins have the distinct values of attributes that
definitions have recorded. -/
def Resolution.KeepsDistilled (resolver : Resolver σ) (resolution : Resolution) : Prop :=
  ∀ key attr, resolution.preResolved.get? key = some attr →
    ∃ own, resolution.Defines key own ∧ Distilled resolver.stripNulls own.values attr.values

/-- Records are never lost, so what was kept for other plugins still stems from one. -/
theorem Resolution.KeepsDistilled.later {before after : Resolution}
    (distilled : before.KeepsDistilled resolver) (same : after.preResolved = before.preResolved)
    (retained : before.Retains after) : after.KeepsDistilled resolver := by
  intro key attr found
  rw [same] at found
  obtain ⟨own, ⟨id, record, recorded, has, named⟩, values⟩ := distilled key attr found
  exact ⟨own, ⟨id, record, retained.definitions id record recorded, has, named⟩, values⟩

/-- Attributes are kept for other plugins only when a resolution releases, and then from the
records; everything else leaves them as they are. -/
theorem resolve_keepsDistilled (resolver : Resolver σ) (clock : σ → Instant × σ) :
    (resolve resolver clock).Obeys fun before _ after =>
      before.resolution.KeepsDistilled resolver → after.resolution.KeepsDistilled resolver := by
  apply resolve_obeys_releasing
  · exact fun first second distilled => second (first distilled)
  · intro refs progress distilled
    have runs : Runs resolver clock [] (.visitAll refs) progress _ _ := runs_visitAll refs progress
    exact distilled.later runs.same_but_records.preResolved (runs.grows nofun).extended.retains
  · intro progress _ key attr found
    exact definedAttributes_distilled found
  · exact fun progress distilled => distilled

/-- At the start nothing is kept for other plugins, and every use of the request keeps the origin of
what is. -/
theorem stateAfter_keepsDistilled (resolver : Resolver σ) (clock : σ → Instant × σ)
    (request : Request) (uses : List (Use σ)) :
    (stateAfter resolver clock { request } uses).KeepsDistilled resolver := by
  refine stateAfter_holds (fun _ _ distilled => distilled) (fun distilled => distilled)
    (fun _ _ distilled => ?_) uses nofun
  exact resolve_keepsDistilled resolver clock _ distilled

/-- Let a request be used in any way and then be resolved with success. Then each attribute that is
released, and each that is kept for other plugins, has at least one value and none twice: it has the
distinct values of the attribute that it is taken from, each where it stands first there. If
placeholders are stripped, it has none of them, and else it has all of them. -/
theorem released_values_distilled (resolver : Resolver σ) (clock : σ → Instant × σ)
    (request : Request) (uses : List (Use σ)) (world : σ) (failures : FailureLog)
    {final : Progress σ}
    (succeeded : resolve resolver clock
      { world, failures, resolution := stateAfter resolver clock { request } uses } =
        (.ok (), final)) :
    (∀ key attr, final.resolution.released.get? key = some attr →
        ∃ own, TakenFrom resolver final.resolution key own ∧
          Distilled resolver.stripNulls own.values attr.values) ∧
      ∀ key attr, final.resolution.preResolved.get? key = some attr →
        ∃ own, final.resolution.Defines key own ∧
          Distilled resolver.stripNulls own.values attr.values := by
  have traceable := stateAfter_traceable resolver clock request uses
  have unfolds := resolve_unfolds resolver clock
    { world, failures, resolution := stateAfter resolver clock { request } uses } traceable
  have kept := resolve_keepsDistilled resolver clock
    { world, failures, resolution := stateAfter resolver clock { request } uses }
    (stateAfter_keepsDistilled resolver clock request uses)
  have ended : (resolve resolver clock
      { world, failures, resolution := stateAfter resolver clock { request } uses }).1 =
        .ok () := by
    rw [succeeded]
  have released := resolve_released ended
  rw [succeeded] at unfolds kept released
  obtain ⟨ran, -, unfolds⟩ := unfolds
  refine ⟨fun key attr found => ?_, kept⟩
  rw [released] at found
  exact releasedAttributes_distilled unfolds.finished found

/-- The groups that a backup has: one repeats, and one is missing. -/
def backupGroups : AttributeMap :=
  .ofList [("group", ⟨"group", [.text "staff", .null, .text "all", .text "staff"], ∅, ∅⟩)]

/-- A directory that is out of reach exports what its backup has. -/
def officeConnectors : Keyed fun connector : Connector Unit => connector.settings.id :=
  (Keyed.add .empty
    ⟨{ id := "directory", failover := some "backup", exported := .all },
      .pure fun _ => .error (.failed "directory" "out of reach" none)⟩).add
    (staticConnector { id := "backup" } backupGroups)

/-- Before all else the groups of the directory and of the backup are merged. -/
def officeDefinitions : Keyed fun definition : Definition Unit => definition.settings.id :=
  Keyed.add .empty
    (DefinitionKind.simple.toDefinition
      { id := "member"
        dependencies := { connectors := [⟨"directory", []⟩, ⟨"backup", []⟩] }
        preRequested := true
        sourceAttribute := some "group" })

/-- A resolver of an office that strips placeholders or not. -/
def office (stripNulls : Bool) : Resolver Unit where
  id := "office"
  definitions := officeDefinitions.1
  connectors := officeConnectors.1
  stripNulls
  suppressDisplay := false
  definitions_keyed := officeDefinitions.2
  connectors_keyed := officeConnectors.2
  accepted := by decide +kernel

def officeFailures : FailureLog := .new ["backup", "directory"]

/-- A request of the office is resolved, what is released is taken out, and the request is resolved
again. -/
def officeEnd (stripNulls : Bool) : Except Halt Unit × Progress Unit :=
  let uses := [.resolve () officeFailures, .takeReleased]
  resolve (office stripNulls) (fun world => (0, world)) {
    world := ()
    failures := officeFailures
    resolution := stateAfter (office stripNulls) (fun world => (0, world)) {} uses }

/-- The office releases the groups of the backup for the directory, and keeps those that are merged,
with the missing one unless placeholders are stripped. -/
theorem released_values_distilled_office :
    ((officeEnd false).1 = .ok () ∧
        ∃ own, TakenFrom (office false) (officeEnd false).2.resolution "group" own ∧
          Distilled false own.values [.text "staff", .null, .text "all"]) ∧
      (officeEnd true).1 = .ok () ∧
        ∃ own, (officeEnd true).2.resolution.Defines "member" own ∧
          Distilled true own.values [.text "staff", .text "all"] := by
  have kept : (officeEnd false).1 = .ok () := by decide +kernel
  have stripped : (officeEnd true).1 = .ok () := by decide +kernel
  have exported := (released_values_distilled (office false) _ {} _ () officeFailures
    (Prod.ext kept rfl)).1 "group" ⟨"group", [.text "staff", .null, .text "all"], ∅, ∅⟩
    (by decide +kernel)
  have merged := (released_values_distilled (office true) _ {} _ () officeFailures
    (Prod.ext stripped rfl)).2 "member" ⟨"member", [.text "staff", .text "all"], ∅, ∅⟩
    (by decide +kernel)
  exact ⟨⟨kept, exported⟩, stripped, merged⟩

end AttributeRelease.Resolver
