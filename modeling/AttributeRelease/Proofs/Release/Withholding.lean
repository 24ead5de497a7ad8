import AttributeRelease.Proofs.Release.Precedence
import AttributeRelease.Proofs.Walk.Extent
import AttributeRelease.Proofs.Walk.Invariants

/-!
# What is only there for other plugins

A definition may be there for other plugins only. It is resolved and recorded like any other
whenever it is needed, even asked for, but it contributes nothing to what is released. So what only
such definitions have is released only if a connector exports it as well
(`dependency_only_withheld`).
-/

namespace AttributeRelease.Resolver

variable {σ : Type} {resolver : Resolver σ} {clock : σ → Instant × σ} {resolution : Resolution}

/-- All definitions with a recorded attribute of an id are only there for other plugins. -/
def Resolution.KeepsBack (resolver : Resolver σ) (resolution : Resolution) (name : String) : Prop :=
  ∀ id definition record attr, resolver.definitions.get? id = some definition →
    resolution.definitions.get? id = some record → record.attr = some attr → attr.id = name →
      definition.settings.dependencyOnly = true

/-- No connector offers an attribute under a name, nor one with that id. -/
def Resolution.Unexported (resolver : Resolver σ) (resolution : Resolution) (name : String) :
    Prop :=
  ∀ key id connector kept, Offers resolver resolution key id connector kept →
    key ≠ name ∧ kept.id ≠ name

/-- No definition contributes an attribute under an id that is kept back. -/
theorem Resolution.KeepsBack.not_contributes {name : String}
    (keepsBack : resolution.KeepsBack resolver name) (answered : resolution.Answered resolver)
    (id : String) (record : DefinitionRecord) (kept : Attribute) :
    ¬ Contributes resolver resolution name id record kept := by
  intro contributes
  obtain ⟨definition, own⟩ := answered.definitions id record contributes.recorded
  obtain ⟨attr, has, named, -⟩ := contributes.keeps
  have hidden := keepsBack id definition record attr own.found contributes.recorded has named
  rw [← own.marked, contributes.wanted] at hidden
  cases hidden

/-- What is kept back is released only where a connector offers it. -/
theorem Resolution.KeepsBack.offered {name : String} {attr : Attribute}
    (keepsBack : resolution.KeepsBack resolver name) (answered : resolution.Answered resolver)
    (released : (releasedAttributes resolver resolution).get? name = some attr) :
    ∃ id connector kept, Offers resolver resolution name id connector kept ∧
      resolver.displayExported connector.settings name kept = attr := by
  have prevails := (releasedAttributes_iff_prevails resolver resolution name _).mp released
  cases prevails with
  | contributed contributes last =>
      exact absurd contributes (keepsBack.not_contributes answered _ _ _)
  | offered undefined offers first => exact ⟨_, _, _, offers, rfl⟩

/-- If no connector offers it, nothing that is released has it as its key or its id. -/
theorem Resolution.KeepsBack.unreleased {name key : String} {attr : Attribute}
    (keepsBack : resolution.KeepsBack resolver name) (answered : resolution.Answered resolver)
    (unexported : resolution.Unexported resolver name)
    (released : (releasedAttributes resolver resolution).get? key = some attr) :
    key ≠ name ∧ attr.id ≠ name := by
  have prevails := (releasedAttributes_iff_prevails resolver resolution key _).mp released
  cases prevails with
  | contributed contributes last =>
      obtain ⟨own, -, named, keeps⟩ := contributes.keeps
      rw [displayDefined_id, keeps.id, named]
      have differs : key ≠ name := by
        rintro rfl
        exact keepsBack.not_contributes answered _ _ _ contributes
      exact ⟨differs, differs⟩
  | offered undefined offers first =>
      rw [displayExported_id]
      exact unexported _ _ _ _ offers

/-- Let a request be used in any way, ask for whatever definitions, and then be resolved with
success. Exactly the definitions that were recorded before or are needed have records, each marked
as its definition is, whether or not that is only there for other plugins. But if all definitions
with a recorded attribute of some id are only there for other plugins, an attribute is released
under that id only where a connector offers one; and if no connector offers it, it is neither the
key nor the id of anything released. -/
theorem dependency_only_withheld (resolver : Resolver σ) (clock : σ → Instant × σ)
    (request : Request) (uses : List (Use σ)) (world : σ) (failures : FailureLog)
    {after : Progress σ}
    (succeeded : resolve resolver clock
      { world, failures, resolution := stateAfter resolver clock { request } uses } =
        (.ok (), after)) :
    (∀ id definition, resolver.definitions.get? id = some definition →
        ((∃ record, after.resolution.definitions.get? id = some record ∧
            record.dependencyOnly = definition.settings.dependencyOnly) ↔
          (stateAfter resolver clock { request } uses).isRecorded (.definition id) = true ∨
            Needed resolver (IsRoot resolver (stateAfter resolver clock { request } uses).requestedIds)
              (WasRun after.journal) (WasUnusable after.journal) (.definition id))) ∧
      ∀ name, after.resolution.KeepsBack resolver name →
        (∀ attr, after.resolution.released.get? name = some attr →
            ∃ id connector kept, Offers resolver after.resolution name id connector kept ∧
              resolver.displayExported connector.settings name kept = attr) ∧
          (after.resolution.Unexported resolver name →
            ∀ key attr, after.resolution.released.get? key = some attr →
              key ≠ name ∧ attr.id ≠ name) := by
  let start : Progress σ :=
    { world, failures, resolution := stateAfter resolver clock { request } uses }
  have ended : (resolve resolver clock start).1 = .ok () := by rw [succeeded]
  have released := resolve_released ended
  have answered : (resolve resolver clock start).2.resolution.Answered resolver :=
    resolve_answered (stateAfter_answered resolver clock request uses)
  have backed : start.resolution.Backed resolver := stateAfter_backed resolver clock request uses
  obtain ⟨-, recorded⟩ := resolve_recorded_iff rfl backed succeeded
  rw [succeeded] at released answered
  rw [released]
  refine ⟨fun id definition found => ?_, fun name keepsBack => ⟨fun attr => ?_, ?_⟩⟩
  · rw [← recorded (.definition id), Resolution.isRecorded, KeyMap.contains_iff]
    constructor
    · rintro ⟨record, has, -⟩
      exact ⟨record, has⟩
    · rintro ⟨record, has⟩
      obtain ⟨own, settled⟩ := answered.definitions id record has
      cases found.symm.trans settled.found
      exact ⟨record, has, settled.marked⟩
  · exact keepsBack.offered answered
  · exact fun unexported key attr => keepsBack.unreleased answered unexported

/-- The doors of a lobby are exported. -/
def lobbyConnectors : Keyed fun connector : Connector Unit => connector.settings.id :=
  Keyed.add .empty
    (staticConnector { id := "doors", exported := .all } (.ofList [("room", room "B1")]))

/-- The number of a badge is only there for the greeting. -/
def lobbyDefinitions : Keyed fun definition : Definition Unit => definition.settings.id :=
  (Keyed.add .empty
    (fixedDefinition { id := "badge", dependencyOnly := true, preRequested := true }
      ⟨"badge", [.ofText "4711"], ∅, ∅⟩)).add
    (DefinitionKind.simple.toDefinition
      { id := "greeting", dependencies := { attributes := ["badge"] } })

/-- A resolver for the lobby of a building. -/
def lobby : Resolver Unit where
  id := "lobby"
  definitions := lobbyDefinitions.1
  connectors := lobbyConnectors.1
  stripNulls := false
  suppressDisplay := false
  definitions_keyed := lobbyDefinitions.2
  connectors_keyed := lobbyConnectors.2
  accepted := by decide +kernel

/-- The badge is asked for in the lobby. -/
def lobbyUses : List (Use Unit) := [.ask ["badge", "greeting"] ∅]

def lobbyEnd : Except Halt Unit × Progress Unit :=
  resolve lobby (fun world => (0, world)) {
    world := ()
    failures := .new ["doors"]
    resolution := stateAfter lobby (fun world => (0, world)) {} lobbyUses }

/-- At the lobby only a dependency of others supplies the badge. -/
theorem lobbyEnd_keepsBack : lobbyEnd.2.resolution.KeepsBack lobby "badge" := by
  have each : ∀ entry ∈ lobbyEnd.2.resolution.definitions.entries,
      entry.2.attr.map Attribute.id = some "badge" → entry.1 = "badge" := by
    decide +kernel
  have marked : (lobby.definitions.get? "badge").map (fun own => own.settings.dependencyOnly) =
      some true := by
    decide +kernel
  intro id definition record attr found recorded has named
  have listed := (KeyMap.mem_entries_iff _ id record).mpr recorded
  cases each (id, record) listed (by rw [has, Option.map_some, named])
  simpa [found] using marked

/-- No connector at the lobby offers the badge. -/
theorem lobbyEnd_unexported : lobbyEnd.2.resolution.Unexported lobby "badge" := by
  have each : ∀ entry ∈ lobbyEnd.2.resolution.connectors.entries, ∀ attributes ∈ entry.2.attributes,
      ∀ item ∈ attributes.entries, item.1 ≠ "badge" ∧ item.2.id ≠ "badge" := by
    decide +kernel
  intro key id connector kept offers
  obtain ⟨record, attributes, attr, recorded, has, listed, keeps⟩ := offers.keeps
  rw [keeps.id]
  exact each (id, record) ((KeyMap.mem_entries_iff _ _ _).mpr recorded) attributes has (key, attr)
    ((KeyMap.mem_entries_iff _ _ _).mpr listed)

/-- The lobby has a record of the badge that it was asked for, marked as being there for others, and
releases it under no key, though the room and the greeting are released. -/
theorem dependency_only_withheld_lobby :
    lobbyEnd.1 = .ok () ∧
      (∃ record, lobbyEnd.2.resolution.definitions.get? "badge" = some record ∧
        record.dependencyOnly = true) ∧
      (∀ key attr, lobbyEnd.2.resolution.released.get? key = some attr →
        key ≠ "badge" ∧ attr.id ≠ "badge") ∧
      (lobbyEnd.2.resolution.released.get? "greeting").isSome = true ∧
      (lobbyEnd.2.resolution.released.get? "room").isSome = true := by
  have ended : lobbyEnd.1 = .ok () := by decide +kernel
  obtain ⟨recorded, withheld⟩ := dependency_only_withheld lobby (fun world => (0, world)) {}
    lobbyUses () (.new ["doors"]) (Step.eq_of_ok ended)
  refine ⟨ended, ?_, (withheld "badge" lobbyEnd_keepsBack).2 lobbyEnd_unexported, by decide +kernel,
    by decide +kernel⟩
  have asked : IsRequested lobby ["badge", "greeting"] (.definition "badge") :=
    .intro rfl (.inr List.mem_cons_self)
  exact (recorded "badge" _ rfl).mpr (.inr (.asked (.requested asked)))

end AttributeRelease.Resolver
