import AttributeRelease.Proofs.Graph.Blueprints
import Mathlib.Data.List.Basic

/-!
# What connectors with configured attributes return

The attributes of a connector are configured as a list of entries, each with an id and texts, and
become a map. So of several entries for one id only the last one counts (`IsLastFor`): under each id
the connector returns what the last entry says, whatever is asked of it. All else that is configured
for that id is lost without a word, unless the last entry says it again
(`configured_attributes_returned`).
-/

namespace AttributeRelease.Resolver

variable {σ : Type} {entries after : List (String × List String)} {id : String}
  {texts : List String}

/-- The texts are those of the last entry for an id. -/
def IsLastFor (id : String) (texts : List String) (entries : List (String × List String)) : Prop :=
  ∃ before after, entries = before ++ (id, texts) :: after ∧ ∀ later ∈ after, later.1 ≠ id

theorem get?_ofList_iff_isLastFor :
    (KeyMap.ofList entries).get? id = some texts ↔ IsLastFor id texts entries :=
  KeyMap.get?_ofList_eq_some_iff

/-- There is only one last entry. -/
theorem IsLastFor.unique {others : List String} (last : IsLastFor id texts entries)
    (other : IsLastFor id others entries) : others = texts := by
  rw [← get?_ofList_iff_isLastFor] at last other
  exact Option.some.inj (other.symm.trans last)

/-- The last of the later entries is the last of all. -/
theorem IsLastFor.append (last : IsLastFor id texts after)
    (before : List (String × List String)) : IsLastFor id texts (before ++ after) := by
  obtain ⟨between, others, rfl, none⟩ := last
  exact ⟨before ++ between, others, (List.append_assoc _ _ _).symm, none⟩

/-- Among entries either none is for an id or one of them is the last. -/
theorem absent_or_exists_isLastFor (id : String) (entries : List (String × List String)) :
    (∀ entry ∈ entries, entry.1 ≠ id) ∨ ∃ texts, IsLastFor id texts entries := by
  induction entries with
  | nil => exact .inl (List.forall_mem_nil _)
  | cons entry rest ih =>
    rcases ih with absent | ⟨texts, last⟩
    · by_cases same : entry.1 = id
      · exact .inr ⟨entry.2, [], rest, by rw [← same]; rfl, absent⟩
      · exact .inl (List.forall_mem_cons.mpr ⟨same, absent⟩)
    · exact .inr ⟨texts, last.append [entry]⟩

/-- Where no id stands twice, each entry is the last for its id. -/
theorem isLastFor_of_nodup (distinct : (entries.map Prod.fst).Nodup)
    {entry : String × List String} (listed : entry ∈ entries) :
    IsLastFor entry.1 entry.2 entries := by
  obtain ⟨before, after, rfl⟩ := List.append_of_mem listed
  rw [List.map_append, List.map_cons] at distinct
  have once := (List.nodup_cons.mp (List.nodup_append.mp distinct).2.1).1
  exact ⟨before, after, rfl, fun later member same => once (same ▸ List.mem_map_of_mem member)⟩

/-- What is returned for configured entries. -/
structure ReturnsLast (entries : List (String × List String)) (returned : AttributeMap) :
    Prop where
  /-- Under an id is the attribute of the last entry for it, and nothing else is there. -/
  get?_eq_some_iff : ∀ id attr, returned.get? id = some attr ↔
    ∃ texts, IsLastFor id texts entries ∧ fixedAttribute id texts = attr
  /-- What an entry says is returned under its id just when the last of the later entries for that
  id says it again, if there is any. -/
  keeps_iff : ∀ before id texts after, entries = before ++ (id, texts) :: after →
    ((∃ attr, returned.get? id = some attr ∧ ∀ text ∈ texts, Value.ofText text ∈ attr.values) ↔
      ∀ last, IsLastFor id last after → texts ⊆ last)
  /-- Entries with different ids are returned as they are. -/
  whole : (entries.map Prod.fst).Nodup →
    ∀ entry ∈ entries, returned.get? entry.1 = some (fixedAttribute entry.1 entry.2)

theorem forall_ofText_mem_iff {last : List String} :
    (∀ text ∈ texts, Value.ofText text ∈ (fixedAttribute id last).values) ↔ texts ⊆ last := by
  refine forall₂_congr fun text _ => ?_
  exact List.mem_map_of_injective Value.ofText_injective

theorem returnsLast_ofList (entries : List (String × List String)) :
    ReturnsLast entries ((KeyMap.ofList entries).mapValues fixedAttribute) := by
  have found (id : String) (attr : Attribute) :
      ((KeyMap.ofList entries).mapValues fixedAttribute).get? id = some attr ↔
        ∃ texts, IsLastFor id texts entries ∧ fixedAttribute id texts = attr := by
    simp only [KeyMap.get?_mapValues, Option.map_eq_some_iff, get?_ofList_iff_isLastFor]
  refine ⟨found, ?_, ?_⟩
  · rintro before id texts after rfl
    -- Either the entry itself is the last for its id, or the last is among the later ones.
    rcases absent_or_exists_isLastFor id after with absent | ⟨last, isLast⟩
    · have own := (found id _).mpr ⟨texts, ⟨before, after, rfl, absent⟩, rfl⟩
      refine iff_of_true ⟨_, own, forall_ofText_mem_iff.mpr (List.Subset.refl texts)⟩ ?_
      rintro last ⟨between, others, rfl, -⟩
      exact absurd rfl (absent _ (List.mem_append_right between List.mem_cons_self))
    · have own := (found id _).mpr ⟨last, (isLast.append [(id, texts)]).append before, rfl⟩
      constructor
      · rintro ⟨attr, returned, kept⟩ other isOther
        cases returned.symm.trans own
        cases isLast.unique isOther
        exact forall_ofText_mem_iff.mp kept
      · exact fun each => ⟨_, own, forall_ofText_mem_iff.mpr (each last isLast)⟩
  · intro distinct entry listed
    exact (found _ _).mpr ⟨entry.2, isLastFor_of_nodup distinct listed, rfl⟩

/-- Let a resolver be configured, and a connector of it with attributes. The connector is in the
resolver with the settings that are configured, and whatever the state of a request and of the world
around it, it returns the same attributes: under each id that of the last entry for the id. An entry
behind which another one for its id stands is returned only as far as the last of these repeats
it. -/
theorem configured_attributes_returned {config : ResolverConfig} {resolver : Resolver σ}
    (built : config.build = .ok resolver) {entry : ConnectorConfig}
    (listed : entry ∈ config.connectors) {attributes : List (String × List String)}
    (fixed : entry.kind = .fixed attributes) :
    ∃ connector returned, resolver.connectors.get? entry.id = some connector ∧
      connector.settings = entry.settings ∧
      (∀ resolution world, connector.fetch resolution world = (.ok (some returned), world)) ∧
      ReturnsLast attributes returned := by
  obtain ⟨connector, prepared, found⟩ := config.exists_connector_of_build built listed
  obtain ⟨-, rfl⟩ := (ConnectorConfig.build_eq_ok_iff_of_fixed fixed).mp prepared
  exact ⟨_, _, found, rfl, fun _ _ => rfl, returnsLast_ofList attributes⟩

/-- A connector with the people of a campus, whose roles are configured twice. -/
def people (roles : List String) : ConnectorConfig where
  id := "people"
  kind := .fixed [("role", ["staff"]), ("mail", ["ada@campus"]), ("role", roles)]
  exportAll := true

/-- A resolver for a campus. -/
def campusConfig (roles : List String) : ResolverConfig where
  connectors := [people roles]

/-- The second entry for roles repeats what the first one says, so nothing is lost. -/
theorem configured_attributes_returned_people :
    ∃ (resolver : Resolver Unit) (connector : Connector Unit) (returned : AttributeMap),
      (campusConfig ["teacher", "staff"]).build = .ok resolver ∧
        resolver.connectors.get? "people" = some connector ∧
        (∀ resolution world, connector.fetch resolution world = (.ok (some returned), world)) ∧
        returned.get? "mail" = some (fixedAttribute "mail" ["ada@campus"]) ∧
        ∃ attr, returned.get? "role" = some attr ∧
          ∀ text ∈ ["staff"], Value.ofText text ∈ attr.values := by
  have built : ((campusConfig ["teacher", "staff"]).build : Except ConfigError (Resolver Unit)) =
      .ok _ := rfl
  obtain ⟨connector, returned, found, -, fetched, returns⟩ :=
    configured_attributes_returned built List.mem_cons_self rfl
  refine ⟨_, connector, returned, built, found, fetched, ?_, ?_⟩
  · exact (returns.get?_eq_some_iff "mail" _).mpr
      ⟨_, ⟨[("role", ["staff"])], [("role", ["teacher", "staff"])], rfl, by decide⟩, rfl⟩
  · refine (returns.keeps_iff [] "role" ["staff"] _ rfl).mpr fun last isLast => ?_
    have again : IsLastFor "role" ["teacher", "staff"]
        [("mail", ["ada@campus"]), ("role", ["teacher", "staff"])] :=
      ⟨[("mail", ["ada@campus"])], [], rfl, List.forall_mem_nil _⟩
    cases again.unique isLast
    decide

/-- A role that the second entry for roles does not repeat is not returned. -/
theorem earlier_entry_lost :
    ∃ (resolver : Resolver Unit) (connector : Connector Unit)
      (attributes : List (String × List String)),
      (campusConfig ["teacher"]).build = .ok resolver ∧
        (people ["teacher"]).kind = .fixed attributes ∧ ("role", ["staff"]) ∈ attributes ∧
        resolver.connectors.get? "people" = some connector ∧
        ∀ resolution world, ∃ returned,
          connector.fetch resolution world = (.ok (some returned), world) ∧
            returned.get? "role" = some { id := "role", values := [.text "teacher"] } ∧
            Value.ofText "staff" ∉ [Value.text "teacher"] :=
  ⟨_, _, _, rfl, rfl, List.mem_cons_self, rfl, fun _ _ => ⟨_, rfl, rfl, by decide⟩⟩

end AttributeRelease.Resolver
