import AttributeRelease.Resolver.Config.Basic

/-!
# What a resolver is built from

The plugins of a resolver that was built are exactly those of its blueprint, each under its own id,
and if the resolver was configured, they are what the entries of the configuration were prepared to.
-/

namespace AttributeRelease.Resolver

variable {σ : Type}

/-- A map has what it had before items were put there, and the items under their ids. -/
theorem Keyed.get?_addAll?_iff {α : Type} {idOf : α → String} {map result : Keyed idOf}
    {items : List α} (built : map.addAll? items = .ok result) {key : String} {item : α} :
    result.1.get? key = some item ↔
      map.1.get? key = some item ∨ item ∈ items ∧ idOf item = key := by
  induction items generalizing map with
  | nil =>
      cases built
      simp
  | cons first rest ih =>
      rw [addAll?] at built
      split at built
      · cases built
      · rename_i unused
        rw [ih built, add, KeyMap.get?_insert]
        by_cases same : idOf first = key
        · subst same
          have none : map.1.get? (idOf first) = none := by
            simpa [KeyMap.contains] using unused
          grind
        · grind

/-- A map of items has each of them under its id. -/
theorem Keyed.get?_ofList?_iff {α : Type} {idOf : α → String} {result : Keyed idOf} {items : List α}
    (built : ofList? idOf items = .ok result) {key : String} {item : α} :
    result.1.get? key = some item ↔ item ∈ items ∧ idOf item = key := by
  rw [get?_addAll?_iff built]
  exact or_iff_right fun earlier => nomatch earlier

/-- The plugins of a built resolver are those of its blueprint. -/
theorem Blueprint.get?_build_iff {blueprint : Blueprint σ} {resolver : Resolver σ}
    (built : blueprint.build = .ok resolver) :
    (∀ id definition, resolver.definitions.get? id = some definition ↔
        definition ∈ blueprint.definitions ∧ definition.settings.id = id) ∧
      ∀ id connector, resolver.connectors.get? id = some connector ↔
        connector ∈ blueprint.connectors ∧ connector.settings.id = id := by
  obtain ⟨definitions, defined, built⟩ := exists_of_bind_eq_ok built
  obtain ⟨connectors, connected, built⟩ := exists_of_bind_eq_ok built
  split at built
  · cases built
    exact ⟨fun _ _ => Keyed.get?_ofList?_iff defined, fun _ _ => Keyed.get?_ofList?_iff connected⟩
  · cases built

/-! ## Configurations -/

/-- Where entries are prepared one after the other, each item was prepared from one of them and each
of them was prepared. -/
theorem prepared_of_buildAll {α β ε : Type} (build : α → Except ε β)
    (buildAll : List α → Except ε (List β)) (none : buildAll [] = .ok [])
    (more : ∀ config rest, buildAll (config :: rest) =
      build config >>= fun first => buildAll rest >>= fun others => .ok (first :: others))
    {configs : List α} {items : List β} (built : buildAll configs = .ok items) :
    (∀ item ∈ items, ∃ config ∈ configs, build config = .ok item) ∧
      ∀ config ∈ configs, ∃ item ∈ items, build config = .ok item := by
  induction configs generalizing items with
  | nil =>
      rw [none] at built
      cases built
      exact ⟨List.forall_mem_nil _, List.forall_mem_nil _⟩
  | cons config rest ih =>
      rw [more] at built
      obtain ⟨first, head, built⟩ := exists_of_bind_eq_ok built
      obtain ⟨others, tail, built⟩ := exists_of_bind_eq_ok built
      cases built
      obtain ⟨sources, results⟩ := ih tail
      constructor
      · refine List.forall_mem_cons.mpr ⟨⟨config, List.mem_cons_self, head⟩, ?_⟩
        intro item listed
        obtain ⟨other, member, made⟩ := sources item listed
        exact ⟨other, List.mem_cons_of_mem _ member, made⟩
      · refine List.forall_mem_cons.mpr ⟨⟨first, List.mem_cons_self, head⟩, ?_⟩
        intro other listed
        obtain ⟨item, member, made⟩ := results other listed
        exact ⟨item, List.mem_cons_of_mem _ member, made⟩

/-- The blueprint of a configured resolver has what the entries were prepared to. -/
theorem ResolverConfig.exists_blueprint {config : ResolverConfig} {resolver : Resolver σ}
    (built : config.build = .ok resolver) :
    ∃ blueprint : Blueprint σ, blueprint.build = .ok resolver ∧
      buildDefinitions config.definitions = .ok blueprint.definitions ∧
      buildConnectors config.connectors = .ok blueprint.connectors := by
  obtain ⟨blueprint, planned, built⟩ := exists_of_bind_eq_ok built
  obtain ⟨definitions, defined, planned⟩ := exists_of_bind_eq_ok planned
  obtain ⟨connectors, connected, planned⟩ := exists_of_bind_eq_ok planned
  cases planned
  exact ⟨_, built, defined, connected⟩

/-- The plugins of a configured resolver were prepared from entries of the configuration. -/
theorem ResolverConfig.exists_of_build {config : ResolverConfig} {resolver : Resolver σ}
    (built : config.build = .ok resolver) :
    (∀ id definition, resolver.definitions.get? id = some definition →
        ∃ entry ∈ config.definitions, entry.build = .ok definition) ∧
      ∀ id connector, resolver.connectors.get? id = some connector →
        ∃ entry ∈ config.connectors, entry.build = .ok connector := by
  obtain ⟨blueprint, built, defined, connected⟩ := exists_blueprint built
  obtain ⟨definitions, connectors⟩ := Blueprint.get?_build_iff built
  constructor
  · intro id definition found
    exact (prepared_of_buildAll DefinitionConfig.build buildDefinitions rfl (fun _ _ => rfl)
      defined).1 definition ((definitions id definition).mp found).1
  · intro id connector found
    exact (prepared_of_buildAll ConnectorConfig.build buildConnectors rfl (fun _ _ => rfl)
      connected).1 connector ((connectors id connector).mp found).1

/-- Each connector that is configured was prepared and is in the resolver under its id. -/
theorem ResolverConfig.exists_connector_of_build {config : ResolverConfig} {resolver : Resolver σ}
    (built : config.build = .ok resolver) {entry : ConnectorConfig}
    (listed : entry ∈ config.connectors) :
    ∃ connector, entry.build = .ok connector ∧
      resolver.connectors.get? connector.settings.id = some connector := by
  obtain ⟨blueprint, built, -, connected⟩ := exists_blueprint built
  obtain ⟨connector, planned, prepared⟩ := (prepared_of_buildAll ConnectorConfig.build
    buildConnectors rfl (fun _ _ => rfl) connected).2 entry listed
  refine ⟨connector, prepared, ?_⟩
  exact ((Blueprint.get?_build_iff built).2 _ connector).mpr ⟨planned, rfl⟩

end AttributeRelease.Resolver
