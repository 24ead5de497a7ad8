import AttributeRelease.Proofs.Release.DistinctValues
import AttributeRelease.Proofs.Walk.Records
import AttributeRelease.Resolver.Definitions

/-!
# Which attribute is released under a key

Several plugins may have an attribute for one key. Definitions come before connectors; of several
definitions the last counts, and of several connectors the first, in the order of their ids. Which
attribute `Prevails` can be told from the final state of a request, and it is the one released
(`released_iff_prevails`).
-/

namespace AttributeRelease.Resolver

variable {σ : Type} {resolver : Resolver σ} {clock : σ → Instant × σ} {start : Progress σ}

/-! ## Candidates -/

/-- The texts that are displayed with an attribute of a recorded definition: those configured for the
definition, if there are any, and otherwise its own. Where display information is suppressed, its
own are left alone. -/
def definedTexts (resolver : Resolver σ) (configured : DefinitionSettings → KeyMap String)
    (record : DefinitionRecord) (own : KeyMap String) : KeyMap String :=
  if resolver.suppressDisplay = true then own
  else
    match resolver.definitions.get? record.definitionId with
    | none => own
    | some definition =>
      if (configured definition.settings).entries = [] then own else configured definition.settings

/-- An attribute of a recorded definition as it is displayed, with names and descriptions each as
configured for the definition. -/
def displayDefined (resolver : Resolver σ) (record : DefinitionRecord) (attr : Attribute) :
    Attribute where
  id := attr.id
  values := attr.values
  displayNames := resolver.definedTexts DefinitionSettings.displayNames record attr.displayNames
  displayDescriptions :=
    resolver.definedTexts DefinitionSettings.displayDescriptions record attr.displayDescriptions

/-- The texts that are displayed with an attribute that a connector exports under a key: those that
it has for the key, even if these are none, and otherwise the attribute's own. Where display
information is suppressed, its own are left alone. -/
def exportedTexts (resolver : Resolver σ) (configured : KeyMap (KeyMap String)) (key : String)
    (own : KeyMap String) : KeyMap String :=
  if resolver.suppressDisplay = true then own
  else
    match configured.get? key with
    | none => own
    | some texts => texts

/-- An attribute that a connector exports under a key as it is displayed, with names and descriptions
each as the connector has them for the key. -/
def displayExported (resolver : Resolver σ) (settings : ConnectorSettings) (key : String)
    (attr : Attribute) : Attribute where
  id := attr.id
  values := attr.values
  displayNames := resolver.exportedTexts settings.displayNames key attr.displayNames
  displayDescriptions :=
    resolver.exportedTexts settings.displayDescriptions key attr.displayDescriptions

/-- A recorded definition has an attribute with an id, of which some values are kept. -/
structure Supplies (resolver : Resolver σ) (resolution : Resolution) (key id : String)
    (record : DefinitionRecord) (kept : Attribute) : Prop where
  recorded : resolution.definitions.get? id = some record
  keeps : ∃ attr, record.attr = some attr ∧ attr.id = key ∧
    KeptAs resolver.stripNulls attr kept

/-- A recorded definition that is not only there for other plugins has an attribute with an id, of
which some values are kept. -/
structure Contributes (resolver : Resolver σ) (resolution : Resolution) (key id : String)
    (record : DefinitionRecord) (kept : Attribute) : Prop where
  recorded : resolution.definitions.get? id = some record
  wanted : record.dependencyOnly = false
  keeps : ∃ attr, record.attr = some attr ∧ attr.id = key ∧
    KeptAs resolver.stripNulls attr kept

/-- A connector whose policy exports a key has an attribute there, of which some values are kept. It
may have its attributes from a failover. -/
structure Offers (resolver : Resolver σ) (resolution : Resolution) (key id : String)
    (connector : Connector σ) (kept : Attribute) : Prop where
  found : resolver.connectors.get? id = some connector
  exported : connector.settings.exported.Permits key
  keeps : ∃ record attributes attr, resolution.connectors.get? id = some record ∧
    record.attributes = some attributes ∧ attributes.get? key = some attr ∧
      KeptAs resolver.stripNulls attr kept

/-- The attribute that is to be released under a key. -/
inductive Prevails (resolver : Resolver σ) (resolution : Resolution) (key : String) :
    Option Attribute → Prop
  | contributed {id : String} {record : DefinitionRecord} {kept : Attribute}
      (contributes : Contributes resolver resolution key id record kept)
      (last : ∀ later other attr, id < later →
        ¬ Contributes resolver resolution key later other attr) :
      Prevails resolver resolution key (some (resolver.displayDefined record kept))
  | offered {id : String} {connector : Connector σ} {kept : Attribute}
      (undefined : ∀ id record attr, ¬ Contributes resolver resolution key id record attr)
      (offers : Offers resolver resolution key id connector kept)
      (first : ∀ earlier other attr, earlier < id →
        ¬ Offers resolver resolution key earlier other attr) :
      Prevails resolver resolution key (some (resolver.displayExported connector.settings key kept))
  | absent
      (undefined : ∀ id record attr, ¬ Contributes resolver resolution key id record attr)
      (unoffered : ∀ id connector attr, ¬ Offers resolver resolution key id connector attr) :
      Prevails resolver resolution key none

/-! ## Searches in order -/

section Search

variable {α β γ : Type} {before : String → String → Prop} {list : List (String × α)}
  {find : String × α → Option β} {Has : String → α → γ → Prop} {shown : α → γ → β}

/-- A search through a list in some order finds what the first item has that has something. -/
theorem search_eq_some_iff (asymm : ∀ first second, before first second → ¬ before second first)
    (ordered : list.Pairwise fun first second => before first.1 second.1)
    (listed : ∀ id item kept, Has id item kept → (id, item) ∈ list)
    (finds : ∀ id item, (id, item) ∈ list → ∀ found,
      find (id, item) = some found ↔ ∃ kept, Has id item kept ∧ shown item kept = found)
    (found : β) :
    list.findSome? find = some found ↔
      ∃ id item kept, Has id item kept ∧
        (∀ other entry rest, before other id → ¬ Has other entry rest) ∧
          shown item kept = found := by
  rw [List.findSome?_eq_some_iff]
  constructor
  · rintro ⟨left, ⟨id, item⟩, right, rfl, here, nothing⟩
    obtain ⟨-, tail, -⟩ := List.pairwise_append.mp ordered
    have after := (List.pairwise_cons.mp tail).1
    obtain ⟨kept, has, same⟩ := (finds id item (by simp) found).mp here
    refine ⟨id, item, kept, has, fun other entry rest less hasOther => ?_, same⟩
    have member := listed other entry rest hasOther
    rcases List.mem_append.mp member with earlier | later
    · have finding := (finds other entry member _).mpr ⟨rest, hasOther, rfl⟩
      cases (nothing _ earlier).symm.trans finding
    · -- what stands at the place found or behind it does not come before it
      rcases List.mem_cons.mp later with same | later
      · cases same
        exact asymm _ _ less less
      · exact asymm _ _ less (after _ later)
  · rintro ⟨id, item, kept, has, first, same⟩
    obtain ⟨left, right, rfl⟩ := List.append_of_mem (listed id item kept has)
    obtain ⟨-, -, across⟩ := List.pairwise_append.mp ordered
    have here := (finds id item (by simp) found).mpr ⟨kept, has, same⟩
    refine ⟨left, (id, item), right, rfl, here, fun ⟨other, entry⟩ earlier => ?_⟩
    rw [Option.eq_none_iff_forall_ne_some]
    intro another foundEarlier
    obtain ⟨rest, hasOther, -⟩ := (finds other entry (by simp [earlier]) another).mp foundEarlier
    exact first other entry rest (across _ earlier _ List.mem_cons_self) hasOther

/-- A search finds nothing exactly if nothing in the list has what is searched for. -/
theorem search_eq_none_iff (listed : ∀ id item kept, Has id item kept → (id, item) ∈ list)
    (finds : ∀ id item, (id, item) ∈ list → ∀ found,
      find (id, item) = some found ↔ ∃ kept, Has id item kept ∧ shown item kept = found) :
    list.findSome? find = none ↔ ∀ id item kept, ¬ Has id item kept := by
  rw [List.findSome?_eq_none_iff]
  constructor
  · intro nothing id item kept has
    have member := listed id item kept has
    have finding := (finds id item member _).mpr ⟨kept, has, rfl⟩
    cases (nothing _ member).symm.trans finding
  · rintro nobody ⟨id, item⟩ member
    rw [Option.eq_none_iff_forall_ne_some]
    intro found here
    obtain ⟨kept, has, -⟩ := (finds id item member found).mp here
    exact nobody id item kept has

end Search

/-! ## Attributes of definitions -/

theorem displayDefined_id (record : DefinitionRecord) (attr : Attribute) :
    (resolver.displayDefined record attr).id = attr.id := rfl

theorem displayExported_id (settings : ConnectorSettings) (key : String) (attr : Attribute) :
    (resolver.displayExported settings key attr).id = attr.id := rfl

/-- Configured texts replace the attribute's own unless there are none. -/
theorem unlessEmpty_getD (texts own : KeyMap String) :
    (unlessEmpty texts).getD own = if texts.entries = [] then own else texts := by
  unfold unlessEmpty KeyMap.isEmpty
  cases texts.entries <;> rfl

/-- Texts that take the place of an attribute's own are those that are displayed with it. -/
theorem withDisplay_of_defined {record : DefinitionRecord} {definition : Definition σ}
    (found : resolver.definitions.get? record.definitionId = some definition)
    (shows : resolver.suppressDisplay = false) (attr : Attribute) :
    withDisplay attr (unlessEmpty definition.settings.displayNames)
        (unlessEmpty definition.settings.displayDescriptions) =
      resolver.displayDefined record attr := by
  simp [withDisplay, displayDefined, definedTexts, unlessEmpty_getD, found, shows]

/-- Without texts to take the place of its own an attribute is displayed with these. -/
theorem displayDefined_of_missing {record : DefinitionRecord}
    (missing : resolver.suppressDisplay = true ∨
      resolver.definitions.get? record.definitionId = none) (attr : Attribute) :
    resolver.displayDefined record attr = attr := by
  rcases missing with suppressed | missing
  · simp [displayDefined, definedTexts, suppressed]
  · simp [displayDefined, definedTexts, missing]

/-- What a definition contributes is what is kept of its attribute, with the texts configured for
it. -/
theorem contributed?_eq (includeDependencyOnly : Bool) (record : DefinitionRecord) :
    contributed? resolver includeDependencyOnly record =
      if record.dependencyOnly && !includeDependencyOnly then none
      else (record.attr.bind (releasable? resolver.stripNulls)).map
        (resolver.displayDefined record) := by
  unfold contributed?
  cases record.attr with
  | none => simp
  | some attr =>
      by_cases skipped : (record.dependencyOnly && !includeDependencyOnly) = true
      · simp [skipped]
      · cases keeps : releasable? resolver.stripNulls attr with
        | none => simp [skipped, keeps]
        | some kept =>
            cases suppressed : resolver.suppressDisplay with
            | true => simp [skipped, keeps, displayDefined_of_missing (.inl suppressed)]
            | false =>
                cases found : resolver.definitions.get? record.definitionId with
                | none => simp [skipped, keeps, displayDefined_of_missing (.inr found)]
                | some definition =>
                    simp [skipped, keeps, withDisplay_of_defined found suppressed]

/-- The attribute of a recorded definition counts for a key if the definition supplies it and is
among those that count. -/
theorem counts_iff {resolution : Resolution} {key id : String} {record : DefinitionRecord}
    (recorded : resolution.definitions.get? id = some record) (includeDependencyOnly : Bool)
    (attr : Attribute) :
    (contributed? resolver includeDependencyOnly record).filter (fun attr => attr.id = key) =
        some attr ↔
      (record.dependencyOnly && !includeDependencyOnly) = false ∧
        ∃ kept, Supplies resolver resolution key id record kept ∧
          resolver.displayDefined record kept = attr := by
  rw [Option.filter_eq_some_iff, contributed?_eq, Option.ite_none_left_eq_some,
    Option.map_eq_some_iff, Bool.not_eq_true]
  constructor
  · rintro ⟨⟨counts, kept, found, shown⟩, named⟩
    obtain ⟨own, has, keeps⟩ := Option.bind_eq_some_iff.mp found
    have keeps := releasable?_eq_some_iff.mp keeps
    have same : own.id = key := by
      rw [← keeps.id, ← of_decide_eq_true named, ← shown, displayDefined_id]
    exact ⟨counts, kept, ⟨recorded, own, has, same, keeps⟩, shown⟩
  · rintro ⟨counts, kept, ⟨-, own, has, same, keeps⟩, shown⟩
    have found := Option.bind_eq_some_iff.mpr ⟨own, has, releasable?_eq_some_iff.mpr keeps⟩
    refine ⟨⟨counts, kept, found, shown⟩, decide_eq_true ?_⟩
    rw [← shown, displayDefined_id, keeps.id, same]

/-- For what is released it counts if the definition contributes it. -/
theorem contributes_iff {resolution : Resolution} {key id : String} {record : DefinitionRecord}
    (recorded : resolution.definitions.get? id = some record) (attr : Attribute) :
    (contributed? resolver false record).filter (fun attr => attr.id = key) = some attr ↔
      ∃ kept, Contributes resolver resolution key id record kept ∧
        resolver.displayDefined record kept = attr := by
  rw [counts_iff recorded, Bool.not_false, Bool.and_true]
  constructor
  · rintro ⟨wanted, kept, supplies, shown⟩
    exact ⟨kept, ⟨recorded, wanted, supplies.keeps⟩, shown⟩
  · rintro ⟨kept, contributes, shown⟩
    exact ⟨contributes.wanted, kept, ⟨recorded, contributes.keeps⟩, shown⟩

/-- Of the attributes of definitions the last one with an id counts. -/
theorem get?_definedAttributes (resolver : Resolver σ) (includeDependencyOnly : Bool)
    (resolution : Resolution) (key : String) :
    (definedAttributes resolver includeDependencyOnly resolution).get? key =
      resolution.definitions.entries.reverse.findSome? fun entry =>
        (contributed? resolver includeDependencyOnly entry.2).filter fun attr => attr.id = key := by
  rw [definedAttributes, KeyMap.get?_ofList, KeyMap.values, ← List.map_reverse,
    ← List.filterMap_reverse, ← List.map_reverse, List.findSome?_map]
  induction resolution.definitions.entries.reverse with
  | nil => rfl
  | cons entry rest ih =>
      cases contributes : contributed? resolver includeDependencyOnly entry.2 with
      | none => simpa [contributes] using ih
      | some attr =>
          by_cases same : attr.id = key
          · simp [contributes, same, Option.filter]
          · simpa [contributes, same, Option.filter] using ih

theorem Contributes.listed {resolution : Resolution} {key id : String} {record : DefinitionRecord}
    {kept : Attribute} (contributes : Contributes resolver resolution key id record kept) :
    (id, record) ∈ resolution.definitions.entries.reverse :=
  List.mem_reverse.mpr ((KeyMap.mem_entries_iff _ _ _).mpr contributes.recorded)

/-- A record in the list supplies an attribute under a key exactly if it contributes there. -/
theorem contributes_iff_of_listed {resolution : Resolution} {key id : String}
    {record : DefinitionRecord}
    (listed : (id, record) ∈ resolution.definitions.entries.reverse) (attr : Attribute) :
    (contributed? resolver false record).filter (fun attr => attr.id = key) = some attr ↔
      ∃ kept, Contributes resolver resolution key id record kept ∧
        resolver.displayDefined record kept = attr :=
  contributes_iff ((KeyMap.mem_entries_iff _ _ _).mp (List.mem_reverse.mp listed)) attr

/-- Of the definitions that contribute an attribute the last one, by id, counts. -/
theorem definedAttributes_eq_some_iff {resolution : Resolution} {key : String} {attr : Attribute} :
    (definedAttributes resolver false resolution).get? key = some attr ↔
      ∃ id record kept, Contributes resolver resolution key id record kept ∧
        (∀ later other attr, id < later →
          ¬ Contributes resolver resolution key later other attr) ∧
        resolver.displayDefined record kept = attr := by
  have ordered := List.pairwise_reverse.mpr resolution.definitions.sorted
  rw [get?_definedAttributes]
  exact search_eq_some_iff (fun _ _ => String.lt_asymm) ordered (fun _ _ _ => Contributes.listed)
    (fun _ _ => contributes_iff_of_listed) attr

theorem definedAttributes_eq_none_iff {resolution : Resolution} {key : String} :
    (definedAttributes resolver false resolution).get? key = none ↔
      ∀ id record kept, ¬ Contributes resolver resolution key id record kept := by
  rw [get?_definedAttributes]
  exact search_eq_none_iff (fun _ _ _ => Contributes.listed) fun _ _ => contributes_iff_of_listed

/-! ## Exported attributes -/

/-- What a connector adds under a key where nothing is yet. -/
def offered? (resolver : Resolver σ) (resolution : Resolution) (key : String)
    (connector : Connector σ) : Option Attribute :=
  (resolution.fetchedAttributes? connector.settings.id).bind fun attributes =>
    (attributes.get? key).bind (exported? resolver connector.settings key)

/-- For exported attributes too names and descriptions are chosen by themselves, each from what is
configured under the key. -/
theorem withDisplay_of_exported (shows : resolver.suppressDisplay = false)
    (settings : ConnectorSettings) (key : String) (attr : Attribute) :
    withDisplay attr (settings.displayNames.get? key) (settings.displayDescriptions.get? key) =
      resolver.displayExported settings key attr := by
  have texts : ∀ (configured : KeyMap (KeyMap String)) (own : KeyMap String),
      (configured.get? key).getD own = resolver.exportedTexts configured key own := by
    intro configured own
    rw [exportedTexts, if_neg (by simp [shows])]
    cases configured.get? key <;> rfl
  rw [withDisplay, displayExported, texts, texts]

/-- What a connector exports under a key is what is kept of its attribute there, with the texts that
it has for the key. -/
theorem exported?_eq (settings : ConnectorSettings) (key : String) (attr : Attribute) :
    exported? resolver settings key attr =
      if settings.exported.exports key then
        (releasable? resolver.stripNulls attr).map (resolver.displayExported settings key)
      else none := by
  unfold exported?
  cases exported : settings.exported.exports key with
  | false => simp
  | true =>
      cases keeps : releasable? resolver.stripNulls attr with
      | none => simp
      | some kept =>
          cases suppressed : resolver.suppressDisplay with
          | true => simp [displayExported, exportedTexts, suppressed]
          | false => simp [withDisplay_of_exported suppressed]

/-- What the code takes from a connector under a key is what the connector offers there. -/
theorem offers_iff {resolution : Resolution} {key id : String} {connector : Connector σ}
    (found : resolver.connectors.get? id = some connector) (attr : Attribute) :
    resolver.offered? resolution key connector = some attr ↔
      ∃ kept, Offers resolver resolution key id connector kept ∧
        resolver.displayExported connector.settings key kept = attr := by
  simp only [offered?, exported?_eq, Option.bind_eq_some_iff, Option.ite_none_right_eq_some,
    Option.map_eq_some_iff, Resolution.fetchedAttributes?, resolver.connectors_keyed id _ found,
    ExportPolicy.exports_iff, releasable?_eq_some_iff]
  constructor
  · rintro ⟨attributes, ⟨record, recorded, has⟩, own, listed, exported, kept, keeps, shown⟩
    exact ⟨kept, ⟨found, exported, record, attributes, own, recorded, has, listed, keeps⟩, shown⟩
  · rintro ⟨kept, ⟨-, exported, record, attributes, own, recorded, has, listed, keeps⟩, shown⟩
    exact ⟨attributes, ⟨record, recorded, has⟩, own, listed, exported, kept, keeps, shown⟩

/-- Where each step only fills in what is missing, the first one that has something counts. -/
theorem get?_foldl_eq_or {ι : Type} {step : AttributeMap → ι → AttributeMap} {key : String}
    {offer : ι → Option Attribute}
    (each : ∀ map item, (step map item).get? key = (map.get? key).or (offer item))
    (items : List ι) (map : AttributeMap) :
    (items.foldl step map).get? key = (map.get? key).or (items.findSome? offer) := by
  induction items generalizing map with
  | nil => simp
  | cons item rest ih =>
      rw [List.foldl_cons, ih, each, Option.or_assoc, List.findSome?_cons]
      cases offer item <;> rfl

/-- An exported attribute takes a place only if the place is still free. -/
theorem get?_addExported (resolver : Resolver σ) (settings : ConnectorSettings)
    (released : AttributeMap) (entry : String × Attribute) (key : String) :
    (addExported resolver settings released entry).get? key =
      (released.get? key).or
        (if entry.1 = key then exported? resolver settings key entry.2 else none) := by
  obtain ⟨name, attr⟩ := entry
  unfold addExported
  by_cases same : name = key
  · subst same
    cases taken : released.get? name with
    | some other => simp [KeyMap.contains, taken]
    | none =>
        cases exported : exported? resolver settings name attr <;>
          simp [KeyMap.contains, taken, KeyMap.get?_insert]
  · split
    · simp
    · cases exported? resolver settings name attr <;> simp [same, KeyMap.get?_insert]

/-- A connector adds what it offers under each key that nothing stands under. -/
theorem get?_addExports (resolver : Resolver σ) (resolution : Resolution) (key : String)
    (released : AttributeMap) (connector : Connector σ) :
    (addExports resolver resolution released connector).get? key =
      (released.get? key).or (resolver.offered? resolution key connector) := by
  unfold addExports offered?
  cases exporting : connector.settings.exported.isExporting with
  | false =>
      -- the shortcut loses nothing: a connector that does not export exports no key
      have nothing : exported? resolver connector.settings key = fun _ => none := by
        funext attr
        rw [exported?_eq, if_neg]
        intro exports
        have permits := ExportPolicy.exports_iff.mp exports
        cases (ExportPolicy.isExporting_iff.mpr ⟨key, permits⟩).symm.trans exporting
      simp [nothing]
  | true =>
      cases resolution.fetchedAttributes? connector.settings.id with
      | none => simp
      | some attributes =>
          have added := get?_foldl_eq_or
            (fun map entry => get?_addExported resolver connector.settings map entry key)
            attributes.entries released
          rw [KeyMap.findSome?_entries_key] at added
          simpa using added

/-- What is released under a key is that of a definition, else that of the first connector that has
something to offer. -/
theorem get?_releasedAttributes (resolver : Resolver σ) (resolution : Resolution) (key : String) :
    (releasedAttributes resolver resolution).get? key =
      ((definedAttributes resolver false resolution).get? key).or
        (resolver.connectors.entries.findSome? fun entry =>
          resolver.offered? resolution key entry.2) := by
  have added := get?_foldl_eq_or (fun map connector =>
    get?_addExports resolver resolution key map connector) resolver.connectors.values
    (definedAttributes resolver false resolution)
  rw [KeyMap.values, List.findSome?_map] at added
  exact added

/-- Of the connectors that offer an attribute the first one, by id, counts. -/
theorem firstOffer_eq_some_iff {resolution : Resolution} {key : String} {attr : Attribute} :
    (resolver.connectors.entries.findSome? fun entry =>
        resolver.offered? resolution key entry.2) = some attr ↔
      ∃ id connector kept, Offers resolver resolution key id connector kept ∧
        (∀ earlier other attr, earlier < id →
          ¬ Offers resolver resolution key earlier other attr) ∧
        resolver.displayExported connector.settings key kept = attr :=
  search_eq_some_iff (fun _ _ => String.lt_asymm) resolver.connectors.sorted
    (fun _ _ _ offers => (KeyMap.mem_entries_iff _ _ _).mpr offers.found)
    (fun _ _ listed => offers_iff ((KeyMap.mem_entries_iff _ _ _).mp listed)) attr

theorem firstOffer_eq_none_iff {resolution : Resolution} {key : String} :
    (resolver.connectors.entries.findSome? fun entry =>
        resolver.offered? resolution key entry.2) = none ↔
      ∀ id connector kept, ¬ Offers resolver resolution key id connector kept :=
  search_eq_none_iff (fun _ _ _ offers => (KeyMap.mem_entries_iff _ _ _).mpr offers.found)
    fun _ _ listed => offers_iff ((KeyMap.mem_entries_iff _ _ _).mp listed)

/-! ## What a request releases -/

/-- What is released under a key is what prevails there: a definition before connectors, or
nothing. -/
theorem releasedAttributes_iff_prevails (resolver : Resolver σ) (resolution : Resolution)
    (key : String) (answer : Option Attribute) :
    (releasedAttributes resolver resolution).get? key = answer ↔
      Prevails resolver resolution key answer := by
  rw [get?_releasedAttributes]
  constructor
  · rintro rfl
    cases defined : (definedAttributes resolver false resolution).get? key with
    | some attr =>
        obtain ⟨id, record, kept, contributes, last, rfl⟩ :=
          definedAttributes_eq_some_iff.mp defined
        exact .contributed contributes last
    | none =>
        have undefined := definedAttributes_eq_none_iff.mp defined
        rw [Option.none_or]
        cases offered : resolver.connectors.entries.findSome? fun entry =>
            resolver.offered? resolution key entry.2 with
        | some attr =>
            obtain ⟨id, connector, kept, offers, first, rfl⟩ := firstOffer_eq_some_iff.mp offered
            exact .offered undefined offers first
        | none => exact .absent undefined (firstOffer_eq_none_iff.mp offered)
  · intro prevails
    cases prevails with
    | contributed contributes last =>
        rw [definedAttributes_eq_some_iff.mpr ⟨_, _, _, contributes, last, rfl⟩, Option.some_or]
    | offered undefined offers first =>
        rw [definedAttributes_eq_none_iff.mpr undefined, Option.none_or]
        exact firstOffer_eq_some_iff.mpr ⟨_, _, _, offers, first, rfl⟩
    | absent undefined unoffered =>
        rw [definedAttributes_eq_none_iff.mpr undefined, Option.none_or]
        exact firstOffer_eq_none_iff.mpr unoffered

/-- Only the records matter to what is found among them. -/
theorem definedAttributes_congr {first second : Resolution} (same : first.SameRecords second)
    (includeDependencyOnly : Bool) :
    definedAttributes resolver includeDependencyOnly first =
      definedAttributes resolver includeDependencyOnly second := by
  unfold definedAttributes
  rw [same.definitions]

/-- What is released depends on nothing but the results of plugins. -/
theorem releasedAttributes_congr {first second : Resolution} (same : first.SameRecords second) :
    releasedAttributes resolver first = releasedAttributes resolver second := by
  have exports : addExports resolver first = addExports resolver second := by
    funext released connector
    unfold addExports Resolution.fetchedAttributes?
    rw [same.connectors]
  rw [releasedAttributes, releasedAttributes, definedAttributes_congr same, exports]

/-- A request that succeeds releases what its final state tells. -/
theorem resolve_released (succeeded : (resolve resolver clock start).1 = .ok ()) :
    (resolve resolver clock start).2.resolution.released =
      releasedAttributes resolver (resolve resolver clock start).2.resolution := by
  obtain ⟨kept, -, rest, succeeded⟩ := Step.andThen_ok succeeded
  obtain ⟨exported, -, last, succeeded⟩ := Step.andThen_ok succeeded
  obtain ⟨asked, -, set, -⟩ := Step.andThen_ok succeeded
  have ended : resolve resolver clock start = setReleased resolver asked :=
    rest.trans (last.trans set)
  rw [ended]
  rfl

/-- When a request has succeeded, there stands under each key of what it releases exactly the
attribute that prevails in its final state, and nothing where none does. -/
theorem released_iff_prevails (resolver : Resolver σ) (clock : σ → Instant × σ)
    (start : Progress σ) (succeeded : (resolve resolver clock start).1 = .ok ()) (key : String)
    (answer : Option Attribute) :
    (resolve resolver clock start).2.resolution.released.get? key = answer ↔
      Prevails resolver (resolve resolver clock start).2.resolution key answer := by
  rw [resolve_released succeeded]
  exact releasedAttributes_iff_prevails resolver _ key answer

/-- A definition that always has the same attribute. -/
def fixedDefinition (settings : DefinitionSettings) (attr : Attribute) : Definition Unit :=
  ⟨settings, .pure fun _ => .ok (some attr)⟩

def phone (number : String) : Attribute := ⟨"phone", [.ofText number, .ofText number], ∅, ∅⟩

def room (number : String) : Attribute := ⟨"room", [.ofText number], ∅, ∅⟩

/-- A phone number that has texts of its own. -/
def mobilePhone : Attribute :=
  ⟨"phone", [.ofText "22", .ofText "22"], .ofList [("de", "Telefon")],
    .ofList [("en", "Extension")]⟩

/-- Four definitions have a phone number. The last one in order has only an empty one, the one before
it is only there for others, and the next has a display name. A badge has a description instead. -/
def receptionDefinitions : Keyed fun definition : Definition Unit => definition.settings.id :=
  ((((Keyed.add .empty
    (fixedDefinition { id := "desk" } (phone "11"))).add
    (fixedDefinition { id := "mobile", displayNames := .ofList [("en", "Phone")] }
      mobilePhone)).add
    (fixedDefinition { id := "private", dependencyOnly := true } (phone "33"))).add
    (fixedDefinition { id := "silent" } ⟨"phone", [.empty .null], ∅, ∅⟩)).add
    (fixedDefinition { id := "badge", displayDescriptions := .ofList [("en", "Number")] }
      ⟨"badge", [.ofText "4711"], .ofList [("de", "Ausweis")], .ofList [("de", "Nummer")]⟩)

/-- A hall that has texts of its own. -/
def hall : Attribute :=
  ⟨"hall", [.ofText "H1"], .ofList [("de", "Halle")], .ofList [("de", "Erdgeschoss")]⟩

/-- Two connectors export a room, the first of them a phone number and a hall as well. It has display
names for the room, and an empty set of them for the hall. -/
def receptionConnectors : Keyed fun connector : Connector Unit => connector.settings.id :=
  (Keyed.add .empty
    (staticConnector
      { id := "building", exported := .all
        displayNames := .ofList [("hall", ∅), ("room", .ofList [("en", "Room")])] }
      (.ofList [("hall", hall), ("phone", phone "44"), ("room", room "B1")]))).add
    (staticConnector { id := "campus", exported := .named (.ofMembers ["room"]) }
      (.ofList [("room", room "C1")]))

/-- A resolver for people at a reception, where several plugins have the same attributes. -/
def reception : Resolver Unit where
  id := "reception"
  definitions := receptionDefinitions.1
  connectors := receptionConnectors.1
  stripNulls := true
  suppressDisplay := false
  definitions_keyed := receptionDefinitions.2
  connectors_keyed := receptionConnectors.2
  accepted := by decide +kernel

/-- The same plugins, with display information suppressed. -/
def plainReception : Resolver Unit := { reception with suppressDisplay := true }

/-- A new request at the reception. -/
def receptionStart : Progress Unit :=
  { world := (), failures := .new ["building", "campus"], resolution := {} }

/-- What the request comes to. -/
def receptionEnd : Except Halt Unit × Progress Unit :=
  resolve reception (fun world => (0, world)) receptionStart

/-- What it comes to with display information suppressed. -/
def plainReceptionEnd : Except Halt Unit × Progress Unit :=
  resolve plainReception (fun world => (0, world)) receptionStart

/-- At the reception the mobile phone, the badge, the room and the hall in the building and no fax
are released. Names that are configured replace those of the phone, the hall loses its own to an
empty set, and the badge keeps its own. With display information suppressed, all keep their own. -/
theorem released_iff_prevails_reception :
    receptionEnd.1 = .ok () ∧
      Prevails reception receptionEnd.2.resolution "phone"
        (some { mobilePhone with
          values := [.ofText "22"], displayNames := .ofList [("en", "Phone")] }) ∧
      Prevails reception receptionEnd.2.resolution "badge"
        (some ⟨"badge", [.ofText "4711"], .ofList [("de", "Ausweis")],
          .ofList [("en", "Number")]⟩) ∧
      Prevails reception receptionEnd.2.resolution "room"
        (some ⟨"room", [.ofText "B1"], .ofList [("en", "Room")], ∅⟩) ∧
      Prevails reception receptionEnd.2.resolution "hall" (some { hall with displayNames := ∅ }) ∧
      Prevails reception receptionEnd.2.resolution "fax" none ∧
      Prevails plainReception plainReceptionEnd.2.resolution "phone"
        (some { mobilePhone with values := [.ofText "22"] }) ∧
      Prevails plainReception plainReceptionEnd.2.resolution "hall" (some hall) := by
  unfold receptionEnd plainReceptionEnd
  have succeeded : (resolve reception (fun world => (0, world)) receptionStart).1 = .ok () := by
    decide +kernel
  have plain : (resolve plainReception (fun world => (0, world)) receptionStart).1 = .ok () := by
    decide +kernel
  have released := released_iff_prevails reception _ _ succeeded
  have releasedPlain := released_iff_prevails plainReception _ _ plain
  refine ⟨succeeded, (released "phone" _).mp ?_, (released "badge" _).mp ?_,
    (released "room" _).mp ?_, (released "hall" _).mp ?_, (released "fax" _).mp ?_,
    (releasedPlain "phone" _).mp ?_, (releasedPlain "hall" _).mp ?_⟩
  · decide +kernel
  · decide +kernel
  · decide +kernel
  · decide +kernel
  · decide +kernel
  · decide +kernel
  · decide +kernel

end AttributeRelease.Resolver
