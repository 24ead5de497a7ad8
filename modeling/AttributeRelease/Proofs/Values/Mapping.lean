import AttributeRelease.Resolver.Config.Basic
import AttributeRelease.Resolver.Definitions
import Mathlib.Data.List.Forall2

/-!
# What mapped definitions make of their sources

A mapped definition with a default value looks at the texts of its source values. A text is mapped
by all rules that apply to it, and one to which none applies is kept or gives way to the default
value (`MapsTo`). A value without a text contributes nothing. So there are values as long as
there is a source with a text, and the default value alone if there is no source at all; sources
that all lack a text leave the attribute without values (`mapped_values_from_sources`).
-/

namespace AttributeRelease.Resolver

variable {mappings : List Mapping} {default : String} {passThrough : Bool}

/-- No rule applies to a text. -/
def Unmapped (mappings : List Mapping) (text : String) : Prop :=
  ∀ mapping ∈ mappings, mapping.apply? text = none

/-- What a source value contributes to a mapped definition. -/
inductive MapsTo (mappings : List Mapping) (default : String) (passThrough : Bool) :
    Value → List Value → Prop
  | mapped {source : Value} {text : String} (shown : source.text? = some text)
      (applied : ∃ mapping ∈ mappings, mapping.apply? text ≠ none) :
      MapsTo mappings default passThrough source
        ((mappings.filterMap fun mapping => mapping.apply? text).map .ofText)
  | kept {source : Value} {text : String} (shown : source.text? = some text)
      (unmapped : Unmapped mappings text) (keeps : passThrough = true) :
      MapsTo mappings default passThrough source [.ofText text]
  | replaced {source : Value} {text : String} (shown : source.text? = some text)
      (unmapped : Unmapped mappings text) (drops : passThrough = false) :
      MapsTo mappings default passThrough source [.ofText default]
  | textless {source : Value} (hidden : source.text? = none) :
      MapsTo mappings default passThrough source []

/-- What source values together make of a mapped definition. -/
structure IsMapped (mappings : List Mapping) (default : String) (passThrough : Bool)
    (sources made : List Value) : Prop where
  of_nil : sources = [] → made = [.ofText default]
  of_ne_nil : sources ≠ [] → ∃ parts,
    List.Forall₂ (MapsTo mappings default passThrough) sources parts ∧ made = parts.flatten
  ne_nil_iff : made ≠ [] ↔ sources = [] ∨ ∃ source ∈ sources, source.text?.isSome = true

/-! ## One source value -/

theorem filterMap_apply?_eq_nil_iff {text : String} :
    (mappings.filterMap fun mapping => mapping.apply? text) = [] ↔ Unmapped mappings text :=
  List.filterMap_eq_nil_iff

theorem mapText_eq_of_unmapped {text : String} (unmapped : Unmapped mappings text) :
    mapText mappings (some default) passThrough text =
      [.ofText (if passThrough = true then text else default)] := by
  rw [mapText, filterMap_apply?_eq_nil_iff.mpr unmapped]
  cases passThrough <;> rfl

theorem mapText_eq_of_applied {text : String} (applied : ¬ Unmapped mappings text) :
    mapText mappings (some default) passThrough text =
      (mappings.filterMap fun mapping => mapping.apply? text).map .ofText := by
  rw [mapText]
  split
  next none => exact absurd (filterMap_apply?_eq_nil_iff.mp none) applied
  next => rfl

/-- A text is never mapped to nothing. -/
theorem mapText_ne_nil (text : String) : mapText mappings (some default) passThrough text ≠ [] := by
  by_cases unmapped : Unmapped mappings text
  · rw [mapText_eq_of_unmapped unmapped]
    exact List.cons_ne_nil _ _
  · rw [mapText_eq_of_applied unmapped]
    exact fun none => unmapped (filterMap_apply?_eq_nil_iff.mp (List.map_eq_nil_iff.mp none))

/-- The values that a source value is mapped to. -/
def mapValue (mappings : List Mapping) (default : String) (passThrough : Bool)
    (source : Value) : List Value :=
  source.text?.toList.flatMap (mapText mappings (some default) passThrough)

/-- What the code makes of one source value is what it contributes. -/
theorem mapsTo_mapValue (source : Value) :
    MapsTo mappings default passThrough source
      (mapValue mappings default passThrough source) := by
  rw [mapValue]
  cases shown : source.text? with
  | none => exact .textless shown
  | some text =>
    rw [Option.toList_some, List.flatMap_singleton]
    by_cases unmapped : Unmapped mappings text
    · rw [mapText_eq_of_unmapped unmapped]
      cases passThrough with
      | true => exact .kept shown unmapped rfl
      | false => exact .replaced shown unmapped rfl
    · rw [mapText_eq_of_applied unmapped]
      apply MapsTo.mapped shown
      simpa [Unmapped] using unmapped

/-- Only a value without a text contributes nothing, since there is a default for every text. -/
theorem mapValue_eq_nil_iff {source : Value} :
    mapValue mappings default passThrough source = [] ↔ source.text? = none := by
  rw [mapValue]
  cases source.text? with
  | none => simp
  | some text => simpa using mapText_ne_nil text

/-- Of the values that are kept, only plain texts with content stay what they are. -/
theorem MapsTo.eq_self_iff {source : Value} {part : List Value} {text : String}
    (maps : MapsTo mappings default true source part)
    (shown : source.text? = some text) (unmapped : Unmapped mappings text) :
    part = [source] ↔ source = .text text ∧ text ≠ "" := by
  cases maps with
  | mapped other applied =>
    cases shown.symm.trans other
    obtain ⟨mapping, listed, applies⟩ := applied
    exact absurd (unmapped mapping listed) applies
  | replaced other _ drops => cases drops
  | textless hidden => cases shown.symm.trans hidden
  | kept other =>
    cases shown.symm.trans other
    rw [List.singleton_inj, Value.ofText]
    by_cases empty : text = ""
    · subst empty
      rw [if_pos rfl]
      constructor
      · rintro rfl
        cases shown
      · exact fun same => absurd rfl same.2
    · rw [if_neg empty]
      exact ⟨fun same => ⟨same.symm, empty⟩, fun same => same.1.symm⟩

/-! ## All source values -/

/-- If there are source values at all, each contributes by itself. -/
theorem mapValues_eq_flatMap {sources : List Value} (present : sources ≠ []) :
    mapValues mappings (some default) passThrough sources =
      sources.flatMap (mapValue mappings default passThrough) := by
  obtain ⟨first, rest, rfl⟩ := List.exists_cons_of_ne_nil present
  rw [mapValues, List.filterMap_eq_flatMap_toList, List.flatMap_assoc]
  rfl

/-- The default stands for a missing list of sources, not for sources that contribute nothing. -/
theorem isMapped_mapValues (sources : List Value) :
    IsMapped mappings default passThrough sources
      (mapValues mappings (some default) passThrough sources) where
  of_nil absent := by
    rw [absent]
    rfl
  of_ne_nil present := by
    refine ⟨sources.map (mapValue mappings default passThrough), ?_, ?_⟩
    · exact List.forall₂_map_right_iff.mpr
        (List.forall₂_same.mpr fun source _ => mapsTo_mapValue source)
    · rw [mapValues_eq_flatMap present, List.flatMap_def]
  ne_nil_iff := by
    by_cases absent : sources = []
    · rw [absent]
      exact iff_of_true (List.cons_ne_nil _ _) (.inl rfl)
    · rw [mapValues_eq_flatMap absent, ne_eq, List.flatMap_eq_nil_iff]
      simp [mapValue_eq_nil_iff, absent, Option.isSome_iff_ne_none]

/-- A mapped definition under an id never fails, and its values are those that the merged values are
mapped to. -/
theorem DefinitionKind.compute_mapped {settings : DefinitionSettings}
    (identified : Text.isBlank settings.id = false) (resolution : Resolution) :
    (DefinitionKind.mapped mappings (some default) passThrough).compute settings resolution =
      .ok (some {
        id := settings.id
        values := mapValues mappings (some default) passThrough
          (resolution.mergedValues settings.dependencies settings.sourceId) }) := by
  have bound (values : List Value) :
      Attribute.withValues? settings.id values = .ok { id := settings.id, values } :=
    Attribute.withValues?_eq_ok_iff.mpr ⟨identified, rfl⟩
  rw [DefinitionKind.compute, DefinitionKind.values]
  simp only [bind, Except.bind, bound, ResolutionError.ofAttribute]
  rfl

/-- With an id, a mapped definition with a default value always has an attribute. Its values are
what the source values contribute, one after another, or the default value if there is none. There
are values unless there are sources and all lack a text. A value that no rule maps contributes
itself, where values are kept, just when it is a plain text with content. -/
theorem mapped_values_from_sources (mappings : List Mapping) (default : String) (passThrough : Bool)
    (settings : DefinitionSettings) (resolution : Resolution) :
    (Text.isBlank settings.id = true →
        (DefinitionKind.mapped mappings (some default) passThrough).compute settings resolution =
          .error (.attributeError (.blankId settings.id))) ∧
      (Text.isBlank settings.id = false → ∃ made,
        (DefinitionKind.mapped mappings (some default) passThrough).compute settings resolution =
            .ok (some { id := settings.id, values := made }) ∧
          IsMapped mappings default passThrough
            (resolution.mergedValues settings.dependencies settings.sourceId) made) ∧
      ∀ source part text, MapsTo mappings default true source part →
        source.text? = some text → Unmapped mappings text →
          (part = [source] ↔ source = .text text ∧ text ≠ "") := by
  refine ⟨fun blank => ?_, fun identified => ?_, fun source part text maps =>
    maps.eq_self_iff⟩
  · rw [DefinitionKind.compute, DefinitionKind.values]
    simp only [bind, Except.bind, Attribute.withValues?_of_isBlank blank]
    rfl
  · exact ⟨_, DefinitionKind.compute_mapped identified resolution, isMapped_mapValues _⟩

/-- The rule that maps every text with `fac` in it. -/
def facultyMapping : Mapping :=
  ⟨⟨#[.save 0, .char (.single 102), .char (.single 97), .char (.single 99), .save 1, .accept], []⟩,
    "staff"⟩

/-- A role that is made of affiliations. -/
def roleSettings : DefinitionSettings where
  id := "role"
  dependencies := { attributes := ["affiliation"] }

/-- A request where the affiliations are at hand. -/
def affiliated (values : List Value) : Resolution where
  definitions := KeyMap.ofList
    [("affiliation", ⟨"affiliation", some { id := "affiliation", values }, true⟩)]

/-- One affiliation is mapped, one gives way to the default value, and one has no text. -/
theorem mapped_values_from_sources_role :
    Text.isBlank roleSettings.id = false ∧
      MappingConfig.compile ⟨"fac", "staff", true, true⟩ "role" = .ok facultyMapping ∧
      ∃ made,
        (DefinitionKind.mapped [facultyMapping] (some "guest") false).compute roleSettings
            (affiliated [.text "faculty", .bytes [7], .scoped ⟨"alum", "north.example"⟩]) =
          .ok (some { id := "role", values := made }) ∧
        made ≠ [] ∧ made = [.text "staff", .text "guest"] := by
  have identified : Text.isBlank roleSettings.id = false := rfl
  obtain ⟨-, computed, -⟩ := mapped_values_from_sources [facultyMapping] "guest" false roleSettings
    (affiliated [.text "faculty", .bytes [7], .scoped ⟨"alum", "north.example"⟩])
  obtain ⟨made, own, isMapped⟩ := computed identified
  have first : Value.text "faculty" ∈ (affiliated [.text "faculty", .bytes [7],
      .scoped ⟨"alum", "north.example"⟩]).mergedValues roleSettings.dependencies
        roleSettings.sourceId := List.mem_cons_self
  refine ⟨identified, rfl, made, own, isMapped.ne_nil_iff.mpr (.inr ⟨_, first, rfl⟩), ?_⟩
  cases own
  rfl

/-- Of an affiliation that is only a placeholder nothing comes, not even the default value, and one
that has a scope is kept without it. -/
theorem placeholder_leaves_no_value :
    (affiliated [.empty .null]).mergedValues roleSettings.dependencies roleSettings.sourceId =
        [.empty .null] ∧
      (DefinitionKind.mapped [] (some "guest") false).compute roleSettings
          (affiliated [.empty .null]) = .ok (some { id := "role", values := [] }) ∧
      (DefinitionKind.mapped [] (some "guest") true).compute roleSettings
          (affiliated [.empty .null]) = .ok (some { id := "role", values := [] }) ∧
      (DefinitionKind.mapped [] (some "guest") true).compute roleSettings
          (affiliated [.scoped ⟨"member", "north.example"⟩]) =
        .ok (some { id := "role", values := [.text "member"] }) :=
  ⟨rfl, rfl, rfl, rfl⟩

end AttributeRelease.Resolver
