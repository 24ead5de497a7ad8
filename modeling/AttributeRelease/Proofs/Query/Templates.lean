import AttributeRelease.Resolver.Query.Template
import Mathlib.Data.List.Basic

/-!
# Templates as texts and as queries

A text is a template if, read from the left, every opening brace outside a placeholder begins one
(`IsTemplate`). Exactly these texts are cut, and each has one cut: segments that give back the text
when they are written one after another, where literals are neither empty nor adjacent (`IsCut`).
A template is rendered segment by segment: it fails with the first placeholder that has no value,
and otherwise every placeholder is replaced by its escaped value where it stands.
-/

namespace AttributeRelease.Resolver.Query

/-! ## Segments and names -/

/-- A name between braces. -/
def braced (name : List Char) : List Char := '\x7b' :: (name ++ ['\x7d'])

/-- A segment as it stands in a template. -/
def Segment.written : Segment → List Char
  | .literal text => text.toList
  | .party who => braced who.name.toList
  | .attr id => braced (attrMark ++ id.toList)

/-- Whether a segment is a literal. -/
def Segment.isLiteral : Segment → Bool
  | .literal _ => true
  | _ => false

/-- The text of a literal. -/
def Segment.literalText : Segment → List Char
  | .literal text => text.toList
  | _ => []

/-- The names that may stand between braces, and the placeholders they stand for. -/
inductive Names : List Char → Segment → Prop where
  | party (who : Request.Party) : Names who.name.toList (.party who)
  | attr {id : String} (named : id ≠ "") : Names (attrMark ++ id.toList) (.attr id)

/-- The texts that are templates. -/
inductive IsTemplate : List Char → Prop where
  | nil : IsTemplate []
  | char {c : Char} {rest : List Char} (plain : c ≠ '\x7b') (template : IsTemplate rest) :
      IsTemplate (c :: rest)
  | placeholder {name rest : List Char} {segment : Segment} (named : Names name segment)
      (closed : '\x7d' ∉ name) (template : IsTemplate rest) :
      IsTemplate ('\x7b' :: (name ++ '\x7d' :: rest))

/-- Segments as a text is cut into them. -/
inductive IsCut : List Segment → Prop where
  | nil : IsCut []
  | literal {text : String} {rest : List Segment} (full : text ≠ "")
      (plain : '\x7b' ∉ text.toList) (apart : ∀ segment ∈ rest.head?, segment.isLiteral = false)
      (cut : IsCut rest) : IsCut (.literal text :: rest)
  | placeholder {name : List Char} {segment : Segment} {rest : List Segment}
      (named : Names name segment) (closed : '\x7d' ∉ name) (cut : IsCut rest) :
      IsCut (segment :: rest)

theorem Names.written {name : List Char} {segment : Segment} (named : Names name segment) :
    segment.written = braced name := by
  cases named <;> rfl

theorem Names.isLiteral {name : List Char} {segment : Segment} (named : Names name segment) :
    segment.isLiteral = false := by
  cases named <;> rfl

theorem Names.of_eq {name : List Char} {who : Request.Party}
    (read : String.ofList name = who.name) : Names name (.party who) := by
  rw [← String.toList_ofList (l := name), read]
  exact .party who

/-- An attribute is named just when an id stands behind the mark. -/
theorem announces_iff {name : List Char} :
    (attrMark.isPrefixOf name && attrMark.length < name.length) = true ↔
      ∃ id : String, id ≠ "" ∧ name = attrMark ++ id.toList := by
  rw [Bool.and_eq_true_iff, List.isPrefixOf_iff_prefix, decide_eq_true_iff]
  constructor
  · rintro ⟨⟨behind, rfl⟩, longer⟩
    refine ⟨String.ofList behind, fun empty => ?_, by rw [String.toList_ofList]⟩
    rw [String.ofList_eq_empty_iff] at empty
    rw [empty, List.append_nil] at longer
    exact Nat.lt_irrefl _ longer
  · rintro ⟨id, named, rfl⟩
    have full : id.toList ≠ [] := fun empty => named (String.toList_eq_nil_iff.mp empty)
    rw [List.length_append]
    exact ⟨List.prefix_append _ _, Nat.lt_add_of_pos_right (List.length_pos_iff.mpr full)⟩

/-- A placeholder is read where a name of one stands between braces, and nowhere else. -/
theorem placeholder_eq_ok_iff {name : List Char} {segment : Segment} :
    placeholder name = .ok segment ↔ Names name segment := by
  constructor
  · intro found
    unfold placeholder at found
    split at found
    next read => cases found; exact .of_eq read
    next read => cases found; exact .of_eq read
    next read => cases found; exact .of_eq read
    next =>
      split at found
      next marked =>
        cases found
        obtain ⟨id, named, rfl⟩ := announces_iff.mp marked
        rw [List.drop_left, String.ofList_toList]
        exact .attr named
      next => cases found
  · intro named
    cases named with
    | party who => cases who <;> rfl
    | @attr id named =>
      -- The mark does not begin like the name of a party.
      have differs (word : String) (first : word.toList.head? ≠ some 'a') :
          String.ofList (attrMark ++ id.toList) ≠ word := by
        intro same
        apply first
        rw [← same, String.toList_ofList]
        rfl
      unfold placeholder
      split
      next read => exact absurd read (differs _ (by decide))
      next read => exact absurd read (differs _ (by decide))
      next read => exact absurd read (differs _ (by decide))
      next =>
        rw [if_pos (announces_iff.mpr ⟨id, named, rfl⟩), List.drop_left, String.ofList_toList]

/-! ## Scanning -/

/-- Text without an opening brace is taken into the literal as a whole. -/
theorem scanLiteral_append {text : List Char} (plain : '\x7b' ∉ text) (literal rest : List Char) :
    scanLiteral literal (text ++ rest) = scanLiteral (text.reverse ++ literal) rest := by
  induction text generalizing literal with
  | nil => rfl
  | cons c text ih =>
    obtain ⟨other, plain⟩ := not_or.mp (mt List.mem_cons.mpr plain)
    rw [List.cons_append, scanLiteral, if_neg (Ne.symm other), ih plain]
    simp only [List.reverse_cons, List.append_assoc, List.singleton_append]

/-- Text without a closing brace is taken into the name as a whole. -/
theorem scanName_append {text : List Char} (inside : '\x7d' ∉ text) (name rest : List Char) :
    scanName name (text ++ rest) = scanName (text.reverse ++ name) rest := by
  induction text generalizing name with
  | nil => rfl
  | cons c text ih =>
    obtain ⟨other, inside⟩ := not_or.mp (mt List.mem_cons.mpr inside)
    rw [List.cons_append, scanName, if_neg (Ne.symm other), ih inside]
    simp only [List.reverse_cons, List.append_assoc, List.singleton_append]

/-- A placeholder ends the literal before it and is followed by what the rest is cut into. -/
theorem scanLiteral_placeholder {name : List Char} {segment : Segment}
    (named : Names name segment) (closed : '\x7d' ∉ name) (literal rest : List Char) :
    scanLiteral literal ('\x7b' :: (name ++ '\x7d' :: rest)) =
      (scanLiteral [] rest).map fun segments => flush literal (segment :: segments) := by
  have read : placeholder name = .ok segment := placeholder_eq_ok_iff.mpr named
  rw [scanLiteral, if_pos rfl, scanName_append closed, scanName, if_pos rfl]
  simp only [List.append_nil, List.reverse_reverse, read]
  cases scanLiteral [] rest <;> rfl

/-! ## Cuts -/

/-- A literal is put in front of the segments unless it is empty, which writes nothing either. -/
theorem written_flush (literal : List Char) (segments : List Segment) :
    (flush literal segments).flatMap Segment.written =
      literal.reverse ++ segments.flatMap Segment.written := by
  cases literal with
  | nil => rfl
  | cons c literal =>
    rw [flush, if_neg (by simp), List.flatMap_cons, Segment.written, String.toList_ofList]

/-- A literal may be put in front of a placeholder or at the end. -/
theorem isCut_flush {literal : List Char} {segments : List Segment} (plain : '\x7b' ∉ literal)
    (apart : ∀ segment ∈ segments.head?, segment.isLiteral = false) (cut : IsCut segments) :
    IsCut (flush literal segments) := by
  cases literal with
  | nil => exact cut
  | cons c literal =>
    rw [flush, if_neg (by simp)]
    apply IsCut.literal _ _ apart cut
    · intro empty
      have nothing := congrArg String.toList empty
      simp at nothing
    · rwa [String.toList_ofList, List.mem_reverse]

/-- A template is cut into segments that give it back, behind any literal. -/
theorem IsTemplate.exists_cut {text : List Char} (template : IsTemplate text) {literal : List Char}
    (plain : '\x7b' ∉ literal) :
    ∃ segments, scanLiteral literal text = .ok segments ∧ IsCut segments ∧
      segments.flatMap Segment.written = literal.reverse ++ text := by
  induction template generalizing literal with
  | nil => exact ⟨flush literal [], rfl, isCut_flush plain nofun .nil, written_flush literal []⟩
  | @char c rest other template ih =>
    obtain ⟨segments, scanned, cut, written⟩ :=
      ih (List.not_mem_cons_of_ne_of_not_mem (Ne.symm other) plain)
    refine ⟨segments, ?_, cut, ?_⟩
    · rw [scanLiteral, if_neg other, scanned]
    · rw [written, List.reverse_cons, List.append_assoc, List.singleton_append]
  | @placeholder name rest segment named closed template ih =>
    obtain ⟨segments, scanned, cut, written⟩ := ih List.not_mem_nil
    refine ⟨flush literal (segment :: segments), ?_, ?_, ?_⟩
    · rw [scanLiteral_placeholder named closed, scanned]
      rfl
    · apply isCut_flush plain _ (.placeholder named closed cut)
      intro first head
      cases head
      exact named.isLiteral
    · rw [written_flush, List.flatMap_cons, named.written, written, braced]
      simp only [List.reverse_nil, List.nil_append, List.cons_append, List.append_assoc]

mutual

/-- Only templates are cut. -/
theorem isTemplate_of_scanLiteral {literal text : List Char} {segments : List Segment}
    (scanned : scanLiteral literal text = .ok segments) : IsTemplate text := by
  match text with
  | [] => exact .nil
  | c :: rest =>
    rw [scanLiteral] at scanned
    split at scanned
    next brace =>
      obtain ⟨behind, named, _⟩ := exists_of_bind_eq_ok scanned
      rw [brace]
      exact isTemplate_of_scanName named List.not_mem_nil
    next other => exact .char other (isTemplate_of_scanLiteral scanned)

/-- A name that was scanned to its closing brace makes the text a template, with what stands
behind. -/
theorem isTemplate_of_scanName {name text : List Char} {segments : List Segment}
    (scanned : scanName name text = .ok segments) (inside : '\x7d' ∉ name) :
    IsTemplate ('\x7b' :: (name.reverse ++ text)) := by
  match text with
  | [] => cases scanned
  | c :: rest =>
    rw [scanName] at scanned
    split at scanned
    next brace =>
      obtain ⟨segment, read, onward⟩ := exists_of_bind_eq_ok scanned
      obtain ⟨behind, scanned, _⟩ := exists_of_bind_eq_ok onward
      rw [brace]
      exact .placeholder (placeholder_eq_ok_iff.mp read) (by rwa [List.mem_reverse])
        (isTemplate_of_scanLiteral scanned)
    next other =>
      have longer := isTemplate_of_scanName scanned
        (List.not_mem_cons_of_ne_of_not_mem (Ne.symm other) inside)
      rwa [List.reverse_cons, List.append_assoc, List.singleton_append] at longer

end

/-- Segments that are a cut are what the text they give is cut into. -/
theorem IsCut.scanLiteral_eq {segments : List Segment} (cut : IsCut segments) {literal : List Char}
    (apart : literal = [] ∨ ∀ segment ∈ segments.head?, segment.isLiteral = false) :
    scanLiteral literal (segments.flatMap Segment.written) = .ok (flush literal segments) := by
  induction cut generalizing literal with
  | nil => rfl
  | @literal text rest full plain behind cut ih =>
    have first : literal = [] := apart.resolve_right fun apart => nomatch apart _ rfl
    rw [first, List.flatMap_cons, Segment.written, scanLiteral_append plain, List.append_nil,
      ih (.inr behind)]
    have some : text.toList.reverse.isEmpty = false := by
      rw [List.isEmpty_reverse, List.isEmpty_eq_false_iff]
      exact fun empty => full (String.toList_eq_nil_iff.mp empty)
    rw [flush, some, List.reverse_reverse, String.ofList_toList]
    rfl
  | @placeholder name segment rest named closed cut ih =>
    have split : (segment :: rest).flatMap Segment.written =
        '\x7b' :: (name ++ '\x7d' :: rest.flatMap Segment.written) := by
      rw [List.flatMap_cons, named.written, braced]
      simp only [List.cons_append, List.append_assoc, List.nil_append]
    rw [split, scanLiteral_placeholder named closed, ih (.inl rfl)]
    rfl

namespace Template

/-- A template is made for a plugin exactly if its text is scanned without an error. -/
theorem forPlugin_eq_ok_iff {pluginId text : String} {template : Template} :
    forPlugin pluginId text = .ok template ↔
      scanLiteral [] text.toList = .ok template.segments := by
  obtain ⟨segments⟩ := template
  rw [forPlugin, parse]
  cases scanLiteral [] text.toList with
  | error error => simp [bind, Except.bind]
  | ok found => simp [bind, Except.bind, pure, Except.pure]

/-- A text can be cut if and only if it is a template. -/
theorem exists_forPlugin_iff {pluginId text : String} :
    (∃ template, forPlugin pluginId text = .ok template) ↔ IsTemplate text.toList := by
  constructor
  · intro ⟨template, cut⟩
    exact isTemplate_of_scanLiteral (forPlugin_eq_ok_iff.mp cut)
  · intro template
    obtain ⟨segments, scanned, _⟩ := template.exists_cut List.not_mem_nil
    exact ⟨⟨segments⟩, forPlugin_eq_ok_iff.mpr scanned⟩

/-- The segments of a text are its only cut. -/
theorem forPlugin_iff_isCut {pluginId text : String} {template : Template} :
    forPlugin pluginId text = .ok template ↔
      IsCut template.segments ∧ template.segments.flatMap Segment.written = text.toList := by
  rw [forPlugin_eq_ok_iff]
  constructor
  · intro scanned
    obtain ⟨segments, again, cut, written⟩ :=
      (isTemplate_of_scanLiteral scanned).exists_cut List.not_mem_nil
    cases scanned.symm.trans again
    exact ⟨cut, written⟩
  · intro ⟨cut, written⟩
    rw [← written]
    exact cut.scanLiteral_eq (.inl rfl)

end Template

/-! ## Dependency values by attribute -/

/-- The values that dependencies supply for an attribute: those of the definitions whose attribute
has the id, and those that connectors have under the id and the dependencies on them take. -/
def dependencyValues (resolution : Resolution) (dependencies : Dependencies) (id : String) :
    List Value :=
  ((dependencies.attributes.filterMap resolution.definedAttribute?).filter (·.id = id)).flatMap
      Attribute.values ++
    (dependencies.connectors.filter (Resolution.takes · id)).flatMap fun dependency =>
      Resolution.valuesOf
        ((resolution.fetchedAttributes? dependency.connectorId).bind (·.get? id))

/-- The values of a group, none if there is no such group. -/
def group (groups : KeyMap (List Value)) (id : String) : List Value := (groups.get? id).getD []

section Groups

variable {resolution : Resolution} {groups : KeyMap (List Value)} {id : String}

/-- Adding values changes the group they are added to, at its end. -/
theorem group_addValues (key : String) (values : List Value) :
    group (Resolution.addValues groups key values) id =
      group groups id ++ if key = id then values else [] := by
  rw [group, group, Resolution.addValues, KeyMap.get?_insert]
  by_cases same : key = id
  · rw [if_pos same, if_pos same, same]
    rfl
  · rw [if_neg same, if_neg same, List.append_nil]

/-- What steps add to a group one by one, they add in order. -/
theorem group_foldl {α : Type} {add : KeyMap (List Value) → α → KeyMap (List Value)}
    {part : α → List Value}
    (step : ∀ groups item, group (add groups item) id = group groups id ++ part item)
    (items : List α) :
    group (items.foldl add groups) id = group groups id ++ items.flatMap part := by
  induction items generalizing groups with
  | nil => exact (List.append_nil _).symm
  | cons item rest ih => rw [List.foldl_cons, ih, step, List.append_assoc, List.flatMap_cons]

/-- A definition adds the values of its attribute to the group of that id. -/
theorem group_addDefinition (groups : KeyMap (List Value)) (key : String) :
    group (resolution.addDefinition groups key) id = group groups id ++
      ((resolution.definedAttribute? key).toList.filter (·.id = id)).flatMap Attribute.values := by
  rw [Resolution.addDefinition]
  cases resolution.definedAttribute? key with
  | none => exact (List.append_nil _).symm
  | some attr =>
    rw [group_addValues]
    by_cases same : attr.id = id <;> simp [same]

/-- Of the entries of a map only the one under a key counts for that key. -/
theorem flatMap_entries_key {α : Type} (map : KeyMap α) (key : String) (values : α → List Value) :
    (map.entries.flatMap fun entry => if entry.1 = key then values entry.2 else []) =
      ((map.get? key).map values).getD [] := by
  obtain ⟨list, sorted⟩ := map
  simp only [KeyMap.get?]
  induction list with
  | nil => rfl
  | cons head rest ih =>
    obtain ⟨above, tail⟩ := List.pairwise_cons.mp sorted
    rw [List.flatMap_cons, ih tail, KeyMap.lookupEntry]
    by_cases same : head.1 = key
    · have absent : KeyMap.lookupEntry key rest = none :=
        KeyMap.lookupEntry_eq_none_of_lt (same ▸ above)
      simp [same, absent]
    · simp [same]

theorem flatMap_filter {α β : Type} (items : List α) (keeps : α → Bool) (parts : α → List β) :
    (items.filter keeps).flatMap parts =
      items.flatMap fun item => if keeps item then parts item else [] := by
  induction items with
  | nil => rfl
  | cons item rest ih => by_cases kept : keeps item = true <;> simp [kept, ih]

/-- A connector adds to a group what it has under that id, if that is taken from it. -/
theorem group_addConnector (groups : KeyMap (List Value)) (dependency : ConnectorDependency) :
    group (resolution.addConnector groups dependency) id = group groups id ++
      if Resolution.takes dependency id then
        Resolution.valuesOf
          ((resolution.fetchedAttributes? dependency.connectorId).bind (·.get? id))
      else [] := by
  rw [Resolution.addConnector]
  cases resolution.fetchedAttributes? dependency.connectorId with
  | none => simp [Resolution.valuesOf]
  | some attributes =>
    have taken (entry : String × Attribute) (_ : entry ∈ attributes.entries) :
        (if Resolution.takes dependency entry.1 then
            if entry.1 = id then entry.2.values else [] else []) =
          if entry.1 = id then
            if Resolution.takes dependency id then entry.2.values else [] else [] := by
      by_cases same : entry.1 = id <;> simp [same]
    rw [group_foldl fun groups entry => group_addValues entry.1 entry.2.values, flatMap_filter,
      List.flatMap_congr taken, flatMap_entries_key attributes id fun attr =>
        if Resolution.takes dependency id then attr.values else [], Option.bind_some]
    by_cases takes : Resolution.takes dependency id = true
    · simp only [takes, if_true, Resolution.valuesOf]
    · simp only [takes]
      cases attributes.get? id <;> rfl

/-- The values grouped under an id are those that the dependencies supply for it. -/
theorem group_groupedValues (resolution : Resolution) (dependencies : Dependencies) (id : String) :
    group (resolution.groupedValues dependencies) id =
      dependencyValues resolution dependencies id := by
  rw [Resolution.groupedValues, group_foldl group_addConnector,
    group_foldl group_addDefinition, dependencyValues,
    List.filterMap_eq_flatMap_toList, List.filter_flatMap, List.flatMap_assoc, flatMap_filter]
  rfl

end Groups

/-! ## Queries -/

/-- A segment in a query, where placeholders have the values given: literals as they are, and the
escaped value of a placeholder. -/
def Segment.filled (value? : Segment → Option String) (escape : String → String) :
    Segment → List Char
  | .literal text => text.toList
  | segment => ((value? segment).map fun value => (escape value).toList).getD []

/-- The value of a placeholder: that of the party in the request, or the first text among the
dependency values of the attribute. -/
def placeholderValue? (resolution : Resolution) (dependencies : Dependencies) :
    Segment → Option String
  | .literal _ => none
  | .party who => resolution.request.get? who
  | .attr id => (dependencyValues resolution dependencies id).findSome? Value.text?

/-- A placeholder has no value: the party is missing in the request, or no dependency value of the
attribute is a text or a scoped text. -/
def Segment.LacksValue (resolution : Resolution) (dependencies : Dependencies) : Segment → Prop
  | .literal _ => False
  | .party who => resolution.request.get? who = none
  | .attr id => ∀ value ∈ dependencyValues resolution dependencies id,
      (∀ content, value ≠ .text content) ∧ ∀ content, value ≠ .scoped content

/-- The values in the code's own sources are those that stand for placeholders. -/
theorem value?_of (resolution : Resolution) (dependencies : Dependencies) :
    (Sources.of resolution dependencies).value? = placeholderValue? resolution dependencies := by
  funext segment
  cases segment with
  | literal text => rfl
  | party who => rfl
  | attr id =>
    rw [placeholderValue?, ← group_groupedValues, group, Sources.value?]
    show ((resolution.groupedValues dependencies).get? id).bind _ = _
    cases (resolution.groupedValues dependencies).get? id <;> rfl

theorem text?_eq_none_iff {value : Value} :
    value.text? = none ↔
      (∀ content, value ≠ .text content) ∧ ∀ content, value ≠ .scoped content := by
  cases value <;> simp [Value.text?]

/-- A placeholder lacks a value exactly if nothing stands for it. -/
theorem lacksValue_iff {resolution : Resolution} {dependencies : Dependencies}
    {segment : Segment} :
    segment.LacksValue resolution dependencies ↔
      segment.isLiteral = false ∧ placeholderValue? resolution dependencies segment = none := by
  cases segment with
  | literal text => simp [Segment.LacksValue, Segment.isLiteral]
  | party who => simp [Segment.LacksValue, Segment.isLiteral, placeholderValue?]
  | attr id =>
    simp only [Segment.LacksValue, Segment.isLiteral, placeholderValue?, true_and,
      List.findSome?_eq_none_iff, text?_eq_none_iff]

/-- A placeholder without a value in the sources. -/
def Sources.Lacks (sources : Sources) (segment : Segment) : Prop :=
  segment.isLiteral = false ∧ sources.value? segment = none

section Rendering

variable {pluginId : String} {sources : Sources} {escape : String → String}
  {segments : List Segment}

/-- A segment is rendered unless it is a placeholder without a value. -/
theorem segment_render_cases (pluginId : String) (sources : Sources) (escape : String → String)
    (segment : Segment) :
    (¬ sources.Lacks segment ∧ segment.render pluginId sources escape =
        .ok (String.ofList (segment.filled sources.value? escape))) ∨
      (sources.Lacks segment ∧ segment.render pluginId sources escape =
        .error (.invalidInput pluginId segment.missingMessage)) := by
  cases segment with
  | literal text =>
    refine .inl ⟨nofun, ?_⟩
    rw [Segment.render, Segment.filled, String.ofList_toList]
  | party who | attr id =>
    cases found : sources.value? _ with
    | none => exact .inr ⟨⟨rfl, found⟩, by simp only [Segment.render, found]⟩
    | some value =>
      refine .inl ⟨fun lacks => ?_, ?_⟩
      · rw [lacks.2] at found
        cases found
      · simp only [Segment.render, Segment.filled, found, Option.map_some, Option.getD_some,
          String.ofList_toList]

/-- A query is rendered where every placeholder has a value, and consists of the filled segments. -/
theorem renderSegments_eq_ok_iff {query : String} :
    renderSegments pluginId sources escape segments = .ok query ↔
      (∀ segment ∈ segments, ¬ sources.Lacks segment) ∧
        query.toList = segments.flatMap (Segment.filled sources.value? escape) := by
  induction segments generalizing query with
  | nil =>
    rw [renderSegments, Except.ok.injEq]
    constructor
    · intro same
      rw [← same]
      exact ⟨nofun, rfl⟩
    · intro ⟨_, empty⟩
      exact (String.toList_eq_nil_iff.mp empty).symm
  | cons segment rest ih =>
    rw [renderSegments, List.forall_mem_cons, List.flatMap_cons]
    obtain ⟨has, rendered⟩ | ⟨lacks, rendered⟩ :=
      segment_render_cases pluginId sources escape segment
    · rw [rendered]
      cases behind : renderSegments pluginId sources escape rest with
      | error error =>
        constructor
        · nofun
        · intro ⟨⟨_, others⟩, _⟩
          cases behind.symm.trans (ih.mpr ⟨others, String.toList_ofList⟩)
      | ok text =>
        obtain ⟨others, filled⟩ := ih.mp behind
        show Except.ok (_ ++ text) = Except.ok query ↔ _
        rw [Except.ok.injEq, ← String.toList_inj, String.toList_append, String.toList_ofList,
          filled]
        exact ⟨fun same => ⟨⟨has, others⟩, same.symm⟩, fun both => both.2.symm⟩
    · rw [rendered]
      exact ⟨nofun, fun both => absurd lacks both.1.1⟩

/-- An error is about a placeholder without a value. -/
theorem exists_of_renderSegments_eq_error {error : ResolutionError}
    (failed : renderSegments pluginId sources escape segments = .error error) :
    ∃ segment ∈ segments, sources.Lacks segment ∧
      error = .invalidInput pluginId segment.missingMessage := by
  induction segments with
  | nil => cases failed
  | cons segment rest ih =>
    rw [renderSegments] at failed
    obtain ⟨_, rendered⟩ | ⟨lacks, rendered⟩ :=
      segment_render_cases pluginId sources escape segment
    · rw [rendered] at failed
      cases behind : renderSegments pluginId sources escape rest with
      | error own =>
        rw [behind] at failed
        cases failed
        obtain ⟨other, listed, found⟩ := ih behind
        exact ⟨other, .tail _ listed, found⟩
      | ok text =>
        rw [behind] at failed
        cases failed
    · rw [rendered] at failed
      cases failed
      exact ⟨segment, .head _, lacks, rfl⟩

end Rendering

/-- A query consists of the filled segments of its template, in which placeholders have values. -/
theorem Template.of_render {template : Template} {pluginId : String} {resolution : Resolution}
    {dependencies : Dependencies} {escape : String → String} {query : String}
    (rendered : template.render pluginId (Sources.of resolution dependencies) escape = .ok query) :
    query.toList = template.segments.flatMap
        (Segment.filled (placeholderValue? resolution dependencies) escape) ∧
      ∀ segment ∈ template.segments, segment.isLiteral = false →
        ∃ value, placeholderValue? resolution dependencies segment = some value := by
  obtain ⟨has, filled⟩ := renderSegments_eq_ok_iff.mp rendered
  rw [value?_of] at filled
  refine ⟨filled, fun segment listed placeholder => ?_⟩
  rw [← value?_of]
  exact Option.ne_none_iff_exists'.mp fun missing => has segment listed ⟨placeholder, missing⟩

theorem filled_of_value? {segment : Segment} {value? : Segment → Option String}
    {escape : String → String} {value : String} (placeholder : segment.isLiteral = false)
    (found : value? segment = some value) :
    segment.filled value? escape = (escape value).toList := by
  cases segment with
  | literal text => cases placeholder
  | party who | attr id => simp only [Segment.filled, found, Option.map_some, Option.getD_some]

/-- Templates, from their texts to queries.

A text is cut if and only if, read from the left, every opening brace outside a placeholder is
followed by a name of one and a closing brace. The segments written one after another are the text,
and no literal among them is empty or next to another. Rendering fails if and only if a placeholder
has no value, with an error that says so, and otherwise leaves the literals as they are and puts the
escaped values in the places of the placeholders. -/
theorem templates_read_and_rendered (pluginId : String) :
    (∀ text, (∃ template, Template.forPlugin pluginId text = .ok template) ↔
        IsTemplate text.toList) ∧
      (∀ text template, Template.forPlugin pluginId text = .ok template ↔
        IsCut template.segments ∧ template.segments.flatMap Segment.written = text.toList) ∧
      ∀ (template : Template) (resolution : Resolution) (dependencies : Dependencies)
        (escape : String → String),
        let rendered := template.render pluginId (Sources.of resolution dependencies) escape
        ((∃ message, rendered = .error (.invalidInput pluginId message)) ↔
            ∃ segment ∈ template.segments, segment.LacksValue resolution dependencies) ∧
          ∀ query, rendered = .ok query ↔
            (¬ ∃ segment ∈ template.segments, segment.LacksValue resolution dependencies) ∧
              query.toList = template.segments.flatMap
                (Segment.filled (placeholderValue? resolution dependencies) escape) := by
  refine ⟨fun text => Template.exists_forPlugin_iff, fun text template =>
    Template.forPlugin_iff_isCut, fun template resolution dependencies escape => ?_⟩
  have lacks (segment : Segment) : (Sources.of resolution dependencies).Lacks segment ↔
      segment.LacksValue resolution dependencies := by
    rw [lacksValue_iff, Sources.Lacks, value?_of]
  constructor
  · constructor
    · intro ⟨message, failed⟩
      obtain ⟨segment, listed, missing, _⟩ := exists_of_renderSegments_eq_error failed
      exact ⟨segment, listed, (lacks segment).mp missing⟩
    · intro ⟨segment, listed, missing⟩
      cases rendered : template.render pluginId (Sources.of resolution dependencies) escape with
      | error error =>
        obtain ⟨first, _, _, same⟩ := exists_of_renderSegments_eq_error rendered
        exact ⟨first.missingMessage, congrArg Except.error same⟩
      | ok query =>
        exact absurd ((lacks segment).mpr missing)
          ((renderSegments_eq_ok_iff.mp rendered).1 segment listed)
  · intro query
    rw [Template.render, renderSegments_eq_ok_iff, value?_of]
    simp only [lacks, not_exists, not_and]

end AttributeRelease.Resolver.Query
