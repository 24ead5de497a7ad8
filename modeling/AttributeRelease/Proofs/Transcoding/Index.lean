import AttributeRelease.Transcoding.Registry

/-!
# What the index of rules holds

Each rule that is kept is filed twice, under the id of its attribute and under the canonical name of
what it writes. Under a key the index holds the rules that are filed there, in the order of
installation (`rulesFor_build`), and no others. So calls of `install`, however they take turns
between attributes, leave what their rules say one after the other (`installAll_files`).
-/

namespace AttributeRelease.Transcoding

/-! ## Rules that are kept -/

/-- A rule is kept when its attribute has an id, its codec is at hand or has a known tag, and the
codec gives what the rule writes a name. -/
structure Installation.Kept (codecs : Codecs) (installation : Installation) (codec : Codec)
    (encodedName : String) : Prop where
  identified : Text.isBlank installation.attributeId = false
  known : installation.codec = .ready codec ∨
    ∃ tag, installation.codec = .tagged tag ∧ codecs.get? tag = some codec
  named : codec.encodedName? installation.rule = some encodedName

/-- A rule with its codec, for the id of its attribute without the space around it. -/
def Installation.bind (installation : Installation) (codec : Codec) : InstalledRule :=
  ⟨codec, installation.rule.install (Text.trim installation.attributeId)⟩

/-- A codec is either given itself or looked up under a tag. -/
theorem CodecRef.resolve?_eq_some_iff {ref : CodecRef} {codecs : Codecs} {codec : Codec} :
    ref.resolve? codecs = some codec ↔
      ref = .ready codec ∨ ∃ tag, ref = .tagged tag ∧ codecs.get? tag = some codec := by
  cases ref with
  | ready own => simp [resolve?]
  | tagged tag => simp [resolve?]

/-- An installation that is kept is posted with its codec and its encoded name. -/
theorem Installation.Kept.post?_eq {codecs : Codecs} {installation : Installation} {codec : Codec}
    {encodedName : String} (kept : installation.Kept codecs codec encodedName) :
    installation.post? codecs = some ⟨encodedName, installation.bind codec⟩ := by
  have identified : Text.trim installation.attributeId ≠ "" := by
    intro unnamed
    cases kept.identified.symm.trans (Text.trim_eq_empty_iff.mp unnamed)
  have resolved := CodecRef.resolve?_eq_some_iff.mpr kept.known
  unfold post?
  rw [if_neg identified, resolved, Option.bind_eq_bind, Option.bind_some, kept.named]
  rfl

/-- Only an installation that is kept is posted. -/
theorem Installation.kept_of_post? {codecs : Codecs} {installation : Installation}
    {posting : Posting} (posted : installation.post? codecs = some posting) :
    installation.Kept codecs posting.installed.codec posting.encodedName ∧
      posting.installed = installation.bind posting.installed.codec := by
  unfold post? at posted
  by_cases unnamed : Text.trim installation.attributeId = ""
  · rw [if_pos unnamed] at posted
    cases posted
  · rw [if_neg unnamed] at posted
    obtain ⟨codec, resolved, posted⟩ := Option.bind_eq_some_iff.mp posted
    obtain ⟨encodedName, named, posted⟩ := Option.bind_eq_some_iff.mp posted
    cases posted
    refine ⟨⟨?_, CodecRef.resolve?_eq_some_iff.mp resolved, named⟩, rfl⟩
    apply Bool.eq_false_iff.mpr
    intro blank
    exact unnamed (Text.trim_eq_empty_iff.mpr blank)

/-- A rule is kept with the name that its codec gives it, for an attribute that has an id. -/
theorem Installation.post?_eq_some {codecs : Codecs} {installation : Installation}
    {posting : Posting} (posted : installation.post? codecs = some posting) :
    Text.isBlank posting.installed.rule.attributeId = false ∧
      ∃ rule attributeId, posting.installed.rule = rule.install attributeId ∧
        posting.installed.codec.encodedName? rule = some posting.encodedName := by
  obtain ⟨kept, bound⟩ := kept_of_post? posted
  have own := congrArg InstalledRule.rule bound
  refine ⟨?_, installation.rule, Text.trim installation.attributeId, own, kept.named⟩
  apply Bool.eq_false_iff.mpr
  intro blank
  rw [own] at blank
  have unnamed : Text.trim installation.attributeId = "" := Text.trim_eq_empty_of_isBlank blank
  cases kept.identified.symm.trans (Text.trim_eq_empty_iff.mp unnamed)

/-- The rules that a plan keeps, in the order of installation. -/
def RegistryPlan.postings (plan : RegistryPlan) : List Posting :=
  plan.installations.filterMap (Installation.post? plan.codecs)

/-! ## Known codecs -/

/-- One of the known codecs. -/
inductive Codec.IsStandard : Codec → Prop
  | saml2 (values : SamlValueCodec) : IsStandard (.saml2 values)
  | saml1 (values : SamlValueCodec) : IsStandard (.saml1 values)
  | claim : IsStandard .claim

theorem Codecs.entries_standard : Codecs.standard.entries = [
    ("oidc_string", .claim), ("saml1_string", .saml1 .plain), ("saml2_base64", .saml2 .base64),
    ("saml2_scoped", .saml2 .withScope), ("saml2_string", .saml2 .plain)] := by
  rfl

/-- The codecs that tags name are five. -/
theorem eq_of_get?_standard {tag : String} {codec : Codec}
    (found : Codecs.standard.get? tag = some codec) :
    codec = .claim ∨ codec = .saml1 .plain ∨ codec = .saml2 .base64 ∨ codec = .saml2 .withScope ∨
      codec = .saml2 .plain := by
  have member := (KeyMap.mem_entries_iff Codecs.standard tag codec).mpr found
  rw [Codecs.entries_standard] at member
  simp only [List.mem_cons, Prod.mk.injEq, List.not_mem_nil, or_false] at member
  exact member.imp And.right (.imp And.right (.imp And.right (.imp And.right And.right)))

/-- A codec that is found in the library is of one of the known forms. -/
theorem isStandard_of_get?_standard {tag : String} {codec : Codec}
    (found : Codecs.standard.get? tag = some codec) : codec.IsStandard := by
  rcases eq_of_get?_standard found with rfl | rfl | rfl | rfl | rfl
  · exact .claim
  · exact .saml1 _
  · exact .saml2 _
  · exact .saml2 _
  · exact .saml2 _

/-- A plan with the known codecs and the known naming, and without codecs of its own. -/
structure RegistryPlan.IsStandard (plan : RegistryPlan) : Prop where
  codecs : plan.codecs = .standard
  naming : plan.naming = .standard
  ready : ∀ installation ∈ plan.installations, ∀ codec, installation.codec = .ready codec →
    codec.IsStandard

/-- In a standard plan each rule that is posted has a codec of the library. -/
theorem RegistryPlan.IsStandard.codec_of_mem {plan : RegistryPlan} (standard : plan.IsStandard)
    {posting : Posting} (posted : posting ∈ plan.postings) :
    posting.installed.codec.IsStandard := by
  obtain ⟨installation, member, post⟩ := List.mem_filterMap.mp posted
  obtain ⟨kept, -⟩ := Installation.kept_of_post? post
  rcases kept.known with ready | ⟨tag, -, found⟩
  · exact standard.ready installation member _ ready
  · rw [standard.codecs] at found
    exact isStandard_of_get?_standard found

/-- The name of what a known codec writes does not depend on the attribute that a rule is for. -/
theorem Codec.IsStandard.encodedName?_install {codec : Codec} (standard : codec.IsStandard)
    (rule : Rule) (attributeId : String) :
    codec.encodedName? (rule.install attributeId) = codec.encodedName? rule := by
  cases standard <;> rfl

/-- With a known codec, a rule still has the name that it is kept with once it is installed. -/
theorem Codec.IsStandard.encodedName?_installed {plan : RegistryPlan} {posting : Posting}
    (standard : posting.installed.codec.IsStandard) (posted : posting ∈ plan.postings) :
    posting.installed.codec.encodedName? posting.installed.rule = some posting.encodedName := by
  obtain ⟨installation, -, post⟩ := List.mem_filterMap.mp posted
  obtain ⟨-, rule, attributeId, bound, named⟩ := Installation.post?_eq_some post
  rw [bound, standard.encodedName?_install, named]

/-! ## Rules by key -/

/-- A rule as it is filed under a name. -/
def InstalledRule.filedUnder (installed : InstalledRule) (name key : String) (type : TypeTag) :
    List InstalledRule :=
  if name = key ∧ installed.codec.encodedType = type then [installed] else []

/-- The rule of a posting as it is filed under the id of its attribute and under its name. -/
def Posting.filed (key : String) (type : TypeTag) (posting : Posting) : List InstalledRule :=
  posting.installed.filedUnder posting.installed.rule.attributeId key type ++
    posting.installed.filedUnder posting.encodedName key type

/-- A rule is filed under one key for the representation of its codec. -/
theorem InstalledRule.mem_filedUnder_iff {installed other : InstalledRule} {name key : String}
    {type : TypeTag} :
    other ∈ installed.filedUnder name key type ↔
      installed = other ∧ name = key ∧ installed.codec.encodedType = type := by
  unfold filedUnder
  split
  · rename_i filed
    simp [filed, eq_comm]
  · rename_i unfiled
    simp [unfiled]

/-- A posted rule is found under its attribute id and under its encoded name, for the representation
of its codec only. -/
theorem Posting.mem_filed_iff {key : String} {type : TypeTag} {posting : Posting}
    {installed : InstalledRule} :
    installed ∈ posting.filed key type ↔ posting.installed = installed ∧
      (installed.rule.attributeId = key ∨ posting.encodedName = key) ∧
        installed.codec.encodedType = type := by
  rw [filed, List.mem_append, InstalledRule.mem_filedUnder_iff, InstalledRule.mem_filedUnder_iff]
  constructor
  · rintro (⟨rfl, named, typed⟩ | ⟨rfl, named, typed⟩)
    · exact ⟨rfl, .inl named, typed⟩
    · exact ⟨rfl, .inr named, typed⟩
  · rintro ⟨rfl, named | named, typed⟩
    · exact .inl ⟨rfl, named, typed⟩
    · exact .inr ⟨rfl, named, typed⟩

namespace RuleIndex

/-- Filing a rule adds it behind those that are found under the same key, and changes nothing
elsewhere. -/
theorem rulesFor_addUnder (index : RuleIndex) (name key : String) (type : TypeTag)
    (installed : InstalledRule) :
    (index.addUnder name installed).rulesFor key type =
      index.rulesFor key type ++ installed.filedUnder name key type := by
  by_cases sameKey : name = key
  · subst sameKey
    by_cases sameType : installed.codec.encodedType = type
    · subst sameType
      simp [addUnder, rulesFor, InstalledRule.filedUnder, KeyMap.get?_insert]
    · have unfiled : installed.filedUnder name name type = [] := by
        simp [InstalledRule.filedUnder, sameType]
      rw [unfiled, List.append_nil]
      cases found : index.get? name with
      | none =>
          have empty : (∅ : KeyMap (List InstalledRule)).get? type = none := rfl
          simp [addUnder, rulesFor, KeyMap.get?_insert, sameType, found, empty]
      | some byType => simp [addUnder, rulesFor, KeyMap.get?_insert, sameType, found]
  · have unfiled : installed.filedUnder name key type = [] := by
      simp [InstalledRule.filedUnder, sameKey]
    rw [unfiled, List.append_nil]
    simp [addUnder, rulesFor, KeyMap.get?_insert, sameKey]

theorem rulesFor_add (index : RuleIndex) (posting : Posting) (key : String) (type : TypeTag) :
    (index.add posting).rulesFor key type = index.rulesFor key type ++ posting.filed key type := by
  rw [add, rulesFor_addUnder, rulesFor_addUnder, List.append_assoc]
  rfl

theorem rulesFor_foldl_add (postings : List Posting) (index : RuleIndex) (key : String)
    (type : TypeTag) :
    (postings.foldl add index).rulesFor key type =
      index.rulesFor key type ++ postings.flatMap (Posting.filed key type) := by
  induction postings generalizing index with
  | nil => exact (List.append_nil _).symm
  | cons posting rest ih =>
      rw [List.foldl_cons, ih, rulesFor_add, List.flatMap_cons, List.append_assoc]

end RuleIndex

/-- Under a key the index holds the rules that are filed there. -/
theorem rulesFor_build (plan : RegistryPlan) (key : String) (type : TypeTag) :
    plan.build.index.rulesFor key type = plan.postings.flatMap (Posting.filed key type) :=
  RuleIndex.rulesFor_foldl_add plan.postings ∅ key type

/-- A built registry finds under a key exactly the posted rules with that attribute id or encoded
name, for the representation of their codec. -/
theorem mem_rulesFor_build_iff {plan : RegistryPlan} {key : String} {type : TypeTag}
    {installed : InstalledRule} :
    installed ∈ plan.build.index.rulesFor key type ↔
      ∃ posting ∈ plan.postings, posting.installed = installed ∧
        (installed.rule.attributeId = key ∨ posting.encodedName = key) ∧
          installed.codec.encodedType = type := by
  simp only [rulesFor_build, List.mem_flatMap, Posting.mem_filed_iff]

/-! ## Rules that are applied -/

/-- Applying a rule gives a result only if the rule is active and its codec succeeds. -/
theorem applied_eq_some_iff {ε ω : Type} {active : Bool} {outcome : Except ε (Option ω)}
    {result : ω} :
    (if active = true then outcome.toOption.join else none) = some result ↔
      active = true ∧ outcome = .ok (some result) := by
  by_cases holds : active = true
  · rw [if_pos holds, and_iff_right holds]
    cases outcome with
    | error error => simp [Except.toOption]
    | ok outcome => simp [Except.toOption]
  · rw [if_neg holds]
    simp [holds]

namespace Registry

variable {request : Request} {installed : InstalledRule} {attr : Attribute} {wire : Wire}

theorem encodeWith?_eq_some_iff :
    encodeWith? request attr installed = some wire ↔
      installed.rule.isActive request = true ∧
        installed.codec.encode request attr installed.rule = .ok (some wire) :=
  applied_eq_some_iff

theorem decodeWith?_eq_some_iff :
    decodeWith? request wire installed = some attr ↔
      installed.rule.isActive request = true ∧
        installed.codec.decode request wire installed.rule = .ok (some attr) :=
  applied_eq_some_iff

end Registry

/-! ## Calls of `install` -/

/-- A call of `install`: an id and the rules for it. -/
abbrev InstallCall := String × List (CodecRef × Rule)

/-- The plan after calls of `install`. -/
def RegistryPlan.installAll (plan : RegistryPlan) (calls : List InstallCall) : RegistryPlan :=
  calls.foldl (fun plan (attributeId, rules) => plan.install attributeId rules) plan

/-- The rules of a call, each for the id of the call. -/
def InstallCall.installations : InstallCall → List Installation
  | (attributeId, rules) => rules.map fun (codec, rule) => ⟨attributeId, codec, rule⟩

/-- Calls of `install` add their rules in order and change nothing else. -/
theorem RegistryPlan.installAll_eq (plan : RegistryPlan) (calls : List InstallCall) :
    plan.installAll calls = { plan with
      installations := plan.installations ++ calls.flatMap InstallCall.installations } := by
  induction calls generalizing plan with
  | nil =>
      rw [List.flatMap_nil, List.append_nil]
      rfl
  | cons call rest ih =>
      unfold installAll at ih ⊢
      rw [List.foldl_cons, ih, List.flatMap_cons, ← List.append_assoc]
      rfl

/-- What installations file under a key for a representation. One that is kept files its rule for
the id of its attribute and once more for the name of what it writes, as far as these are the key;
one that is not kept files nothing. -/
inductive Files (codecs : Codecs) (key : String) (type : TypeTag) :
    List Installation → List InstalledRule → Prop
  | nil : Files codecs key type [] []
  | kept {installation : Installation} {codec : Codec} {encodedName : String}
      {rest : List Installation} {rules : List InstalledRule}
      (kept : installation.Kept codecs codec encodedName)
      (others : Files codecs key type rest rules) :
      Files codecs key type (installation :: rest)
        ((installation.bind codec).filedUnder (Text.trim installation.attributeId) key type ++
          (installation.bind codec).filedUnder encodedName key type ++ rules)
  | dropped {installation : Installation} {rest : List Installation} {rules : List InstalledRule}
      (dropped : ∀ codec encodedName, ¬ installation.Kept codecs codec encodedName)
      (others : Files codecs key type rest rules) :
      Files codecs key type (installation :: rest) rules

/-- What a list of installations files under a key is what their postings file there. -/
theorem files_postings (codecs : Codecs) (key : String) (type : TypeTag)
    (installations : List Installation) :
    Files codecs key type installations
      ((installations.filterMap (Installation.post? codecs)).flatMap (Posting.filed key type)) := by
  induction installations with
  | nil => exact .nil
  | cons installation rest ih =>
      cases posted : installation.post? codecs with
      | none =>
          rw [List.filterMap_cons_none posted]
          refine .dropped (fun codec encodedName kept => ?_) ih
          cases posted.symm.trans kept.post?_eq
      | some posting =>
          obtain ⟨kept, bound⟩ := Installation.kept_of_post? posted
          rw [List.filterMap_cons_some posted, List.flatMap_cons, Posting.filed, bound]
          exact .kept kept ih

namespace Installation.Kept

variable {plan : RegistryPlan} {installation : Installation} {codec : Codec}
  {encodedName : String} {type : TypeTag}

/-- Under the keys for which it is filed, a rule that is kept stands with the representation that
it writes and with no other. -/
theorem mem_rulesFor_iff {key : String} (kept : installation.Kept plan.codecs codec encodedName)
    (installed : installation ∈ plan.installations)
    (filed : Text.trim installation.attributeId = key ∨ encodedName = key) :
    installation.bind codec ∈ plan.build.index.rulesFor key type ↔ codec.encodedType = type := by
  rw [mem_rulesFor_build_iff]
  constructor
  · rintro ⟨posting, -, -, -, typed⟩
    exact typed
  · intro typed
    have posted := List.mem_filterMap.mpr ⟨installation, installed, kept.post?_eq⟩
    exact ⟨⟨encodedName, installation.bind codec⟩, posted, rfl, filed, typed⟩

/-- A kept installation is found by its attribute id exactly for the representation of its codec. -/
theorem mem_lookup_iff {target : TypeTag} (kept : installation.Kept plan.codecs codec encodedName)
    (installed : installation ∈ plan.installations)
    (effective : plan.naming.effectiveType? target = some type) :
    installation.bind codec ∈ plan.build.lookup (Text.trim installation.attributeId) target ↔
      codec.encodedType = type := by
  have found : plan.build.naming.effectiveType? target = some type := effective
  unfold Registry.lookup
  rw [found]
  exact kept.mem_rulesFor_iff installed (.inl rfl)

/-- A kept installation is found by its encoded name exactly for the representation of its codec. -/
theorem mem_lookupWire_iff {wire : Wire} (kept : installation.Kept plan.codecs codec encodedName)
    (installed : installation ∈ plan.installations)
    (named : plan.naming.canonicalName? wire = some (type, encodedName)) :
    installation.bind codec ∈ plan.build.lookupWire wire ↔ codec.encodedType = type := by
  have found : plan.build.naming.canonicalName? wire = some (type, encodedName) := named
  unfold Registry.lookupWire
  rw [found]
  exact kept.mem_rulesFor_iff installed (.inr rfl)

/-- A rule that is kept is found by the id of its attribute just when it is found by an attribute on
the wire with its name, namely when it writes the representation in question. -/
theorem found_both_ways {target : TypeTag} {wire : Wire}
    (kept : installation.Kept plan.codecs codec encodedName)
    (installed : installation ∈ plan.installations)
    (effective : plan.naming.effectiveType? target = some type)
    (named : plan.naming.canonicalName? wire = some (type, encodedName)) :
    (installation.bind codec ∈ plan.build.lookup (Text.trim installation.attributeId) target ↔
        installation.bind codec ∈ plan.build.lookupWire wire) ∧
      (installation.bind codec ∈ plan.build.lookupWire wire ↔ codec.encodedType = type) := by
  have byId := kept.mem_lookup_iff installed effective
  have byName := kept.mem_lookupWire_iff installed named
  exact ⟨byId.trans byName.symm, byName⟩

end Installation.Kept

/-- After any calls of `install`, the index holds under each key what the calls file there, in their
order. A rule that is kept is found by the id of its attribute just when it is found by an attribute
on the wire with its name, namely when it writes the representation in question. -/
theorem installAll_files (plan : RegistryPlan) (calls : List InstallCall) (key : String)
    (type : TypeTag) :
    Files plan.codecs key type (plan.installations ++ calls.flatMap InstallCall.installations)
        ((plan.installAll calls).build.index.rulesFor key type) ∧
      ∀ installation ∈ plan.installations ++ calls.flatMap InstallCall.installations,
        ∀ codec encodedName, installation.Kept plan.codecs codec encodedName → ∀ target wire,
          plan.naming.effectiveType? target = some type →
          plan.naming.canonicalName? wire = some (type, encodedName) →
          (installation.bind codec ∈
              (plan.installAll calls).build.lookup (Text.trim installation.attributeId) target ↔
            installation.bind codec ∈ (plan.installAll calls).build.lookupWire wire) ∧
          (installation.bind codec ∈ (plan.installAll calls).build.lookupWire wire ↔
            codec.encodedType = type) := by
  rw [RegistryPlan.installAll_eq]
  constructor
  · rw [rulesFor_build]
    exact files_postings plan.codecs key type _
  · intro installation member codec encodedName kept target wire effective named
    exact Installation.Kept.found_both_ways kept member effective named

/-- Calls in turn for two attributes, one of which has the id that the rules of the other file for
their names. A rule without a name, one whose codec is unknown and one for a blank id are among
them. -/
def mailCalls : List InstallCall := [
  ("mail", [(.tagged "oidc_string", { name := some "email" }), (.tagged "ldap", {})]),
  ("OIDC:email", [(.tagged "oidc_string", { name := some "email" })]),
  (" ", [(.tagged "oidc_string", { name := some "email" })]),
  (" mail ", [(.ready .claim, {}), (.ready .claim, { name := some "email", asArray := true })])]

/-- The last of these rules as it is installed. -/
def mailList : Installation :=
  ⟨" mail ", .ready .claim, { name := some "email", asArray := true }⟩

def emailClaim : Wire := .claim ⟨"email", .string "jsmith@example.org"⟩

theorem installAll_files_mail :
    Files .standard "OIDC:email" TypeTag.claim (mailCalls.flatMap InstallCall.installations) [
        ⟨.claim, { attributeId := "mail", name := some "email" }⟩,
        ⟨.claim, { attributeId := "OIDC:email", name := some "email" }⟩,
        ⟨.claim, { attributeId := "OIDC:email", name := some "email" }⟩,
        ⟨.claim, { attributeId := "mail", name := some "email", asArray := true }⟩] ∧
      mailList.bind .claim ∈
        (RegistryPlan.installAll {} mailCalls).build.lookup "mail" TypeTag.claim ∧
      mailList.bind .claim ∈
        (RegistryPlan.installAll {} mailCalls).build.lookupWire emailClaim := by
  obtain ⟨files, found⟩ := installAll_files {} mailCalls "OIDC:email" TypeTag.claim
  have member : mailList ∈ mailCalls.flatMap InstallCall.installations :=
    List.mem_of_getLast? rfl
  have kept : mailList.Kept .standard .claim "OIDC:email" := ⟨by decide, .inl rfl, rfl⟩
  obtain ⟨sameWays, typed⟩ :=
    found mailList member .claim "OIDC:email" kept TypeTag.claim emailClaim rfl rfl
  have read := typed.mpr rfl
  exact ⟨files, sameWays.mpr read, read⟩

end AttributeRelease.Transcoding
