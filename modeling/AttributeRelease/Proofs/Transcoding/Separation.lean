import AttributeRelease.Proofs.Text.Marks
import AttributeRelease.Proofs.Transcoding.RoundTrip
import Mathlib.Data.List.Perm.Basic

/-!
# How far names keep attributes apart

Ids and canonical names are keys of one index, and the parts of a canonical name stand in one text
with a mark between them. So two things can go wrong. A rule may be found by an id that is not that
of its attribute, or twice by one that is, just when the name of what it writes is that id
(`lookup_eq_rulesOf_iff`). And it may be found by an attribute on the wire that it does not
describe, when the canonical name of that is the id of its own attribute or can be taken apart in
two ways (`mem_lookupWire_iff_describes`).
-/

namespace AttributeRelease.Transcoding

/-! ## By id -/

/-- In a standard plan an external object has its standard name for its own representation. -/
theorem RegistryPlan.IsStandard.canonicalName?_eq {plan : RegistryPlan}
    (standard : plan.IsStandard) (wire : Wire) :
    plan.naming.canonicalName? wire = wire.standardName?.map (wire.tag, ·) := by
  rw [standard.naming, canonicalName?_standard]

/-- What a known codec names is the name of some attribute in its representation. -/
theorem Codec.IsStandard.exists_wire {codec : Codec} {rule : Rule} {name : String}
    (standard : codec.IsStandard) (named : codec.encodedName? rule = some name) :
    ∃ wire : Wire, wire.tag = codec.encodedType ∧ wire.standardName? = some name := by
  cases standard with
  | saml2 values =>
      obtain ⟨own, -, rfl⟩ := Option.map_eq_some_iff.mp named
      exact ⟨.saml2 { name := own, nameFormat := some (saml2NameFormat rule) }, rfl, rfl⟩
  | saml1 values =>
      obtain ⟨own, -, rfl⟩ := Option.map_eq_some_iff.mp named
      exact ⟨.saml1 { name := own, nameSpace := saml1Namespace rule }, rfl, rfl⟩
  | claim =>
      obtain ⟨own, -, rfl⟩ := Option.map_eq_some_iff.mp named
      exact ⟨.claim ⟨own, .null⟩, rfl, rfl⟩

namespace RegistryPlan

/-- The rules for a representation that were installed for an id, one for each installation. -/
def rulesOf (plan : RegistryPlan) (attributeId : String) (type : TypeTag) : List InstalledRule :=
  plan.postings.flatMap fun posting =>
    posting.installed.filedUnder posting.installed.rule.attributeId attributeId type

/-- The rules for a representation that write something of a name, one for each installation. -/
def rulesNamed (plan : RegistryPlan) (name : String) (type : TypeTag) : List InstalledRule :=
  plan.postings.flatMap fun posting => posting.installed.filedUnder posting.encodedName name type

/-- What is found under a key was filed there as an attribute id or as an encoded name. -/
theorem rulesFor_perm (plan : RegistryPlan) (key : String) (type : TypeTag) :
    (plan.build.index.rulesFor key type).Perm
      (plan.rulesOf key type ++ plan.rulesNamed key type) := by
  rw [rulesFor_build]
  exact (List.flatMap_append_perm _ _ _).symm

/-- Under an id there are only the rules for that id, each once, just when no rule has a name that
is the same text. -/
theorem rulesFor_eq_rulesOf_iff (plan : RegistryPlan) (key : String) (type : TypeTag) :
    plan.build.index.rulesFor key type = plan.rulesOf key type ↔ plan.rulesNamed key type = [] := by
  constructor
  · intro same
    -- each rule that is filed for its name makes the answer longer by one
    have counted := (plan.rulesFor_perm key type).length_eq
    rw [same, List.length_append] at counted
    apply List.length_eq_zero_iff.mp
    omega
  · intro unnamed
    rw [rulesFor_build]
    apply List.flatMap_congr
    intro posting posted
    have nothing := List.flatMap_eq_nil_iff.mp unnamed posting posted
    rw [Posting.filed, nothing, List.append_nil]

/-- No rule is filed under a name that no external object has. -/
theorem rulesNamed_eq_nil {plan : RegistryPlan} (standard : plan.IsStandard) {name : String}
    {type : TypeTag} (unused : ∀ wire, plan.naming.canonicalName? wire ≠ some (type, name)) :
    plan.rulesNamed name type = [] := by
  apply List.flatMap_eq_nil_iff.mpr
  intro posting posted
  apply if_neg
  rintro ⟨named, typed⟩
  have known := standard.codec_of_mem posted
  obtain ⟨wire, tagged, wireNamed⟩ := known.exists_wire (known.encodedName?_installed posted)
  apply unused wire
  rw [standard.canonicalName?_eq, wireNamed, tagged, named, typed, Option.map_some]

end RegistryPlan

/-- Looking up an id for a representation gives the rules for that id, and beside them those whose
name is the same text. So it gives the rules for the id alone and each once just when there are no
others, as with the known codecs and the known naming if nothing in the representation has the id
for its name. -/
theorem lookup_eq_rulesOf_iff (plan : RegistryPlan) (attributeId : String) (target : TypeTag) :
    (plan.naming.effectiveType? target = none → plan.build.lookup attributeId target = []) ∧
      ∀ type, plan.naming.effectiveType? target = some type →
        (plan.build.lookup attributeId target).Perm
            (plan.rulesOf attributeId type ++ plan.rulesNamed attributeId type) ∧
          (plan.build.lookup attributeId target = plan.rulesOf attributeId type ↔
            plan.rulesNamed attributeId type = []) ∧
          (plan.IsStandard →
            (∀ wire, plan.naming.canonicalName? wire ≠ some (type, attributeId)) →
            plan.build.lookup attributeId target = plan.rulesOf attributeId type) := by
  constructor
  · intro unsupported
    have unknown : plan.build.naming.effectiveType? target = none := unsupported
    rw [Registry.lookup, unknown]
  · intro type effective
    have known : plan.build.naming.effectiveType? target = some type := effective
    rw [Registry.lookup, known]
    have alone := plan.rulesFor_eq_rulesOf_iff attributeId type
    refine ⟨plan.rulesFor_perm attributeId type, alone, fun standard unused => ?_⟩
    exact alone.mpr (RegistryPlan.rulesNamed_eq_nil standard unused)

/-- The canonical names in the known representations begin with the names of the protocols. -/
theorem standardName?_begins {wire : Wire} {name : String}
    (wireNamed : wire.standardName? = some name) :
    "SAML2:".toList <+: name.toList ∨ "SAML1:".toList <+: name.toList ∨
      "OIDC:".toList <+: name.toList := by
  cases wire with
  | saml2 attr =>
      cases wireNamed
      left
      simp only [saml2Name, String.toList_append, List.append_assoc]
      exact List.prefix_append _ _
  | saml1 attr =>
      cases wireNamed
      right; left
      simp only [saml1Name, String.toList_append, List.append_assoc]
      exact List.prefix_append _ _
  | claim item =>
      cases wireNamed
      right; right
      simp only [claimName, String.toList_append]
      exact List.prefix_append _ _
  | foreign tag own => cases wireNamed

/-- Rules for ids that read like names of claims, and one whose name has the mark in it. -/
def clashPlan : RegistryPlan where
  installations := [
    ⟨"uid", .tagged "oidc_string", { name := some "mail" }⟩,
    ⟨"OIDC:mail", .tagged "oidc_string", { name := some "uid" }⟩,
    ⟨"OIDC:sn", .tagged "oidc_string", { name := some "sn" }⟩,
    ⟨"affiliation", .tagged "saml2_string", { name := some "a|b", nameFormat := some "c" }⟩]

/-- The rule that writes the claim `mail`. -/
def uidAsMail : InstalledRule := ⟨.claim, { attributeId := "uid", name := some "mail" }⟩

/-- The rule for the attribute whose id is the name of that claim. -/
def mailAsUid : InstalledRule := ⟨.claim, { attributeId := "OIDC:mail", name := some "uid" }⟩

/-- The rule for an attribute whose id is the name of its own claim. -/
def snAsSn : InstalledRule := ⟨.claim, { attributeId := "OIDC:sn", name := some "sn" }⟩

theorem clashPlan_isStandard : clashPlan.IsStandard where
  codecs := rfl
  naming := rfl
  ready := by
    intro installation member codec ready
    simp only [clashPlan, List.mem_cons, List.not_mem_nil, or_false] at member
    rcases member with rfl | rfl | rfl | rfl <;> cases ready

/-- No external object has a name that reads like `uid`, so by this id only its own rule is
found. -/
theorem lookup_eq_rulesOf_iff_uid :
    clashPlan.build.lookup "uid" TypeTag.claim = clashPlan.rulesOf "uid" TypeTag.claim ∧
      clashPlan.rulesOf "uid" TypeTag.claim = [uidAsMail] := by
  obtain ⟨-, supported⟩ := lookup_eq_rulesOf_iff clashPlan "uid" TypeTag.claim
  obtain ⟨-, -, alone⟩ := supported TypeTag.claim rfl
  refine ⟨alone clashPlan_isStandard ?_, rfl⟩
  intro wire named
  rw [clashPlan_isStandard.canonicalName?_eq] at named
  obtain ⟨name, wireNamed, same⟩ := Option.map_eq_some_iff.mp named
  rw [(Prod.mk.inj same).2] at wireNamed
  exact absurd (standardName?_begins wireNamed) (by decide)

/-- An id that reads like the name of a claim finds the rule for another attribute, whose claim is
then written too, and an id that is the name of its own claim finds its one rule twice. -/
theorem lookup_finds_others_and_repeats :
    clashPlan.IsStandard ∧
      clashPlan.build.lookup "OIDC:mail" TypeTag.claim = [uidAsMail, mailAsUid] ∧
      uidAsMail.rule.attributeId ≠ "OIDC:mail" ∧
      clashPlan.build.encode {} { id := "OIDC:mail", values := [.text "x"] } TypeTag.claim =
        [.claim ⟨"mail", .string "x"⟩, .claim ⟨"uid", .string "x"⟩] ∧
      clashPlan.rulesOf "OIDC:sn" TypeTag.claim = [snAsSn] ∧
      clashPlan.build.lookup "OIDC:sn" TypeTag.claim = [snAsSn, snAsSn] ∧
      clashPlan.build.encode {} { id := "OIDC:sn", values := [.text "x"] } TypeTag.claim =
        [.claim ⟨"sn", .string "x"⟩, .claim ⟨"sn", .string "x"⟩] :=
  ⟨clashPlan_isStandard, rfl, by decide, rfl, rfl, rfl, rfl⟩

/-! ## By name -/

/-- Two different pairs of texts that are the same once they are joined by the mark: what is the
first text of one goes on behind a mark in the other. -/
def Confusable (name format other behind : String) : Prop :=
  ∃ between, (other = name ++ "|" ++ between ∧ format = between ++ "|" ++ behind) ∨
    (name = other ++ "|" ++ between ∧ behind = between ++ "|" ++ format)

/-- Names are confused with formats when one name goes on where the other ends. -/
theorem confusable_iff {name format other behind : String} :
    Confusable name format other behind ↔
      Text.GoesOn "|" name format other behind ∨ Text.GoesOn "|" other behind name format :=
  exists_or

/-- Joined names are the same exactly if their parts are or can be confused. -/
theorem prefixed_eq_iff (protocol : String) {name format other behind : String} :
    protocol ++ name ++ "|" ++ format = protocol ++ other ++ "|" ++ behind ↔
      (name = other ∧ format = behind) ∨ Confusable name format other behind := by
  rw [confusable_iff, ← Text.joined_eq_iff (show "|".toList = ['|'] from rfl)]
  simp only [String.append_assoc]
  exact String.append_right_inj protocol

theorem saml2Name_eq_iff {name format other behind : String} :
    saml2Name name format = saml2Name other behind ↔
      (name = other ∧ format = behind) ∨ Confusable name format other behind :=
  prefixed_eq_iff "SAML2:"

theorem saml1Name_eq_iff {name format other behind : String} :
    saml1Name name format = saml1Name other behind ↔
      (name = other ∧ format = behind) ∨ Confusable name format other behind :=
  prefixed_eq_iff "SAML1:"

/-- The name of a claim has one part only, so it is never confused. -/
theorem claimName_eq_iff {name other : String} : claimName name = claimName other ↔ name = other :=
  String.append_right_inj _

/-- The rule is for an attribute on the wire: it has the name and the format or namespace of that,
where what either leaves out counts as the known one for it. -/
def Rule.Describes (rule : Rule) : Wire → Prop
  | .saml2 attr => rule.name = some attr.name ∧
      Codec.saml2NameFormat rule = attr.nameFormat.getD unspecifiedNameFormat
  | .saml1 attr => rule.name = some attr.name ∧ Codec.saml1Namespace rule = attr.nameSpace
  | .claim item => rule.name = some item.name
  | .foreign _ _ => False

/-- The name and the format or namespace of a rule are not those of an attribute on the wire, but
are joined to the same text. -/
def Rule.ConfusedWith (rule : Rule) : Wire → Prop
  | .saml2 attr => ∃ name, rule.name = some name ∧
      Confusable name (Codec.saml2NameFormat rule) attr.name
        (attr.nameFormat.getD unspecifiedNameFormat)
  | .saml1 attr => ∃ name, rule.name = some name ∧
      Confusable name (Codec.saml1Namespace rule) attr.name attr.nameSpace
  | .claim _ => False
  | .foreign _ _ => False

/-- The mark stands in none of the texts that a rule gives for a canonical name. -/
structure Rule.Unmarked (rule : Rule) : Prop where
  name : ∀ name, rule.name = some name → '|' ∉ name.toList
  nameFormat : '|' ∉ (Codec.saml2NameFormat rule).toList
  nameSpace : '|' ∉ (Codec.saml1Namespace rule).toList

/-- Names are confused only if the mark between the parts stands in one of them. -/
theorem Confusable.marked {name format other behind : String}
    (confusable : Confusable name format other behind) :
    '|' ∈ name.toList ∨ '|' ∈ format.toList := by
  rcases confusable_iff.mp confusable with goesOn | goesOn
  · exact .inr (goesOn.marked rfl).2
  · exact .inl (goesOn.marked rfl).1

/-- A rule without the mark in its texts is not confused with anything. -/
theorem Rule.Unmarked.not_confusedWith {rule : Rule} (unmarked : rule.Unmarked) (wire : Wire) :
    ¬ rule.ConfusedWith wire := by
  intro confused
  cases wire with
  | saml2 attr =>
      obtain ⟨name, named, confusable⟩ := confused
      rcases confusable.marked with inName | inFormat
      · exact unmarked.name name named inName
      · exact unmarked.nameFormat inFormat
  | saml1 attr =>
      obtain ⟨name, named, confusable⟩ := confused
      rcases confusable.marked with inName | inFormat
      · exact unmarked.name name named inName
      · exact unmarked.nameSpace inFormat
  | claim item => exact confused
  | foreign tag name => exact confused

/-- A known codec gives what a rule writes the name of an attribute on the wire just when the rule
describes that attribute or is confused with it. -/
theorem Codec.IsStandard.encodedName?_eq_some_iff {codec : Codec} {rule : Rule} {wire : Wire}
    {name : String} (standard : codec.IsStandard) (tagged : codec.encodedType = wire.tag)
    (wireNamed : wire.standardName? = some name) :
    codec.encodedName? rule = some name ↔ rule.Describes wire ∨ rule.ConfusedWith wire := by
  cases standard with
  | saml2 values =>
      cases wire with
      | saml2 attr =>
          cases wireNamed
          cases named : rule.name with
          | none => simp [Codec.saml2, Rule.Describes, Rule.ConfusedWith, named]
          | some own =>
              simp [Codec.saml2, Rule.Describes, Rule.ConfusedWith, named, saml2Name_eq_iff]
      | saml1 attr => exact absurd tagged (show TypeTag.saml2 ≠ TypeTag.saml1 by decide)
      | claim item => exact absurd tagged (show TypeTag.saml2 ≠ TypeTag.claim by decide)
      | foreign tag own => cases wireNamed
  | saml1 values =>
      cases wire with
      | saml2 attr => exact absurd tagged (show TypeTag.saml1 ≠ TypeTag.saml2 by decide)
      | saml1 attr =>
          cases wireNamed
          cases named : rule.name with
          | none => simp [Codec.saml1, Rule.Describes, Rule.ConfusedWith, named]
          | some own =>
              simp [Codec.saml1, Rule.Describes, Rule.ConfusedWith, named, saml1Name_eq_iff]
      | claim item => exact absurd tagged (show TypeTag.saml1 ≠ TypeTag.claim by decide)
      | foreign tag own => cases wireNamed
  | claim =>
      cases wire with
      | saml2 attr => exact absurd tagged (show TypeTag.claim ≠ TypeTag.saml2 by decide)
      | saml1 attr => exact absurd tagged (show TypeTag.claim ≠ TypeTag.saml1 by decide)
      | claim item =>
          cases wireNamed
          cases named : rule.name with
          | none => simp [Codec.claim, Rule.Describes, Rule.ConfusedWith, named]
          | some own =>
              simp [Codec.claim, Rule.Describes, Rule.ConfusedWith, named, claimName_eq_iff]
      | foreign tag own => cases wireNamed

/-- Nothing is said of an attribute on the wire that has no name. -/
theorem not_describes_of_unnamed (rule : Rule) {wire : Wire} (unnamed : wire.standardName? = none) :
    ¬ (rule.Describes wire ∨ rule.ConfusedWith wire) := by
  cases wire with
  | saml2 attr => cases unnamed
  | saml1 attr => cases unnamed
  | claim item => cases unnamed
  | foreign tag name => exact fun said => said.elim id id

/-- A posted rule is filed under the name of an external object exactly if it describes the object
or is confused with it. -/
theorem RegistryPlan.IsStandard.encodedName_eq_iff {plan : RegistryPlan}
    (standard : plan.IsStandard) {posting : Posting} {wire : Wire} {name : String}
    (posted : posting ∈ plan.postings)
    (tagged : posting.installed.codec.encodedType = wire.tag)
    (wireNamed : wire.standardName? = some name) :
    posting.encodedName = name ↔
      posting.installed.rule.Describes wire ∨ posting.installed.rule.ConfusedWith wire := by
  have known := standard.codec_of_mem posted
  rw [← known.encodedName?_eq_some_iff tagged wireNamed, known.encodedName?_installed posted,
    Option.some.injEq]

/-- An external object finds exactly the rules that describe it, that are confused with it, or whose
attribute id reads like its name. -/
theorem RegistryPlan.IsStandard.mem_lookupWire_iff {plan : RegistryPlan}
    (standard : plan.IsStandard) {wire : Wire} {installed : InstalledRule} :
    installed ∈ plan.build.lookupWire wire ↔
      installed ∈ plan.postings.map Posting.installed ∧ installed.codec.encodedType = wire.tag ∧
        (installed.rule.Describes wire ∨ installed.rule.ConfusedWith wire ∨
          wire.standardName? = some installed.rule.attributeId) := by
  have canonical : plan.build.naming.canonicalName? wire = _ := standard.canonicalName?_eq wire
  rw [Registry.lookupWire, canonical]
  cases wireNamed : wire.standardName? with
  | none =>
      have silent := not_describes_of_unnamed installed.rule wireNamed
      simp only [Option.map_none, List.not_mem_nil, reduceCtorEq, or_false, false_iff]
      exact fun said => silent said.2.2
  | some name =>
      rw [Option.map_some, mem_rulesFor_build_iff, ← or_assoc]
      constructor
      · rintro ⟨posting, posted, rfl, sameId | sameName, tagged⟩
        · exact ⟨List.mem_map_of_mem posted, tagged, .inr (congrArg some sameId.symm)⟩
        · have said := (standard.encodedName_eq_iff posted tagged wireNamed).mp sameName
          exact ⟨List.mem_map_of_mem posted, tagged, .inl said⟩
      · rintro ⟨member, tagged, said⟩
        obtain ⟨posting, posted, rfl⟩ := List.mem_map.mp member
        refine ⟨posting, posted, rfl, ?_, tagged⟩
        rcases said with said | sameId
        · exact .inr ((standard.encodedName_eq_iff posted tagged wireNamed).mpr said)
        · exact .inl (Option.some.inj sameId).symm

/-- A rule is found by an attribute on the wire, in its representation, when it describes it, but
also when it is confused with it, and when the name of that is the id of the rule's own attribute.
So what is found describes the attribute if the mark stands in none of the rule's texts and the id
is no such name. -/
theorem mem_lookupWire_iff_describes {plan : RegistryPlan} (standard : plan.IsStandard)
    (wire : Wire) (installed : InstalledRule) :
    (installed ∈ plan.build.lookupWire wire ↔
        installed ∈ plan.postings.map Posting.installed ∧
          installed.codec.encodedType = wire.tag ∧
          (installed.rule.Describes wire ∨ installed.rule.ConfusedWith wire ∨
            wire.standardName? = some installed.rule.attributeId)) ∧
      (installed ∈ plan.build.lookupWire wire → installed.rule.Unmarked →
        wire.standardName? ≠ some installed.rule.attributeId → installed.rule.Describes wire) := by
  refine ⟨standard.mem_lookupWire_iff, fun member unmarked otherId => ?_⟩
  obtain ⟨-, -, described | confused | sameId⟩ := standard.mem_lookupWire_iff.mp member
  · exact described
  · exact absurd confused (unmarked.not_confusedWith wire)
  · exact absurd sameId otherId

def mailClaim : Wire := .claim ⟨"mail", .string "x"⟩

/-- The rule that writes the claim `mail` describes it, and is found by it. -/
theorem mem_lookupWire_iff_describes_mail :
    uidAsMail ∈ clashPlan.build.lookupWire mailClaim ∧ uidAsMail.rule.Describes mailClaim := by
  obtain ⟨found, described⟩ :=
    mem_lookupWire_iff_describes clashPlan_isStandard mailClaim uidAsMail
  have member : uidAsMail ∈ clashPlan.postings.map Posting.installed := List.mem_of_mem_head? rfl
  have unmarked : uidAsMail.rule.Unmarked := by
    refine ⟨?_, by decide, by decide⟩
    intro name named
    cases named
    decide
  have foundByMail := found.mpr ⟨member, rfl, .inl rfl⟩
  exact ⟨foundByMail, described foundByMail unmarked (by decide)⟩

/-- The attribute whose name goes on as that of another rule does. -/
def splitName : Wire := .saml2 { name := "a", nameFormat := some "b|c" }

/-- The rule with the mark in its name. -/
def markedName : InstalledRule :=
  ⟨.saml2 .plain, { attributeId := "affiliation", name := some "a|b", nameFormat := some "c" }⟩

/-- The claim `mail` finds a rule that is for the claim `uid`, which then reads it. And an attribute
finds a rule with another name and another format, which are joined to the same text. -/
theorem lookupWire_finds_undescribed :
    clashPlan.IsStandard ∧
      clashPlan.build.lookupWire mailClaim = [uidAsMail, mailAsUid] ∧
      ¬ mailAsUid.rule.Describes mailClaim ∧
      (clashPlan.build.decode {} mailClaim).map (·.id) = ["uid", "OIDC:mail"] ∧
      clashPlan.build.lookupWire splitName = [markedName] ∧
      ¬ markedName.rule.Describes splitName := by
  refine ⟨clashPlan_isStandard, rfl, ?_, rfl, rfl, ?_⟩
  · intro described
    exact absurd (Option.some.inj described) (by decide)
  · rintro ⟨named, -⟩
    exact absurd (Option.some.inj named) (by decide)

end AttributeRelease.Transcoding
