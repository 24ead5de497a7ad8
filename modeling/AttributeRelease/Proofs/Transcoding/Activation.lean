import AttributeRelease.Proofs.Transcoding.Index
import Mathlib.Data.List.Basic

/-!
# For whom rules are applied

When a rule is installed, the parties it is for become part of its condition. So an installed rule
holds for a request just when the request comes from one of these parties, if there are any, and the
condition that it had before holds (`Rule.isActive_install_iff`). In both directions a registry
gives one result for each rule that is found, meant for the request and has something to say
(`registry_applies_rules_meant`); a rule that is for other parties might as well not be there.
-/

namespace AttributeRelease.Transcoding

/-! ## Rules that are meant for a request -/

/-- A rule, as it is before it is installed, is meant for a request: it lists no parties or the one
that asks, and its condition holds if it has one. -/
structure Rule.IsFor (rule : Rule) (request : Request) : Prop where
  party : rule.relyingParties.isEmpty = true ∨
    ∃ requester, request.requester = some requester ∧ rule.relyingParties.contains requester = true
  condition : ∀ condition, rule.condition = some condition → condition request = true

/-- A rule is for other parties than the one that asks, which may be unknown. -/
structure Rule.Bars (rule : Rule) (requester : Option String) : Prop where
  restricted : rule.relyingParties.isEmpty = false
  unlisted : ∀ asking, requester = some asking → rule.relyingParties.contains asking = false

/-- A rule that bars a requester is for none of its requests. -/
theorem Rule.Bars.not_isFor {rule : Rule} {request : Request} (bars : rule.Bars request.requester) :
    ¬ rule.IsFor request := by
  rintro ⟨unrestricted | ⟨requester, asking, listed⟩, -⟩
  · cases bars.restricted.symm.trans unrestricted
  · cases (bars.unlisted requester asking).symm.trans listed

/-- A rule is active where its condition holds; without a condition it always is. -/
theorem Rule.isActive_iff {rule : Rule} {request : Request} :
    rule.isActive request = true ↔
      ∀ condition, rule.condition = some condition → condition request = true := by
  unfold isActive
  cases rule.condition with
  | none => simp
  | some condition => simp

/-- Installing a rule neither drops its condition nor the parties that it is for. -/
theorem Rule.isActive_install_iff {rule : Rule} {attributeId : String} {request : Request} :
    (rule.install attributeId).isActive request = true ↔ rule.IsFor request := by
  by_cases unrestricted : rule.relyingParties.isEmpty = true
  · have same : (rule.install attributeId).condition = rule.condition := if_pos unrestricted
    rw [isActive_iff, same]
    exact ⟨fun holds => ⟨.inl unrestricted, holds⟩, IsFor.condition⟩
  · have narrowed : (rule.install attributeId).condition = some fun request =>
        rule.isActive request && request.requester.any rule.relyingParties.contains :=
      if_neg unrestricted
    rw [isActive, narrowed, Option.all_some, Bool.and_eq_true, isActive_iff, Option.any_eq_true]
    constructor
    · rintro ⟨holds, listed⟩
      exact ⟨.inr listed, holds⟩
    · rintro ⟨unrestricted' | listed, holds⟩
      · exact absurd unrestricted' unrestricted
      · exact ⟨holds, listed⟩

/-! ## Rules that are found -/

/-- A rule that is found: what was installed, and its codec. -/
structure Filing where
  source : Installation
  codec : Codec

/-- The rule as it is found. -/
def Filing.installed (filing : Filing) : InstalledRule := filing.source.bind filing.codec

/-- An installation as often as its rule stands under a key for a representation. -/
def Installation.filings (codecs : Codecs) (type : TypeTag) (key : String)
    (installation : Installation) : List Filing :=
  match installation.post? codecs with
  | some posting =>
    (posting.filed key type).map fun installed => ⟨installation, installed.codec⟩
  | none => []

namespace RegistryPlan

variable (plan : RegistryPlan)

/-- The rules under a key for a representation, in the order of installation. There are none where
the naming gives no key. -/
def filings : Option (TypeTag × String) → List Filing
  | some (type, key) => plan.installations.flatMap (Installation.filings plan.codecs type key)
  | none => []

/-- The rules that are found by an id for a representation. -/
def filingsOf (attributeId : String) (target : TypeTag) : List Filing :=
  plan.filings ((plan.naming.effectiveType? target).map (·, attributeId))

/-- The rules that are found by an attribute on the wire. -/
def filingsFor (wire : Wire) : List Filing := plan.filings (plan.naming.canonicalName? wire)

end RegistryPlan

/-- The filings of one installation under a key are those of the posting it makes, in their
order. -/
theorem Installation.map_filings (codecs : Codecs) (type : TypeTag) (key : String)
    (installation : Installation) :
    (installation.filings codecs type key).map Filing.installed =
      (installation.post? codecs).toList.flatMap (Posting.filed key type) := by
  unfold filings
  cases posted : installation.post? codecs with
  | none => rfl
  | some posting =>
      obtain ⟨-, bound⟩ := kept_of_post? posted
      have each : ∀ installed ∈ posting.filed key type,
          Filing.installed ⟨installation, installed.codec⟩ = installed := by
        intro installed member
        obtain ⟨rfl, -⟩ := Posting.mem_filed_iff.mp member
        exact bound.symm
      simp only [List.map_map, Option.toList_some, List.flatMap_singleton]
      exact (List.map_congr_left each).trans (List.map_id _)

namespace RegistryPlan

variable (plan : RegistryPlan)

/-- The index of a built registry holds under each key what the plan files there, installation by
installation. -/
theorem rulesFor_eq_map_filings (type : TypeTag) (key : String) :
    plan.build.index.rulesFor key type =
      (plan.filings (some (type, key))).map Filing.installed := by
  rw [rulesFor_build, postings, filings, List.map_flatMap]
  simp only [Installation.map_filings]
  rw [List.filterMap_eq_flatMap_toList, List.flatMap_assoc]

theorem naming_build : plan.build.naming = plan.naming := rfl

/-- Encoding looks up what the plan files under the id of the attribute. -/
theorem lookup_eq_map_filingsOf (attributeId : String) (target : TypeTag) :
    plan.build.lookup attributeId target =
      (plan.filingsOf attributeId target).map Filing.installed := by
  rw [Registry.lookup, naming_build, filingsOf]
  cases plan.naming.effectiveType? target with
  | none => rfl
  | some type => exact plan.rulesFor_eq_map_filings type attributeId

/-- Decoding looks up what the plan files under the canonical name of the external object. -/
theorem lookupWire_eq_map_filingsFor (wire : Wire) :
    plan.build.lookupWire wire = (plan.filingsFor wire).map Filing.installed := by
  rw [Registry.lookupWire, naming_build, filingsFor]
  cases plan.naming.canonicalName? wire with
  | none => rfl
  | some place => exact plan.rulesFor_eq_map_filings place.1 place.2

end RegistryPlan

/-! ## Rules that are applied -/

/-- Results of items in order: one for each item that gives one, and nothing else. -/
inductive Yields {α β : Type} (gives : α → β → Prop) : List α → List β → Prop
  | nil : Yields gives [] []
  | given {item : α} {result : β} {items : List α} {results : List β}
      (given : gives item result) (others : Yields gives items results) :
      Yields gives (item :: items) (result :: results)
  | silent {item : α} {items : List α} {results : List β}
      (silent : ∀ result, ¬ gives item result) (others : Yields gives items results) :
      Yields gives (item :: items) results

/-- Picking what a partial function finds yields, item by item in order, what it stands for. -/
theorem yields_filterMap {α β : Type} {gives : α → β → Prop} {find : α → Option β}
    (finds : ∀ item result, find item = some result ↔ gives item result) (items : List α) :
    Yields gives items (items.filterMap find) := by
  induction items with
  | nil => exact .nil
  | cons item rest ih =>
      cases found : find item with
      | none =>
          rw [List.filterMap_cons_none found]
          refine .silent (fun result given => ?_) ih
          cases found.symm.trans ((finds item result).mpr given)
      | some result =>
          rw [List.filterMap_cons_some found]
          exact .given ((finds item result).mp found) ih

namespace Filing

/-- The rule is meant for a request, and its codec writes something for an attribute. -/
def Writes (request : Request) (attr : Attribute) (filing : Filing) (wire : Wire) : Prop :=
  filing.source.rule.IsFor request ∧
    filing.codec.encode request attr filing.installed.rule = .ok (some wire)

/-- The rule is meant for a request, and its codec reads something from an attribute on the wire. -/
def Reads (request : Request) (wire : Wire) (filing : Filing) (attr : Attribute) : Prop :=
  filing.source.rule.IsFor request ∧
    filing.codec.decode request wire filing.installed.rule = .ok (some attr)

variable {filing : Filing} {request : Request}

/-- Whether a filed rule is active is decided by the rule as it was given to the registry. -/
theorem isActive_installed_iff :
    filing.installed.rule.isActive request = true ↔ filing.source.rule.IsFor request :=
  Rule.isActive_install_iff

/-- A filed rule encodes an attribute as `Writes` says, and otherwise gives nothing. -/
theorem encodeWith?_eq_some_iff_writes {attr : Attribute} {wire : Wire} :
    Registry.encodeWith? request attr filing.installed = some wire ↔
      filing.Writes request attr wire := by
  rw [Registry.encodeWith?_eq_some_iff, isActive_installed_iff]
  rfl

/-- A filed rule decodes an external object as `Reads` says, and otherwise gives nothing. -/
theorem decodeWith?_eq_some_iff_reads {attr : Attribute} {wire : Wire} :
    Registry.decodeWith? request wire filing.installed = some attr ↔
      filing.Reads request wire attr := by
  rw [Registry.decodeWith?_eq_some_iff, isActive_installed_iff]
  rfl

end Filing

/-- A filing remembers the installation it comes from. -/
theorem Installation.source_of_mem_filings {codecs : Codecs} {type : TypeTag} {key : String}
    {installation : Installation} {filing : Filing}
    (member : filing ∈ installation.filings codecs type key) : filing.source = installation := by
  unfold filings at member
  split at member
  · obtain ⟨installed, -, rfl⟩ := List.mem_map.mp member
    rfl
  · cases member

namespace RegistryPlan

variable (plan : RegistryPlan) (request : Request)

/-- Encoding tries the filings of the attribute in order and keeps what each writes. -/
theorem encode_eq_filterMap (attr : Attribute) (target : TypeTag) :
    plan.build.encode request attr target = (plan.filingsOf attr.id target).filterMap fun filing =>
      Registry.encodeWith? request attr filing.installed := by
  rw [Registry.encode, lookup_eq_map_filingsOf, List.filterMap_map]
  rfl

/-- Decoding tries the filings of the external object in order and keeps what each reads. -/
theorem decode_eq_filterMap (wire : Wire) :
    plan.build.decode request wire = (plan.filingsFor wire).filterMap fun filing =>
      Registry.decodeWith? request wire filing.installed := by
  rw [Registry.decode, lookupWire_eq_map_filingsFor, List.filterMap_map]
  rfl

/-- The plan with other installations. -/
def withInstallations (installations : List Installation) : RegistryPlan :=
  { plan with installations }

section Unfit

variable {plan request} {before after : List Installation} {installation : Installation}
  (listed : plan.installations = before ++ installation :: after)
  (unfit : ¬ installation.rule.IsFor request)
include listed unfit

/-- Where only rules that are meant for the request give something, an installation of another rule
can be left out. -/
theorem filterMap_filings_of_unfit {ω : Type} {find : Filing → Option ω}
    (fit : ∀ filing result, find filing = some result → filing.source.rule.IsFor request)
    (place : Option (TypeTag × String)) :
    (plan.filings place).filterMap find =
      ((plan.withInstallations (before ++ after)).filings place).filterMap find := by
  cases place with
  | none => rfl
  | some place =>
      have nothing :
          (installation.filings plan.codecs place.1 place.2).filterMap find = [] := by
        apply List.filterMap_eq_nil_iff.mpr
        intro filing member
        apply Option.eq_none_iff_forall_ne_some.mpr
        intro result given
        apply unfit
        rw [← Installation.source_of_mem_filings member]
        exact fit filing result given
      simp only [filings, withInstallations, listed, List.flatMap_append, List.flatMap_cons,
        List.filterMap_append, nothing, List.nil_append]

/-- An installation whose rule bars the requester may be left out of the registry when its
attributes are encoded. -/
theorem encode_without (attr : Attribute) (target : TypeTag) :
    plan.build.encode request attr target =
      (plan.withInstallations (before ++ after)).build.encode request attr target := by
  rw [encode_eq_filterMap, encode_eq_filterMap]
  apply filterMap_filings_of_unfit listed unfit
  intro filing wire written
  exact (Filing.encodeWith?_eq_some_iff_writes.mp written).1

/-- An installation whose rule bars the requester may be left out of the registry when external
objects are decoded for it. -/
theorem decode_without (wire : Wire) :
    plan.build.decode request wire =
      (plan.withInstallations (before ++ after)).build.decode request wire := by
  rw [decode_eq_filterMap, decode_eq_filterMap]
  apply filterMap_filings_of_unfit listed unfit
  intro filing attr read
  exact (Filing.decodeWith?_eq_some_iff_reads.mp read).1

end Unfit

end RegistryPlan

/-! ## Requests that are treated alike -/

/-- What the codec writes and reads does not depend on the request. -/
structure Codec.IgnoresRequest (codec : Codec) : Prop where
  encode : ∀ request other attr rule,
    codec.encode request attr rule = codec.encode other attr rule
  decode : ∀ request other wire rule,
    codec.decode request wire rule = codec.decode other wire rule

/-- No codec of the library looks at the request it encodes or decodes for. -/
theorem Codec.IsStandard.ignoresRequest {codec : Codec} (standard : codec.IsStandard) :
    codec.IgnoresRequest := by
  cases standard with
  | saml2 values => exact ⟨fun _ _ _ _ => rfl, fun _ _ _ _ => rfl⟩
  | saml1 values => exact ⟨fun _ _ _ _ => rfl, fun _ _ _ _ => rfl⟩
  | claim => exact ⟨fun _ _ _ _ => rfl, fun _ _ _ _ => rfl⟩

/-- A rule treats two requests alike: it is meant for both or for neither, and its codec does not
look at them. -/
structure Filing.TreatsAlike (request other : Request) (filing : Filing) : Prop where
  meant : filing.source.rule.IsFor request ↔ filing.source.rule.IsFor other
  ignores : filing.codec.IgnoresRequest

/-- Two requests that every filing of the attribute treats alike encode it alike. -/
theorem encode_eq_of_treatsAlike {plan : RegistryPlan} {request other : Request} {attr : Attribute}
    {target : TypeTag}
    (alike : ∀ filing ∈ plan.filingsOf attr.id target, filing.TreatsAlike request other) :
    plan.build.encode request attr target = plan.build.encode other attr target := by
  rw [RegistryPlan.encode_eq_filterMap, RegistryPlan.encode_eq_filterMap]
  apply List.filterMap_congr
  intro filing found
  obtain ⟨meant, ignores⟩ := alike filing found
  apply Option.ext
  intro wire
  rw [Filing.encodeWith?_eq_some_iff_writes, Filing.encodeWith?_eq_some_iff_writes, Filing.Writes,
    Filing.Writes, meant, ignores.encode request other]

/-- Two requests that every filing of the external object treats alike decode it alike. -/
theorem decode_eq_of_treatsAlike {plan : RegistryPlan} {request other : Request} {wire : Wire}
    (alike : ∀ filing ∈ plan.filingsFor wire, filing.TreatsAlike request other) :
    plan.build.decode request wire = plan.build.decode other wire := by
  rw [RegistryPlan.decode_eq_filterMap, RegistryPlan.decode_eq_filterMap]
  apply List.filterMap_congr
  intro filing found
  obtain ⟨meant, ignores⟩ := alike filing found
  apply Option.ext
  intro attr
  rw [Filing.decodeWith?_eq_some_iff_reads, Filing.decodeWith?_eq_some_iff_reads, Filing.Reads,
    Filing.Reads, meant, ignores.decode request other]

/-- In either direction a registry gives, in the order of installation, one result for each rule
that it finds, that is meant for the request and whose codec has one, and nothing else. So a rule
for other parties than the one that asks does as little as if it had never been installed, and two
requests that all rules found treat alike have the same results. -/
theorem registry_applies_rules_meant (plan : RegistryPlan) (request : Request) (attr : Attribute)
    (target : TypeTag) (wire : Wire) :
    (plan.build.lookup attr.id target = (plan.filingsOf attr.id target).map Filing.installed ∧
        Yields (Filing.Writes request attr) (plan.filingsOf attr.id target)
          (plan.build.encode request attr target)) ∧
      (plan.build.lookupWire wire = (plan.filingsFor wire).map Filing.installed ∧
        Yields (Filing.Reads request wire) (plan.filingsFor wire)
          (plan.build.decode request wire)) ∧
      (∀ before installation after, plan.installations = before ++ installation :: after →
        installation.rule.Bars request.requester →
          plan.build.encode request attr target =
              (plan.withInstallations (before ++ after)).build.encode request attr target ∧
            plan.build.decode request wire =
              (plan.withInstallations (before ++ after)).build.decode request wire) ∧
      (∀ other, (∀ filing ∈ plan.filingsOf attr.id target, filing.TreatsAlike request other) →
        plan.build.encode request attr target = plan.build.encode other attr target) ∧
      ∀ other, (∀ filing ∈ plan.filingsFor wire, filing.TreatsAlike request other) →
        plan.build.decode request wire = plan.build.decode other wire := by
  refine ⟨⟨plan.lookup_eq_map_filingsOf attr.id target, ?_⟩,
    ⟨plan.lookupWire_eq_map_filingsFor wire, ?_⟩, ?_, ?_, ?_⟩
  · rw [plan.encode_eq_filterMap]
    exact yields_filterMap (fun _ _ => Filing.encodeWith?_eq_some_iff_writes) _
  · rw [plan.decode_eq_filterMap]
    exact yields_filterMap (fun _ _ => Filing.decodeWith?_eq_some_iff_reads) _
  · intro before installation after listed bars
    exact ⟨RegistryPlan.encode_without listed bars.not_isFor attr target,
      RegistryPlan.decode_without listed bars.not_isFor wire⟩
  · intro other alike
    exact encode_eq_of_treatsAlike alike
  · intro other alike
    exact decode_eq_of_treatsAlike alike

/-- Mail is written for one partner, once there is a principal. -/
def partnerMail : Installation where
  attributeId := "mail"
  codec := .ready .claim
  rule := {
    name := some "email"
    relyingParties := .ofMembers ["https://partner.example"]
    condition := some fun request => request.principal.isSome }

/-- Mail is written for all under another name. -/
def openMail : Installation where
  attributeId := "mail"
  codec := .ready .claim
  rule := { name := some "mail" }

/-- The rule for the partner is installed first. -/
def mailPlan : RegistryPlan where
  installations := [partnerMail, openMail]

/-- The partner asks for a principal. -/
def partnerVisit (principal : String) : Request where
  requester := some "https://partner.example"
  principal := some principal

/-- Somebody else asks for a principal. -/
def otherVisit : Request where
  requester := some "https://other.example"
  principal := some "jsmith"

def mailAttribute : Attribute where
  id := "mail"
  values := [.text "js@north.example"]

def partnerClaim : Wire := .claim ⟨"email", .string "js@north.example"⟩

/-- The partner gets both claims for either of two principals. Somebody else neither gets the one
that is for the partner nor has it read. -/
theorem registry_applies_rules_meant_mail :
    mailPlan.build.encode (partnerVisit "jsmith") mailAttribute TypeTag.claim =
        mailPlan.build.encode (partnerVisit "admin") mailAttribute TypeTag.claim ∧
      (mailPlan.build.encode (partnerVisit "admin") mailAttribute TypeTag.claim).length = 2 ∧
      partnerMail.rule.Bars otherVisit.requester ∧
      mailPlan.build.encode otherVisit mailAttribute TypeTag.claim =
        [.claim ⟨"mail", .string "js@north.example"⟩] ∧
      mailPlan.build.decode otherVisit partnerClaim = [] := by
  have bars : partnerMail.rule.Bars otherVisit.requester := by
    refine ⟨rfl, ?_⟩
    rintro asking ⟨⟩
    rfl
  have alike : ∀ filing ∈ mailPlan.filingsOf "mail" TypeTag.claim,
      filing.TreatsAlike (partnerVisit "jsmith") (partnerVisit "admin") := by
    have found : mailPlan.filingsOf "mail" TypeTag.claim =
        [⟨partnerMail, .claim⟩, ⟨openMail, .claim⟩] := rfl
    rw [found, List.forall_mem_cons, List.forall_mem_singleton]
    constructor
    · refine ⟨iff_of_true ?_ ?_, Codec.IsStandard.claim.ignoresRequest⟩
      · exact Filing.isActive_installed_iff.mp rfl
      · exact Filing.isActive_installed_iff.mp rfl
    · refine ⟨iff_of_true ?_ ?_, Codec.IsStandard.claim.ignoresRequest⟩
      · exact Filing.isActive_installed_iff.mp rfl
      · exact Filing.isActive_installed_iff.mp rfl
  obtain ⟨-, -, -, same, -⟩ := registry_applies_rules_meant mailPlan (partnerVisit "jsmith")
    mailAttribute TypeTag.claim partnerClaim
  obtain ⟨-, -, without, -, -⟩ := registry_applies_rules_meant mailPlan otherVisit
    mailAttribute TypeTag.claim partnerClaim
  obtain ⟨written, read⟩ := without [] partnerMail [openMail] rfl bars
  refine ⟨same (partnerVisit "admin") alike, rfl, bars, ?_, ?_⟩
  · rw [written]
    rfl
  · rw [read]
    rfl

end AttributeRelease.Transcoding
