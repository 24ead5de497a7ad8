import AttributeRelease.Proofs.Bytes.Base64
import AttributeRelease.Proofs.Text.Marks
import AttributeRelease.Resolver.ComputedId

/-!
# What computed ids are digests of

A computed id is the digest of a relying party, a value of the subject and the salt, with a mark
between them. The mark may stand in the first two as well, so two different pairs of a relying party
and a value are taken for one just when one of them goes on in the other
(`ids_apart_unless_going_on`). One subject has different ids at any two relying parties, and two
subjects have at any one.
-/

namespace AttributeRelease.Resolver.ComputedId

open Text

variable {connector : ComputedId} {requester value other subject : String}

/-! ## Bytes -/

theorem toList_mark : "!".toList = ['!'] := rfl

theorem utf8_injective : Function.Injective utf8 := by
  intro first second same
  exact String.toByteArray_inj.mp (ByteArray.ext (Array.toList_inj.mp same))

theorem utf8_append (first second : String) :
    utf8 (first ++ second) = utf8 first ++ utf8 second := by
  simp [utf8]

/-- The salt stands apart from what comes before, which is the only part that a request decides. -/
theorem preimage_eq (connector : ComputedId) (requester value : String) :
    connector.preimage requester value =
      utf8 (requester ++ "!" ++ value) ++ (utf8 "!" ++ connector.salt) := by
  simp only [preimage, utf8_append, List.append_assoc]

/-- Digests are taken of the same bytes just for equal pairs and for those that go on one in the
other. -/
theorem preimage_eq_iff : connector.preimage requester value = connector.preimage other subject ↔
    (requester = other ∧ value = subject) ∨ GoesOn "!" requester value other subject ∨
      GoesOn "!" other subject requester value := by
  rw [preimage_eq, preimage_eq, List.append_left_inj, utf8_injective.eq_iff]
  exact joined_eq_iff toList_mark

/-! ## Ids -/

/-- Two inputs that differ and have the same digest. -/
def Collide (first second : List UInt8) : Prop :=
  first ≠ second ∧ Bytes.Sha1.digest first = Bytes.Sha1.digest second

/-- Ids are the same just when the digests are. -/
theorem compute_eq_iff : connector.compute requester value = connector.compute other subject ↔
    Bytes.Sha1.digest (connector.preimage requester value) =
      Bytes.Sha1.digest (connector.preimage other subject) := by
  refine ⟨fun same => ?_, congrArg Bytes.Base64.encode⟩
  have read := congrArg Bytes.Base64.decode? same
  rw [compute, compute, Bytes.Base64.decode?_encode, Bytes.Base64.decode?_encode] at read
  exact Option.some.inj read

/-- Two resolutions get the same answer only if the ids computed in them are the same. -/
theorem compute_eq_of_fetch {first second : Resolution} {attributes : AttributeMap}
    (forRequester : connector.ComputesFor first requester value)
    (forOther : connector.ComputesFor second other subject)
    (one : connector.fetch first = .ok (some attributes))
    (two : connector.fetch second = .ok (some attributes)) :
    connector.compute requester value = connector.compute other subject := by
  obtain ⟨-, _, _, own, answer⟩ := fetch_eq_some_iff.mp one
  obtain ⟨-, _, _, others, same⟩ := fetch_eq_some_iff.mp two
  cases own.requester_eq.symm.trans forRequester.requester_eq
  cases own.value_eq.symm.trans forRequester.value_eq
  cases others.requester_eq.symm.trans forOther.requester_eq
  cases others.value_eq.symm.trans forOther.value_eq
  rw [answer] at same
  have entries := congrArg (fun map => map.get? connector.generatedId) same
  simp only [KeyMap.get?_insert, if_true] at entries
  have values := congrArg Attribute.values (Option.some.inj entries)
  exact Value.ofText_injective (List.singleton_inj.mp values)

/-- Ids are kept apart except where one pair goes on in the other.

Digests for two different pairs of a relying party and a value are taken of the same bytes just when
one pair goes on in the other, behind the mark. Then both the relying parties and the values differ,
and the mark stands in one of the relying parties and in one of the values. So no two subjects share
an id at one relying party, and no subject has the same id at two, unless the digest collides. -/
theorem ids_apart_unless_going_on (connector : ComputedId)
    (different : (requester, value) ≠ (other, subject)) :
    let shared :=
      GoesOn "!" requester value other subject ∨ GoesOn "!" other subject requester value
    (connector.preimage requester value = connector.preimage other subject ↔ shared) ∧
      (shared → requester ≠ other ∧ value ≠ subject ∧
        ('!' ∈ requester.toList ∨ '!' ∈ other.toList) ∧
        ('!' ∈ value.toList ∨ '!' ∈ subject.toList)) ∧
      ∀ first second attributes, connector.ComputesFor first requester value →
        connector.ComputesFor second other subject →
          connector.fetch first = .ok (some attributes) →
            connector.fetch second = .ok (some attributes) →
              shared ∨ Collide (connector.preimage requester value)
                (connector.preimage other subject) := by
  intro shared
  have same_iff : connector.preimage requester value = connector.preimage other subject ↔
      shared := by
    rw [preimage_eq_iff]
    exact or_iff_right fun equal => different (Prod.ext equal.1 equal.2)
  refine ⟨same_iff, ?_, fun first second attributes forRequester forOther one two => ?_⟩
  · rintro (goesOn | goesOn)
    · obtain ⟨distinct, apart⟩ := goesOn.ne toList_mark
      obtain ⟨inOther, inValue⟩ := goesOn.marked toList_mark
      exact ⟨distinct, apart, .inr inOther, .inl inValue⟩
    · obtain ⟨distinct, apart⟩ := goesOn.ne toList_mark
      obtain ⟨inRequester, inSubject⟩ := goesOn.marked toList_mark
      exact ⟨distinct.symm, apart.symm, .inl inRequester, .inr inSubject⟩
  · have digests := compute_eq_iff.mp (compute_eq_of_fetch forRequester forOther one two)
    exact (em shared).imp_right fun apart => ⟨fun same => apart (same_iff.mp same), digests⟩

/-! ### A campus -/

/-- A connector that computes ids from the names of users. -/
def campus : ComputedId where
  settings := { id := "persistentId", dependencies := { connectors := [⟨"directory", []⟩] } }
  sourceId := "uid"
  generatedId := "persistentId"
  salt := utf8 "abcdefghijklmnop"

/-- A user of the campus at a relying party. -/
def visit (requester user : String) : Resolution where
  request := { requester := some requester }
  connectors := .ofList [("directory", ⟨"directory", "directory",
    some (.ofList [("uid", { id := "uid", values := [.text user] })])⟩)]

theorem campus_computesFor (requester user : String) :
    campus.ComputesFor (visit requester user) requester user := ⟨rfl, rfl⟩

/-- The second user has a name that begins as the relying party of the first one ends. -/
theorem campus_goesOn :
    GoesOn "!" "https://sp.example" "eu!jsmith" "https://sp.example!eu" "jsmith" :=
  ⟨"eu", by decide, by decide⟩

/-- Two users of the campus get the same answer at two relying parties, one of which goes on in the
other. -/
theorem ids_apart_unless_going_on_campus :
    let library := visit "https://sp.example" "eu!jsmith"
    let press := visit "https://sp.example!eu" "jsmith"
    ("https://sp.example", "eu!jsmith") ≠ ("https://sp.example!eu", "jsmith") ∧
      campus.ComputesFor library "https://sp.example" "eu!jsmith" ∧
      campus.ComputesFor press "https://sp.example!eu" "jsmith" ∧
      ∃ attributes, campus.fetch library = .ok (some attributes) ∧
        campus.fetch press = .ok (some attributes) ∧
        ((GoesOn "!" "https://sp.example" "eu!jsmith" "https://sp.example!eu" "jsmith" ∨
            GoesOn "!" "https://sp.example!eu" "jsmith" "https://sp.example" "eu!jsmith") ∨
          Collide (campus.preimage "https://sp.example" "eu!jsmith")
            (campus.preimage "https://sp.example!eu" "jsmith")) := by
  intro library press
  have different : ("https://sp.example", "eu!jsmith") ≠ ("https://sp.example!eu", "jsmith") := by
    decide
  have atLibrary := campus_computesFor "https://sp.example" "eu!jsmith"
  have atPress := campus_computesFor "https://sp.example!eu" "jsmith"
  obtain ⟨same_iff, -, answered⟩ := ids_apart_unless_going_on campus different
  have ids := compute_eq_iff.mpr (congrArg Bytes.Sha1.digest (same_iff.mpr (.inl campus_goesOn)))
  have one := fetch_eq_some_iff.mpr ⟨rfl, _, _, atLibrary, rfl⟩
  have two := fetch_eq_some_iff.mpr ⟨rfl, _, _, atPress, rfl⟩
  rw [ids] at one
  exact ⟨different, atLibrary, atPress, _, one, two, answered _ _ _ atLibrary atPress one two⟩

/-- A connector that is prepared without complaint takes the digests for two users at two relying
parties of the same bytes, so both have one id. -/
theorem campus_shares_id :
    ComputedId.new? campus.settings "uid" campus.salt none = .ok campus ∧
      ("https://sp.example", "eu!jsmith") ≠ ("https://sp.example!eu", "jsmith") ∧
      campus.preimage "https://sp.example" "eu!jsmith" =
        campus.preimage "https://sp.example!eu" "jsmith" ∧
      campus.compute "https://sp.example" "eu!jsmith" =
        campus.compute "https://sp.example!eu" "jsmith" := by
  have same : campus.preimage "https://sp.example" "eu!jsmith" =
      campus.preimage "https://sp.example!eu" "jsmith" :=
    preimage_eq_iff.mpr (.inr (.inl campus_goesOn))
  exact ⟨rfl, by decide, same, compute_eq_iff.mpr (congrArg Bytes.Sha1.digest same)⟩

end AttributeRelease.Resolver.ComputedId
