import AttributeRelease.Proofs.Failures.Words

/-!
# Windows after a failure

A failure counts from the start of the millisecond that it falls into (`Instant.cut`). The window of
its connector is open until the delay counted from there is over, whatever failures are noted before
and after, and no longer unless one of these is later (`window_open_until_cut_add`). Counted from
the failure itself the window is too short by the part of a millisecond that is cut off.
-/

namespace AttributeRelease.Resolver

namespace Instant

/-- The start of the millisecond that a point in time falls into. -/
def cut (instant : Instant) : Instant := ofMillis (millis instant)

/-- Less than a millisecond is cut off. -/
theorem cut_bounds (instant : Instant) :
    cut instant ≤ instant ∧ instant < cut instant + nanosPerMilli := by
  rw [cut, ofMillis, millis, cast_nanosPerMilli, Int.fdiv_eq_ediv_of_nonneg _ (by decide)]
  have beyond : instant < (instant / 1000000 + 1) * 1000000 :=
    Int.lt_ediv_add_one_mul_self instant (by decide)
  rw [Int.add_mul, Int.one_mul] at beyond
  exact ⟨Int.ediv_mul_le instant (by decide), beyond⟩

theorem ofMillis_le_ofMillis {first second : Int} (order : first ≤ second) :
    ofMillis first ≤ ofMillis second :=
  Int.mul_le_mul_of_nonneg_right order (by decide)

end Instant

variable {connectorIds : List String} {id : String} {moment : Moment} {earlier further : List Note}

/-! ## The last failure -/

/-- As long as they are not forgotten, further failures are added to those before. -/
theorem Note.failures_append (kept : Note.reset id ∉ further) (earlier : List Note) :
    failures id (further ++ earlier) = failures id further ++ failures id earlier := by
  induction further with
  | nil => rfl
  | cons note past ih =>
      rw [List.mem_cons, not_or] at kept
      rw [List.cons_append]
      cases note with
      | record noted moment => by_cases same : noted = id <;> simp [failures, same, ih kept.2]
      | reset forgotten =>
          have other : forgotten ≠ id := fun same => kept.1 (same ▸ rfl)
          simp [failures, other, ih kept.2]

/-- A failure that was noted and not reset since counts besides the others. -/
theorem Note.mem_failures_append_record_iff (kept : Note.reset id ∉ further) {millis : Int} :
    millis ∈ failures id (further ++ .record id moment :: earlier) ↔
      millis = Instant.millis moment ∨ millis ∈ failures id (further ++ earlier) := by
  rw [failures_append kept, failures_append kept, failures, if_pos rfl, List.mem_append,
    List.mem_append, List.mem_cons, or_left_comm]

theorem Note.mem_failures_record (kept : Note.reset id ∉ further) :
    Instant.millis moment ∈ failures id (further ++ .record id moment :: earlier) :=
  (mem_failures_append_record_iff kept).mpr (.inl rfl)

namespace FailureWords

/-- The last failure is the latest of those that count. -/
theorem last?_after_eq_some_iff (listed : id ∈ connectorIds) {notes : List Note} {last : Instant} :
    (after connectorIds notes).last? id = some last ↔
      ∃ millis ∈ Note.failures id notes, (∀ other ∈ Note.failures id notes, other ≤ millis) ∧
        Instant.ofMillis millis = last := by
  rw [last?_after, FailureLog.last?_after, if_pos listed, Option.map_eq_some_iff]
  simp only [List.max?_eq_some_iff, and_assoc]

/-- A failure that is not forgotten is no later than the last one. -/
theorem exists_last?_after (listed : id ∈ connectorIds) (kept : Note.reset id ∉ further) :
    ∃ last, (after connectorIds (further ++ .record id moment :: earlier)).last? id = some last ∧
      Instant.cut moment ≤ last := by
  have noted := @Note.mem_failures_record id moment earlier further kept
  obtain ⟨millis, latest⟩ := Option.isSome_iff_exists.mp (List.isSome_max?_of_mem noted)
  obtain ⟨member, greatest⟩ := List.max?_eq_some_iff.mp latest
  exact ⟨_, (last?_after_eq_some_iff listed).mpr ⟨millis, member, greatest, rfl⟩,
    Instant.ofMillis_le_ofMillis (greatest _ noted)⟩

/-- A failure that none is later than is the last one. -/
theorem last?_after_of_latest (listed : id ∈ connectorIds) (kept : Note.reset id ∉ further)
    (latest : ∀ millis ∈ Note.failures id (further ++ earlier), millis ≤ Instant.millis moment) :
    (after connectorIds (further ++ .record id moment :: earlier)).last? id =
      some (Instant.cut moment) := by
  refine (last?_after_eq_some_iff listed).mpr
    ⟨_, Note.mem_failures_record kept, fun other member => ?_, rfl⟩
  rcases (Note.mem_failures_append_record_iff kept).mp member with rfl | among
  · exact Int.le_refl _
  · exact latest other among

end FailureWords

/-! ## The window -/

/-- Once a failure is noted, and until the failures of its connector are forgotten, the connector is
in its window as long as the delay is not over that is counted from the start of the failure's
millisecond. Unless an earlier or a further failure is later, it is in its window no longer. -/
theorem window_open_until_cut_add (connectorIds : List String) (id : String)
    (listed : id ∈ connectorIds) (moment : Moment) (earlier further : List Note)
    (kept : Note.reset id ∉ further) (delay : Duration) (positive : 0 < delay) :
    let log := FailureWords.after connectorIds (further ++ .record id moment :: earlier)
    let finish : Instant := Instant.cut moment + delay
    (∀ now : Moment, now.1 < finish → log.inNoRetryWindow id delay now = true) ∧
      (finish ≤ moment.1 + delay ∧ moment.1 + delay < finish + nanosPerMilli) ∧
      ((∀ millis ∈ Note.failures id (further ++ earlier), millis ≤ Instant.millis moment) →
        ∀ now : Moment, finish ≤ now.1 → log.inNoRetryWindow id delay now = false) := by
  intro log finish
  obtain ⟨early, late⟩ := Instant.cut_bounds moment
  refine ⟨?_, ⟨Int.add_le_add_right early delay, ?_⟩, ?_⟩
  · intro now inside
    obtain ⟨last, found, later⟩ := FailureWords.exists_last?_after listed kept
    have notYet := Int.lt_of_lt_of_le inside (Int.add_le_add_right later delay)
    exact (FailureWords.inNoRetryWindow_iff log id delay now).mpr ⟨positive, last, found, notYet⟩
  · have longer := Int.add_lt_add_right late delay
    rwa [Int.add_right_comm] at longer
  · intro latest now outside
    rw [Bool.eq_false_iff, ne_eq, FailureWords.inNoRetryWindow_iff]
    rintro ⟨-, last, found, inside⟩
    cases (FailureWords.last?_after_of_latest listed kept latest).symm.trans found
    exact Int.not_lt.mpr outside inside

/-- Half a millisecond past the epoch. -/
def halfMilli : Moment := ⟨500000, by decide⟩

/-- One and a fifth of a millisecond past the epoch. -/
def afterMilli : Moment := ⟨1200000, by decide⟩

/-- A connector that fails half a millisecond past the epoch, after a failure before the epoch and
before one of another connector, is in a window of one millisecond until the first is over, and not
when the second has begun. -/
theorem window_open_until_cut_add_ldap :
    let log := FailureWords.after ["ldap", "backup"] [.record "backup" afterMilli,
      .record "ldap" halfMilli, .record "ldap" ⟨-1, by decide⟩]
    log.inNoRetryWindow "ldap" 1000000 halfMilli.1 = true ∧
      log.inNoRetryWindow "ldap" 1000000 999999 = true ∧
      log.inNoRetryWindow "ldap" 1000000 1000000 = false := by
  obtain ⟨within, -, beyond⟩ := window_open_until_cut_add ["ldap", "backup"] "ldap" (by decide)
    halfMilli [.record "ldap" ⟨-1, by decide⟩] [.record "backup" afterMilli] (by simp) 1000000
    (by decide)
  exact ⟨within halfMilli (by decide), within ⟨999999, by decide⟩ (by decide),
    beyond (by decide) ⟨1000000, by decide⟩ (by decide)⟩

/-- Half a millisecond is cut off: the window of a millisecond is closed before a millisecond has
passed since the failure, and shorter than half a millisecond there is no window at all. -/
theorem ldap_retried_before_delay_is_over :
    let log := FailureWords.after ["ldap"] [.record "ldap" halfMilli]
    (halfMilli.1 ≤ afterMilli.1 ∧ afterMilli.1 < halfMilli.1 + 1000000 ∧
        log.inNoRetryWindow "ldap" 1000000 afterMilli = false) ∧
      log.inNoRetryWindow "ldap" 400000 halfMilli = false := by
  decide

end AttributeRelease.Resolver
