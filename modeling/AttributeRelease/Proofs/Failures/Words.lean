import AttributeRelease.Resolver.Failure.Words

/-!
# Failures in words

A log of failures in words answers as one that keeps them as integers (`last_failures_and_windows`):
the last failure of a connector is the latest of those noted since they were last forgotten, in
whatever order they were noted, and whether the connector is in its window is decided as if time had
no ends.
-/

namespace AttributeRelease.Resolver

/-- A point in time between the ends. -/
abbrev Moment := { instant : Instant // Instant.IsRepresentable instant }

/-- A change of a log: a failure is noted, or those of a connector are forgotten. -/
inductive Note where
  | record (connectorId : String) (moment : Moment)
  | reset (connectorId : String)

namespace Note

/-- The connector that a change is about. -/
def connectorId : Note → String
  | .record id _ => id
  | .reset id => id

@[simp] theorem connectorId_record (id : String) (moment : Moment) :
    (record id moment).connectorId = id := rfl

@[simp] theorem connectorId_reset (id : String) : (reset id).connectorId = id := rfl

/-- The failures of a connector since they were last forgotten, in whole milliseconds. Of all
changes the last stands in front. -/
def failures (id : String) : List Note → List Int
  | [] => []
  | .record noted moment :: past =>
    if noted = id then Instant.millis moment :: failures id past else failures id past
  | .reset forgotten :: past => if forgotten = id then [] else failures id past

/-- The changes for other connectors do not count. -/
theorem failures_filter (id : String) (notes : List Note) :
    failures id (notes.filter fun note => note.connectorId = id) = failures id notes := by
  induction notes with
  | nil => rfl
  | cons note past ih =>
    cases note with
    | record noted moment => by_cases same : noted = id <;> simp [failures, same, ih]
    | reset forgotten => by_cases same : forgotten = id <;> simp [failures, same, ih]

end Note

/-! ## Milliseconds -/

namespace Instant

theorem cast_nanosPerMilli : (nanosPerMilli : Int) = 1000000 := rfl

theorem isRepresentable_iff {instant : Int} :
    IsRepresentable instant ↔
      (-8334601228800000000000 : Int) ≤ instant ∧ instant ≤ 8210266876799999999999 := Iff.rfl

/-- Cut down to whole milliseconds, a point in time is still between the ends. -/
theorem isRepresentable_millis (moment : Moment) :
    IsRepresentable (ofMillis (millis moment)) := by
  have within := isRepresentable_iff.mp moment.2
  rw [isRepresentable_iff, ofMillis, millis, cast_nanosPerMilli,
    Int.fdiv_eq_ediv_of_nonneg _ (by decide)]
  omega

/-- Milliseconds between the ends are more than the least word and fit into words. -/
theorem word_bounds {millis : Int} (within : IsRepresentable (ofMillis millis)) :
    Int64.minValue.toInt < millis ∧ millis ≤ Int64.maxValue.toInt := by
  rw [isRepresentable_iff, ofMillis, cast_nanosPerMilli] at within
  have least : Int64.minValue.toInt = -9223372036854775808 := rfl
  have greatest : Int64.maxValue.toInt = 9223372036854775807 := rfl
  omega

end Instant

/-- A failure is noted in whole milliseconds, which make an instant that there is. -/
theorem Note.isRepresentable_of_mem {id : String} {notes : List Note} {millis : Int}
    (listed : millis ∈ failures id notes) :
    Instant.IsRepresentable (.ofMillis millis) := by
  induction notes with
  | nil => cases listed
  | cons note past ih =>
    cases note with
    | record noted moment =>
      rw [failures] at listed
      split at listed
      · rcases List.mem_cons.mp listed with rfl | listed
        · exact Instant.isRepresentable_millis moment
        · exact ih listed
      · exact ih listed
    | reset forgotten =>
      rw [failures] at listed
      split at listed
      · cases listed
      · exact ih listed

/-! ## The exact log -/

namespace FailureLog

/-- The log after changes, of which the last stands in front. -/
def after (connectorIds : List String) : List Note → FailureLog
  | [] => new connectorIds
  | .record id moment :: past => (after connectorIds past).record id moment
  | .reset id :: past => (after connectorIds past).reset id

theorem record_eq_modify (log : FailureLog) (id : String) (instant : Instant) :
    log.record id instant = ⟨log.slots.modify id (later · instant.millis)⟩ := by
  rw [record, KeyMap.modify]
  cases log.slots.get? id <;> rfl

theorem reset_eq_modify (log : FailureLog) (id : String) :
    log.reset id = ⟨log.slots.modify id fun _ => none⟩ := by
  rw [reset, KeyMap.modify]
  cases log.slots.get? id <;> rfl

/-- The later of a failure and the last of others is the last of all. -/
theorem later_max? (millis : Int) (earlier : List Int) :
    later earlier.max? millis = (millis :: earlier).max? := by
  rw [later, List.max?_cons]
  cases earlier.max? with
  | none => rfl
  | some last => exact congrArg some (Int.max_comm last millis)

/-- The slot of a connector holds the last of its failures. -/
theorem get?_after (connectorIds : List String) (id : String) (notes : List Note) :
    (after connectorIds notes).slots.get? id =
      if id ∈ connectorIds then some (Note.failures id notes).max? else none := by
  induction notes with
  | nil => exact KeyMap.get?_ofList_const connectorIds none id
  | cons note past ih =>
    cases note with
    | record noted moment =>
      rw [after, record_eq_modify, KeyMap.get?_modify, ih, Note.failures]
      by_cases listed : id ∈ connectorIds <;> by_cases same : noted = id <;>
        simp [listed, same, later_max?]
    | reset forgotten =>
      rw [after, reset_eq_modify, KeyMap.get?_modify, ih, Note.failures]
      by_cases listed : id ∈ connectorIds <;> by_cases same : forgotten = id <;>
        simp [listed, same]

/-- The last failure is the latest one that was noted since the last reset, if the connector is
followed. -/
theorem last?_after (connectorIds : List String) (id : String) (notes : List Note) :
    (after connectorIds notes).last? id =
      if id ∈ connectorIds then (Note.failures id notes).max? else none := by
  rw [last?, get?_after]
  split <;> rfl

/-- A last failure stems from a note and so is an instant that there is. -/
theorem isRepresentable_of_last?_after {connectorIds : List String} {id : String}
    {notes : List Note} {millis : Int}
    (found : (after connectorIds notes).last? id = some millis) :
    Instant.IsRepresentable (.ofMillis millis) := by
  rw [last?_after] at found
  split at found
  · exact Note.isRepresentable_of_mem (List.max?_mem found)
  · cases found

end FailureLog

/-! ## Words -/

namespace FailureWords

/-- The word of a last failure. -/
def word : Option Int → Int64
  | none => noFailure
  | some millis => .ofInt millis

/-- The milliseconds of an instant fit into a word. -/
theorem toInt_ofInt {millis : Int} (within : Instant.IsRepresentable (.ofMillis millis)) :
    (Int64.ofInt millis).toInt = millis :=
  Int64.toInt_ofInt_of_le (Int.le_of_lt (Instant.word_bounds within).1)
    (Int.lt_add_one_of_le (Instant.word_bounds within).2)

/-- The greater word is that of the later failure: an empty slot has the least word of all. -/
theorem max_word {last : Option Int} {millis : Int}
    (before : ∀ earlier, last = some earlier →
      Instant.IsRepresentable (.ofMillis earlier))
    (within : Instant.IsRepresentable (.ofMillis millis)) :
    max (word last) (.ofInt millis) = word (FailureLog.later last millis) := by
  cases last with
  | none => exact if_pos (Int64.minValue_le _)
  | some earlier =>
    have order : Int64.ofInt earlier ≤ Int64.ofInt millis ↔ earlier ≤ millis := by
      rw [Int64.le_iff_toInt_le, toInt_ofInt (before earlier rfl), toInt_ofInt within]
    change (if Int64.ofInt earlier ≤ Int64.ofInt millis then Int64.ofInt millis
      else Int64.ofInt earlier) = Int64.ofInt (max earlier millis)
    by_cases inOrder : earlier ≤ millis
    · rw [if_pos (order.mpr inOrder), Int.max_eq_right inOrder]
    · rw [if_neg (mt order.mp inOrder), Int.max_eq_left (Int.le_of_not_le inOrder)]

/-- The log after changes, of which the last stands in front. -/
def after (connectorIds : List String) : List Note → FailureWords
  | [] => new connectorIds
  | .record id moment :: past => (after connectorIds past).record id moment
  | .reset id :: past => (after connectorIds past).reset id

/-- The word of a connector is that of the last of its failures. -/
theorem get?_after (connectorIds : List String) (id : String) (notes : List Note) :
    (after connectorIds notes).words.get? id =
      if id ∈ connectorIds then some (word (Note.failures id notes).max?) else none := by
  induction notes with
  | nil => exact KeyMap.get?_ofList_const connectorIds noFailure id
  | cons note past ih =>
    cases note with
    | record noted moment =>
      have latest : max (word (Note.failures id past).max?) (.ofInt (Instant.millis moment)) =
          word (Instant.millis moment :: Note.failures id past).max? := by
        rw [← FailureLog.later_max?]
        exact max_word (fun _ found => Note.isRepresentable_of_mem (List.max?_mem found))
          (Instant.isRepresentable_millis moment)
      rw [after, record, KeyMap.get?_modify, ih, Note.failures]
      by_cases listed : id ∈ connectorIds <;> by_cases same : noted = id <;>
        simp [listed, same, latest]
    | reset forgotten =>
      rw [after, reset, KeyMap.get?_modify, ih, Note.failures]
      by_cases listed : id ∈ connectorIds <;> by_cases same : forgotten = id <;>
        simp [listed, same, word]

/-- No failure between the ends has the word of none, and every word of one is read back. -/
theorem last?_after (connectorIds : List String) (id : String) (notes : List Note) :
    (after connectorIds notes).last? id =
      ((FailureLog.after connectorIds notes).last? id).map Instant.ofMillis := by
  rw [last?, FailureLog.last?_after, get?_after]
  by_cases listed : id ∈ connectorIds
  · simp only [listed, if_true]
    cases latest : (Note.failures id notes).max? with
    | none => simp [word]
    | some millis =>
      have within := Note.isRepresentable_of_mem (List.max?_mem latest)
      have differs : Int64.ofInt millis ≠ noFailure := fun same => by
        have least := congrArg Int64.toInt same
        rw [toInt_ofInt within] at least
        exact absurd least (Int.ne_of_gt (Instant.word_bounds within).1)
      simp [word, differs, Instant.ofMillis?, toInt_ofInt within, within]
  · simp [listed]

end FailureWords

/-! ## Windows -/

/-- After more than the longest delay, and after a delay that ends beyond time, every point in time
is past. -/
theorem Instant.lt_add_of_unbounded {last : Int} (within : IsRepresentable last) (now : Moment)
    {delay : Nat} (unbounded : longestDelay < delay ∨ lastInstant < last + delay) :
    now.1 < last + delay := by
  have start := (isRepresentable_iff.mp within).1
  have present := (isRepresentable_iff.mp now.2).2
  refine Int.lt_of_le_of_lt present ?_
  rcases unbounded with long | beyond
  · have long : 9223372036854775807000000 < delay := long
    omega
  · exact beyond

/-- There is no instant after a delay exactly if the delay is too long by itself or leads beyond the
last instant. -/
theorem Instant.after?_eq_none_iff {last : Int} (within : IsRepresentable last) {delay : Nat} :
    after? last delay = none ↔ longestDelay < delay ∨ lastInstant < last + delay := by
  have bound := (isRepresentable_iff.mp within).1
  have early : (-8334601228800000000000 : Int) ≤ last + delay := by omega
  rw [after?]
  by_cases long : longestDelay < delay
  · simp [long]
  · by_cases beyond : lastInstant < last + delay
    · have outside : ¬ IsRepresentable (last + delay) := fun inside =>
        Int.not_lt.mpr inside.2 beyond
      simp [beyond, outside]
    · have representable : IsRepresentable (last + delay) := ⟨early, Int.not_lt.mp beyond⟩
      simp [long, beyond, representable]

/-- The instant after a delay, if there is one, lies behind by as much. -/
theorem Instant.eq_of_after? {last later : Int} {delay : Nat}
    (found : after? last delay = some later) : later = last + delay := by
  rw [after?] at found
  split at found
  · cases found
  · obtain ⟨_, same⟩ := Option.ite_none_right_eq_some.mp found
    exact (Option.some.inj same).symm

/-- A log says of a connector that it is in its window exactly if the delay is not over. -/
theorem FailureLog.inNoRetryWindow_iff {log : FailureLog} {id : String}
    (within : ∀ millis, log.last? id = some millis → Instant.IsRepresentable (.ofMillis millis))
    (delay : Nat) (now : Moment) :
    log.inNoRetryWindow id delay now = true ↔
      0 < delay ∧ ∃ millis, log.last? id = some millis ∧
        now.1 < Instant.ofMillis millis + delay := by
  rw [inNoRetryWindow]
  by_cases zero : delay = 0
  · simp [zero]
  · rw [if_neg zero]
    cases found : log.last? id with
    | none => simp
    | some millis =>
      have unbounded
          (beyond : longestDelay < delay ∨ lastInstant < Instant.ofMillis millis + delay) :
          now.1 < Instant.ofMillis millis + delay :=
        Instant.lt_add_of_unbounded (within millis found) now beyond
      simp only [Bool.or_eq_true, decide_eq_true_eq, Nat.pos_of_ne_zero zero, true_and,
        Option.some.injEq, exists_eq_left']
      exact or_iff_right_of_imp unbounded

namespace FailureWords

/-- What a word is read as is an instant that there is. -/
theorem isRepresentable_of_last? {log : FailureWords} {id : String} {last : Instant}
    (found : log.last? id = some last) : Instant.IsRepresentable last := by
  obtain ⟨word, _, found⟩ := Option.bind_eq_some_iff.mp found
  obtain ⟨_, found⟩ := Option.ite_none_left_eq_some.mp found
  obtain ⟨within, same⟩ := Option.ite_none_right_eq_some.mp found
  exact Option.some.inj same ▸ within

/-- In the window exactly after a delay that is not over yet. -/
theorem inNoRetryWindow_iff (log : FailureWords) (id : String) (delay : Nat) (now : Moment) :
    log.inNoRetryWindow id delay now = true ↔
      0 < delay ∧ ∃ last, log.last? id = some last ∧ now.1 < last + delay := by
  rw [inNoRetryWindow]
  by_cases zero : delay = 0
  · simp [zero]
  · have delayed : 0 < delay := Nat.pos_of_ne_zero zero
    rw [if_neg zero]
    cases found : log.last? id with
    | none => simp
    | some last =>
      have within := isRepresentable_of_last? found
      cases finish : Instant.after? last delay with
      | none =>
        have unbounded := (Instant.after?_eq_none_iff within).mp finish
        simp [delayed, finish, Instant.lt_add_of_unbounded within now unbounded]
      | some later =>
        simp [delayed, finish, Instant.eq_of_after? finish]

end FailureWords

/-- The last failure of a followed connector is the latest, in whole milliseconds, of those noted
since they were last forgotten; no other connector has one. The connector is in its window exactly
if there is a delay that, counted from that failure, is not over. What is noted or forgotten of
others makes no difference, and the exact log has the same answers. -/
theorem last_failures_and_windows (connectorIds : List String) (id : String)
    (notes : List Note) :
    let log := FailureWords.after connectorIds notes
    let own := FailureWords.after connectorIds (notes.filter fun note => note.connectorId = id)
    let wide := FailureLog.after connectorIds notes
    log.last? id =
        (if id ∈ connectorIds then (Note.failures id notes).max? else none).map
          Instant.ofMillis ∧
      (∀ (delay : Duration) (now : Moment), log.inNoRetryWindow id delay now = true ↔
        0 < delay ∧ ∃ last, log.last? id = some last ∧ now.1 < last + delay) ∧
      (own.last? id = log.last? id ∧
        ∀ delay now, own.inNoRetryWindow id delay now = log.inNoRetryWindow id delay now) ∧
      log.last? id = (wide.last? id).map Instant.ofMillis ∧
        ∀ (delay : Duration) (now : Moment),
          wide.inNoRetryWindow id delay now = log.inNoRetryWindow id delay now := by
  intro log own wide
  have same : own.last? id = log.last? id := by
    rw [FailureWords.last?_after, FailureWords.last?_after, FailureLog.last?_after,
      FailureLog.last?_after, Note.failures_filter]
  have converted : log.last? id = (wide.last? id).map Instant.ofMillis :=
    FailureWords.last?_after connectorIds id notes
  refine ⟨?_, FailureWords.inNoRetryWindow_iff log id, ⟨same, fun delay now => ?_⟩, converted,
    fun delay now => ?_⟩
  · rw [converted, FailureLog.last?_after]
  · rw [FailureWords.inNoRetryWindow, FailureWords.inNoRetryWindow, same]
  · have within (millis : Int) (found : wide.last? id = some millis) :=
      FailureLog.isRepresentable_of_last?_after found
    rw [Bool.eq_iff_iff, FailureWords.inNoRetryWindow_iff, FailureLog.inNoRetryWindow_iff within,
      converted]
    cases wide.last? id <;> simp

end AttributeRelease.Resolver
