import AttributeRelease.Resolver.Query.Connector

/-!
# Answers from the cache

A connector that queries a source is called again and again, its cache is emptied now and then, and
the world around it changes: time passes, the cache loses entries, the source learns. If the cache
knows nothing but the answers it was last given since it was emptied (`Honest`), every answer is
made of a reply of the source to the very query of the call, given since then; and as long as the
source keeps its replies, the calls have the outcomes they would have without a cache
(`answers_through_cache`).
-/

namespace AttributeRelease.Resolver.Query

variable {σ ρ : Type}

/-! ## A call -/

namespace QueryConnector

variable (connector : QueryConnector σ ρ)

/-- The query of a call. -/
def query (resolution : Resolution) : Except ResolutionError String :=
  connector.template.render connector.settings.id
    (Sources.of resolution connector.settings.dependencies) connector.escape

/-- What is made of a reply of the source. -/
def answer : Except String ρ → Except ResolutionError (Option AttributeMap)
  | .ok reply => connector.source.interpret reply
  | .error cause => .error (.failed connector.settings.id connector.failure (some cause))

/-- The attributes that a reply of the source leads to. -/
def attributes? (reply : Except String ρ) : Option AttributeMap :=
  match connector.answer reply with
  | .ok attributes => attributes
  | .error _ => none

/-- The query that a call puts to the source, with the reply. -/
def asked? (resolution : Resolution) (world : σ) : Option (String × Except String ρ) :=
  match connector.query resolution with
  | .ok query =>
    match connector.cached? query world with
    | some _ => none
    | none => some (query, (connector.source.ask query world).1)
  | .error _ => none

/-- The same connector without a cache. -/
def uncached : QueryConnector σ ρ := { connector with cache := none }

/-- The same connector over another source. -/
def withSource (source : Source σ ρ) : QueryConnector σ ρ := { connector with source }

variable {connector} {resolution : Resolution} {world : σ} {query : String}

/-- A call without a query ends with the error, and nothing else happens. -/
theorem fetch_of_query_error {error : ResolutionError}
    (unrendered : connector.query resolution = .error error) :
    connector.fetch resolution world = (.error error, world) := by
  rw [query] at unrendered
  simp only [fetch, unrendered]

/-- A call whose query the cache knows leaves the world alone. -/
theorem fetch_of_cached {attributes : AttributeMap}
    (rendered : connector.query resolution = .ok query)
    (known : connector.cached? query world = some attributes) :
    connector.fetch resolution world = (.ok (some attributes), world) := by
  rw [QueryConnector.query] at rendered
  simp only [fetch, rendered, known]

/-- Any other call puts its query to the source and keeps the attributes that the reply leads to. -/
theorem fetch_of_unknown (rendered : connector.query resolution = .ok query)
    (unknown : connector.cached? query world = none) :
    connector.fetch resolution world =
      (connector.answer (connector.source.ask query world).1,
        match connector.attributes? (connector.source.ask query world).1 with
        | some attributes => connector.store query attributes (connector.source.ask query world).2
        | none => (connector.source.ask query world).2) := by
  have put : connector.fetch resolution world = connector.ask query world := by
    rw [QueryConnector.query] at rendered
    simp only [fetch, rendered, unknown]
  rw [put, QueryConnector.ask, attributes?]
  rcases connector.source.ask query world with ⟨cause | reply, left⟩
  · rfl
  · simp only [answer]
    rcases connector.source.interpret reply with error | attributes | attributes <;> rfl

/-- The source is asked exactly when a query can be made and the cache has no answer to it. -/
theorem asked?_eq_some_iff {reply : Except String ρ} :
    connector.asked? resolution world = some (query, reply) ↔
      connector.query resolution = .ok query ∧ connector.cached? query world = none ∧
        (connector.source.ask query world).1 = reply := by
  cases rendered : connector.query resolution with
  | error error => simp [asked?, rendered]
  | ok own =>
    cases known : connector.cached? own world with
    | some attributes =>
      simp only [asked?, rendered, known, reduceCtorEq, Except.ok.injEq, false_iff]
      rintro ⟨rfl, unknown, -⟩
      cases known.symm.trans unknown
    | none =>
      simp only [asked?, rendered, known, Option.some.injEq, Prod.mk.injEq, Except.ok.injEq]
      constructor
      · rintro ⟨rfl, replied⟩
        exact ⟨rfl, known, replied⟩
      · rintro ⟨rfl, -, replied⟩
        exact ⟨rfl, replied⟩

end QueryConnector

/-! ## A history of calls -/

/-- What happens to a connector: it is called, its cache is emptied, or the world changes on its
own. -/
inductive Happening (σ : Type) where
  | call (resolution : Resolution)
  | invalidate
  | elapse (change : σ → σ)

/-- How often the cache is emptied. -/
def emptyings (history : List (Happening σ)) : Nat :=
  history.countP fun | .invalidate => true | _ => false

/-- Where a history has led: the world, what the source replied, and what was given to the cache,
both since the cache was last emptied and with the last in front. -/
structure Standing (σ ρ : Type) where
  world : σ
  replies : List (String × Except String ρ) := []
  insertions : List (String × AttributeMap) := []

namespace QueryConnector

variable (connector : QueryConnector σ ρ)

/-- The attributes that a call gives to the cache, with its query. -/
def inserted? (resolution : Resolution) (world : σ) : Option (String × AttributeMap) :=
  (connector.asked? resolution world).bind fun asked =>
    (connector.attributes? asked.2).map (asked.1, ·)

/-- Where a call leads. -/
def called (resolution : Resolution) (before : Standing σ ρ) : Standing σ ρ where
  world := (connector.fetch resolution before.world).2
  replies := (connector.asked? resolution before.world).toList ++ before.replies
  insertions := (connector.inserted? resolution before.world).toList ++ before.insertions

/-- Empties the cache, if there is one. -/
def emptied (world : σ) : σ :=
  match connector.cache with
  | some slot => slot.invalidate world
  | none => world

/-- Where a history leads. In a history, too, what happened last stands in front. -/
def standing (start : σ) : List (Happening σ) → Standing σ ρ
  | [] => { world := start }
  | .call resolution :: past => connector.called resolution (standing start past)
  | .invalidate :: past => { world := connector.emptied (standing start past).world }
  | .elapse change :: past =>
    { standing start past with world := change (standing start past).world }

/-- The outcomes of the calls of a history. -/
def outcomes (start : σ) :
    List (Happening σ) → List (Except ResolutionError (Option AttributeMap))
  | [] => []
  | .call resolution :: past =>
    (connector.fetch resolution (connector.standing start past).world).1 :: outcomes start past
  | .invalidate :: past => outcomes start past
  | .elapse _ :: past => outcomes start past

/-- A cache that has only the answer which it was last given for a query since it was emptied, or
none. -/
def Honest (start : σ) (history : List (Happening σ)) : Prop :=
  ∀ past, past <:+ history → ∀ query attributes,
    connector.cached? query (connector.standing start past).world = some attributes →
      (connector.standing start past).insertions.lookup query = some attributes

/-- A source whose replies are told by the query and by how often the cache was emptied. -/
def Steady (script : Nat → String → Except String ρ) (start : σ) (history : List (Happening σ)) :
    Prop :=
  ∀ past, past <:+ history → ∀ heard ∈ (connector.standing start past).replies,
    heard.2 = script (emptyings past) heard.1

variable {connector} {resolution : Resolution} {before : Standing σ ρ} {start : σ}
  {history past : List (Happening σ)} {query : String}

/-- All that a call can do: it leads nowhere, as it has no query or the cache knows its query, or
the source replies. -/
theorem called_cases (connector : QueryConnector σ ρ) (resolution : Resolution)
    (before : Standing σ ρ) :
    connector.called resolution before = before ∧
        ((∃ error, connector.query resolution = .error error ∧
            (connector.fetch resolution before.world).1 = .error error) ∨
          ∃ query attributes, connector.query resolution = .ok query ∧
            connector.cached? query before.world = some attributes ∧
            (connector.fetch resolution before.world).1 = .ok (some attributes)) ∨
      ∃ query reply left, connector.query resolution = .ok query ∧
        connector.cached? query before.world = none ∧
        connector.source.ask query before.world = (reply, left) ∧
        (connector.fetch resolution before.world).1 = connector.answer reply ∧
        connector.called resolution before =
          match connector.attributes? reply with
          | some attributes => ⟨connector.store query attributes left,
              (query, reply) :: before.replies, (query, attributes) :: before.insertions⟩
          | none => ⟨left, (query, reply) :: before.replies, before.insertions⟩ := by
  cases rendered : connector.query resolution with
  | error error =>
    refine .inl ⟨?_, .inl ⟨error, rfl, by rw [fetch_of_query_error rendered]⟩⟩
    simp [called, fetch_of_query_error rendered, inserted?, asked?, rendered]
  | ok query =>
    cases known : connector.cached? query before.world with
    | some attributes =>
      refine .inl ⟨?_, .inr ⟨query, attributes, rfl, known, by rw [fetch_of_cached rendered known]⟩⟩
      simp [called, fetch_of_cached rendered known, inserted?, asked?, rendered, known]
    | none =>
      refine .inr ⟨query, _, _, rfl, known, rfl, ?_⟩
      simp only [called, fetch_of_unknown rendered known, inserted?, asked?, rendered, known]
      cases led : connector.attributes? (connector.source.ask query before.world).1 <;> simp [led]

/-- What was given to the cache comes from replies to its query. -/
theorem reply_of_mem_insertions {given : String × AttributeMap}
    (listed : given ∈ (connector.standing start history).insertions) :
    ∃ reply, (given.1, reply) ∈ (connector.standing start history).replies ∧
      connector.attributes? reply = some given.2 := by
  induction history with
  | nil => cases listed
  | cons happening past ih =>
    cases happening with
    | call resolution =>
      rw [standing] at listed ⊢
      obtain ⟨same, _⟩ | ⟨query, reply, left, _, _, _, _, same⟩ :=
        connector.called_cases resolution (connector.standing start past)
      · rw [same] at listed ⊢
        exact ih listed
      · rw [same] at listed ⊢
        cases found : connector.attributes? reply with
        | none =>
          rw [found] at listed
          obtain ⟨earlier, replied, led⟩ := ih listed
          exact ⟨earlier, .tail _ replied, led⟩
        | some attributes =>
          rw [found] at listed
          rcases List.mem_cons.mp listed with rfl | listed
          · exact ⟨reply, .head _, found⟩
          · obtain ⟨earlier, replied, led⟩ := ih listed
            exact ⟨earlier, .tail _ replied, led⟩
    | invalidate => cases listed
    | elapse change => exact ih listed

/-- An honest cache answers with what a reply to the query led to. -/
theorem Honest.reply_of_cached (honest : connector.Honest start history) (led : past <:+ history)
    {attributes : AttributeMap}
    (known : connector.cached? query (connector.standing start past).world = some attributes) :
    ∃ reply, (query, reply) ∈ (connector.standing start past).replies ∧
      connector.attributes? reply = some attributes := by
  obtain ⟨later, earlier, given, _⟩ :=
    List.lookup_eq_some_iff.mp (honest past led query attributes known)
  have listed : (query, attributes) ∈ (connector.standing start past).insertions := by
    rw [given]
    exact List.mem_append_right later (.head earlier)
  exact reply_of_mem_insertions listed

/-- A reply with attributes is answered with them. -/
theorem answer_of_attributes? {reply : Except String ρ} {attributes : AttributeMap}
    (found : connector.attributes? reply = some attributes) :
    connector.answer reply = .ok (some attributes) := by
  rw [attributes?] at found
  split at found
  · rename_i same
    rw [same, found]
  · cases found

/-- The outcome of a call is made of a reply of the source to its query, from then or before. -/
theorem Honest.outcome_of_reply (honest : connector.Honest start history)
    (led : .call resolution :: past <:+ history)
    (rendered : connector.query resolution = .ok query) :
    ∃ reply, (query, reply) ∈ (connector.standing start (.call resolution :: past)).replies ∧
      (connector.fetch resolution (connector.standing start past).world).1 =
        connector.answer reply := by
  have before : past <:+ history := (List.suffix_cons _ _).trans led
  rw [standing]
  obtain ⟨unchanged, ⟨_, unrendered, _⟩ | ⟨other, attributes, same, known, outcome⟩⟩ |
      ⟨other, reply, left, same, _, _, outcome, after⟩ :=
    connector.called_cases resolution (connector.standing start past)
  · rw [rendered] at unrendered
    cases unrendered
  · cases rendered.symm.trans same
    obtain ⟨reply, replied, found⟩ := honest.reply_of_cached before known
    refine ⟨reply, ?_, ?_⟩
    · rwa [unchanged]
    · rw [outcome, answer_of_attributes? found]
  · cases rendered.symm.trans same
    refine ⟨reply, ?_, outcome⟩
    rw [after]
    split <;> exact .head _

/-- Without a cache every answer comes from the source. -/
theorem honest_uncached : connector.uncached.Honest start history := by
  intro past led query attributes known
  cases known

/-- Where the source keeps its replies, an honest cache does not show in the outcomes. -/
theorem Honest.outcomes_eq (honest : connector.Honest start history)
    {script : Nat → String → Except String ρ} (steady : connector.Steady script start history)
    (uncached : connector.uncached.Steady script start history) :
    connector.outcomes start history = connector.uncached.outcomes start history := by
  induction history with
  | nil => rfl
  | cons happening past ih =>
    have before := ih (fun _ led => honest _ (led.trans (List.suffix_cons _ _)))
      (fun _ led => steady _ (led.trans (List.suffix_cons _ _)))
      (fun _ led => uncached _ (led.trans (List.suffix_cons _ _)))
    cases happening with
    | call resolution =>
      rw [outcomes, outcomes, before]
      congr 1
      cases rendered : connector.query resolution with
      | error error =>
        have alone : connector.uncached.query resolution = .error error := rendered
        rw [fetch_of_query_error rendered, fetch_of_query_error alone]
      | ok query =>
        obtain ⟨reply, replied, outcome⟩ := honest.outcome_of_reply List.suffix_rfl rendered
        have honestAlone : connector.uncached.Honest start (.call resolution :: past) :=
          honest_uncached
        obtain ⟨other, repliedAlone, alone⟩ :=
          honestAlone.outcome_of_reply List.suffix_rfl rendered
        have same : reply = other :=
          (steady _ List.suffix_rfl _ replied).trans
            (uncached _ List.suffix_rfl _ repliedAlone).symm
        rw [outcome, alone, same]
        rfl
    | invalidate => exact before
    | elapse change => exact before

/-- A source that replies to a query in the same way in every world is steady. -/
theorem steady_of_forall_ask {reply : String → Except String ρ}
    (same : ∀ query world, (connector.source.ask query world).1 = reply query) :
    connector.Steady (fun _ => reply) start history := by
  have replied (past : List (Happening σ)) :
      ∀ heard ∈ (connector.standing start past).replies, heard.2 = reply heard.1 := by
    induction past with
    | nil => simp [standing]
    | cons happening past ih =>
      cases happening with
      | call resolution =>
        rw [standing]
        obtain ⟨unchanged, _⟩ | ⟨query, heard, left, _, _, asks, _, after⟩ :=
          connector.called_cases resolution (connector.standing start past)
        · rwa [unchanged]
        · have first : heard = reply query := by
            rw [← same query (connector.standing start past).world, asks]
          rw [after]
          split <;> exact List.forall_mem_cons.mpr ⟨first, ih⟩
      | invalidate => simp [standing]
      | elapse change => exact ih
  exact fun past _ => replied past

end QueryConnector

/-! ## Caches of their own -/

/-- A cache in a place of its own: it may lose entries at any time, but nothing comes into it other
than what is written there. -/
structure CacheSlot.IsApart (slot : CacheSlot σ) (source : Source σ ρ)
    (history : List (Happening σ)) : Prop where
  written : ∀ cache world query attributes,
    (slot.read (slot.write cache world)).get? query = some attributes →
      cache.get? query = some attributes
  asked : ∀ asked world query attributes,
    (slot.read (source.ask asked world).2).get? query = some attributes →
      (slot.read world).get? query = some attributes
  elapsed : ∀ change, .elapse change ∈ history → ∀ world query attributes,
    (slot.read (change world)).get? query = some attributes →
      (slot.read world).get? query = some attributes

namespace QueryConnector

variable {connector : QueryConnector σ ρ} {slot : CacheSlot σ} {start : σ}
  {history : List (Happening σ)}

/-- What is found in a cache that starts empty and is written by nobody else was inserted by the
connector. -/
theorem lookup_of_read (cached : connector.cache = some slot)
    (apart : slot.IsApart connector.source history)
    (empty : ∀ query, (slot.read start).get? query = none) (query : String)
    (attributes : AttributeMap)
    (known : (slot.read (connector.standing start history).world).get? query = some attributes) :
    (connector.standing start history).insertions.lookup query = some attributes := by
  induction history with
  | nil =>
    rw [standing, empty] at known
    cases known
  | cons happening past ih =>
    have before := ih ⟨apart.written, apart.asked, fun change listed =>
      apart.elapsed change (.tail _ listed)⟩
    cases happening with
    | call resolution =>
      rw [standing] at known ⊢
      obtain ⟨same, _⟩ | ⟨asked, reply, left, _, _, asks, _, same⟩ :=
        connector.called_cases resolution (connector.standing start past)
      · rw [same] at known ⊢
        exact before known
      · have earlier := apart.asked asked (connector.standing start past).world query
        rw [asks] at earlier
        rw [same] at known ⊢
        cases led : connector.attributes? reply with
        | none =>
          rw [led] at known
          exact before (earlier attributes known)
        | some given =>
          simp only [led, store, cached] at known ⊢
          have put := apart.written _ _ _ _ known
          rw [ResultCache.get?, ResultCache.insert, KeyMap.get?_insert] at put
          split at put
          · rename_i same
            cases put
            rw [same, List.lookup_cons_self]
          · rename_i differs
            rw [List.lookup_cons, beq_eq_false_iff_ne.mpr (Ne.symm differs)]
            exact before (earlier attributes put)
    | invalidate =>
      simp only [standing, emptied, cached] at known
      cases apart.written _ _ _ _ known
    | elapse change =>
      exact before (apart.elapsed change (.head _) _ _ _ known)

/-- A cache in a place of its own that is empty at the start is honest. -/
theorem honest_of_isApart (cached : connector.cache = some slot)
    (apart : slot.IsApart connector.source history)
    (empty : ∀ query, (slot.read start).get? query = none) :
    connector.Honest start history := by
  intro past led query attributes known
  rw [cached?, cached] at known
  exact lookup_of_read cached ⟨apart.written, apart.asked, fun change listed =>
    apart.elapsed change (led.subset listed)⟩ empty query attributes known

end QueryConnector

/-! ## Directories and databases -/

/-- The connectors to directories and databases, and which attributes a reply of their sources leads
to: it has entries, only one of them unless several may be merged, and each can be mapped. -/
inductive IsStandard : {ρ : Type} → QueryConnector σ ρ → (ρ → AttributeMap → Prop) → Prop where
  | directory (settings : ConnectorSettings) (template : Template) (renames : KeyMap String)
      (multiple : Bool) (cache : Option (CacheSlot σ))
      (search : String → σ → Except String (List Entry) × σ) :
      IsStandard (directory settings template renames multiple cache search)
        fun entries attributes => entries ≠ [] ∧ (entries.length = 1 ∨ multiple = true) ∧
          entryAttributes renames entries = .ok attributes
  | relational (settings : ConnectorSettings) (template : Template)
      (renames : List (String × String)) (cache : Option (CacheSlot σ))
      (run : String → σ → Except String (List Row) × σ) :
      IsStandard (relational settings template renames cache run)
        fun rows attributes =>
          rows ≠ [] ∧ rowAttributes (columnRenames renames) rows = .ok attributes

/-- Wrapping a result and renaming its error keeps which results there are. -/
theorem ofAttribute_some_eq_ok_iff {outcome : Except AttributeError AttributeMap}
    {attributes : AttributeMap} :
    (do return some (← ResolutionError.ofAttribute outcome)) =
        (.ok (some attributes) : Except ResolutionError (Option AttributeMap)) ↔
      outcome = .ok attributes := by
  cases outcome with
  | error error => simp [ResolutionError.ofAttribute, bind, Except.bind]
  | ok found => simp [ResolutionError.ofAttribute, bind, Except.bind, pure, Except.pure]

/-- Entries are usable if there is one, or several where that is allowed, and each can be read. -/
theorem interpretEntries_eq_iff {pluginId : String} {renames : KeyMap String} {multiple : Bool}
    {entries : List Entry} {attributes : AttributeMap} :
    interpretEntries pluginId renames multiple entries = .ok (some attributes) ↔
      entries ≠ [] ∧ (entries.length = 1 ∨ multiple = true) ∧
        entryAttributes renames entries = .ok attributes := by
  cases entries with
  | nil => simp [interpretEntries, pure, Except.pure]
  | cons entry rest =>
    by_cases usable : (entry :: rest).length = 1 ∨ multiple = true
    · have passed : (decide (1 < (entry :: rest).length) && !multiple) = false := by
        rcases usable with one | several
        · simp [one]
        · simp [several]
      simp only [interpretEntries, passed, usable]
      refine ofAttribute_some_eq_ok_iff.trans ?_
      simp
    · have refused : (decide (1 < (entry :: rest).length) && !multiple) = true := by
        obtain ⟨many, single⟩ := not_or.mp usable
        simpa [single, List.length_pos_iff] using many
      simp only [interpretEntries, refused, usable]
      simp [throw, throwThe, MonadExceptOf.throw, bind, Except.bind]

/-- Rows are usable if there are any and each can be read. -/
theorem interpretRows_eq_iff {renames : KeyMap String} {rows : List Row}
    {attributes : AttributeMap} :
    interpretRows renames rows = .ok (some attributes) ↔
      rows ≠ [] ∧ rowAttributes renames rows = .ok attributes := by
  cases rows with
  | nil => simp [interpretRows, pure, Except.pure]
  | cons row rest =>
    refine ofAttribute_some_eq_ok_iff.trans ?_
    simp

section Standard

variable {connector : QueryConnector σ ρ} {usable : ρ → AttributeMap → Prop}

/-- A reply makes attributes exactly if something usable was found. -/
theorem IsStandard.attributes?_eq_some_iff (standard : IsStandard connector usable)
    {reply : Except String ρ} {attributes : AttributeMap} :
    connector.attributes? reply = some attributes ↔
      ∃ found, reply = .ok found ∧ usable found attributes := by
  have interprets (found : ρ) :
      connector.source.interpret found = .ok (some attributes) ↔ usable found attributes := by
    cases standard with
    | directory => exact interpretEntries_eq_iff
    | relational => exact interpretRows_eq_iff
  cases reply with
  | error cause => simp [QueryConnector.attributes?, QueryConnector.answer]
  | ok found =>
    simp only [QueryConnector.attributes?, QueryConnector.answer, Except.ok.injEq, exists_eq_left',
      ← interprets]
    cases connector.source.interpret found <;> simp

/-- Answers from a cache that is honest.

As long as the source keeps its replies, all calls have the outcomes that they have without the
cache. A call whose query the cache knows is answered from there whatever the source is, and the
source is not asked. However the source replies, the outcome of a call with a query is made of a
reply to that query which is no older than the last time the cache was emptied. What the cache
answers comes from a reply that can be used: the attributes of such a reply are given to the cache,
and after any other it is not touched. -/
theorem answers_through_cache (standard : IsStandard connector usable) {start : σ}
    {history : List (Happening σ)} (honest : connector.Honest start history) :
    (∀ script, connector.Steady script start history →
        connector.uncached.Steady script start history →
          connector.outcomes start history = connector.uncached.outcomes start history) ∧
      ∀ resolution past, .call resolution :: past <:+ history →
        let before := connector.standing start past
        let after := connector.standing start (.call resolution :: past)
        (∀ query attributes, connector.query resolution = .ok query →
          connector.cached? query before.world = some attributes →
            connector.asked? resolution before.world = none ∧
              (∀ source, (connector.withSource source).fetch resolution before.world =
                (.ok (some attributes), before.world)) ∧
              ∃ found, (query, .ok found) ∈ before.replies ∧ usable found attributes) ∧
          (∀ query, connector.query resolution = .ok query →
            ∃ reply, (query, reply) ∈ after.replies ∧
              (connector.fetch resolution before.world).1 = connector.answer reply) ∧
          ∀ query reply, connector.asked? resolution before.world = some (query, reply) →
            let left := (connector.source.ask query before.world).2
            (∀ found attributes, reply = .ok found → usable found attributes →
                after.world = connector.store query attributes left) ∧
              ((∀ found attributes, reply = .ok found → ¬ usable found attributes) →
                after.world = left) := by
  refine ⟨fun script => honest.outcomes_eq, fun resolution past led => ⟨?_, ?_, ?_⟩⟩
  · intro query attributes rendered known
    refine ⟨?_, fun source => QueryConnector.fetch_of_cached rendered known, ?_⟩
    · simp only [QueryConnector.asked?, rendered, known]
    · obtain ⟨reply, replied, used⟩ :=
        honest.reply_of_cached ((List.suffix_cons _ _).trans led) known
      obtain ⟨found, rfl, usable⟩ := standard.attributes?_eq_some_iff.mp used
      exact ⟨found, replied, usable⟩
  · exact fun query rendered => honest.outcome_of_reply led rendered
  · intro query reply asked
    obtain ⟨rendered, unknown, rfl⟩ := QueryConnector.asked?_eq_some_iff.mp asked
    simp only [QueryConnector.standing, QueryConnector.called,
      QueryConnector.fetch_of_unknown rendered unknown]
    constructor
    · intro found attributes replied fits
      rw [standard.attributes?_eq_some_iff.mpr ⟨found, replied, fits⟩]
    · intro unusable
      have nothing : connector.attributes?
          (connector.source.ask query (connector.standing start past).world).1 = none := by
        refine Option.eq_none_iff_forall_ne_some.mpr fun attributes used => ?_
        obtain ⟨found, replied, fits⟩ := standard.attributes?_eq_some_iff.mp used
        exact unusable found attributes replied fits
      rw [nothing]

end Standard

/-! ## A desk with a catalogue -/

/-- A desk in a library: its cache, and the queries its catalogue was asked, the last in front. -/
structure Desk where
  cache : ResultCache := {}
  asked : List String := []

def Desk.slot : CacheSlot Desk where
  read desk := desk.cache
  write cache desk := { desk with cache }

/-- The catalogue knows an address for every query. -/
def Desk.search (query : String) (desk : Desk) : Except String (List Entry) × Desk :=
  (.ok [.ofList [("mail", [query])]], { desk with asked := query :: desk.asked })

def Desk.connector : QueryConnector Desk (List Entry) :=
  directory { id := "desk" } ⟨[.literal "(uid=", .party .principal, .literal ")"]⟩ ∅ false
    (some Desk.slot) Desk.search

/-- A reader asks twice, the cache is emptied, and the reader asks twice more. -/
def Desk.day : List (Happening Desk) :=
  let call := .call { request := { principal := some "ada" } }
  [call, call, .invalidate, call, call]

/-- The catalogue is asked two times on a day with four calls. -/
theorem answers_through_cache_desk :
    Desk.connector.Honest {} Desk.day ∧
      (Desk.connector.standing {} Desk.day).world.asked = ["(uid=ada)", "(uid=ada)"] ∧
      Desk.connector.outcomes {} Desk.day = Desk.connector.uncached.outcomes {} Desk.day := by
  have apart : Desk.slot.IsApart Desk.connector.source Desk.day := {
    written := fun _ _ _ _ found => found
    asked := fun _ _ _ _ found => found
    elapsed := fun change listed => by simp [Desk.day] at listed }
  have honest : Desk.connector.Honest {} Desk.day :=
    QueryConnector.honest_of_isApart rfl apart fun _ => rfl
  have standard : IsStandard Desk.connector _ := .directory _ _ _ _ _ _
  exact ⟨honest, by decide +kernel, (answers_through_cache standard honest).1 _
    (QueryConnector.steady_of_forall_ask fun _ _ => rfl)
    (QueryConnector.steady_of_forall_ask fun _ _ => rfl)⟩

end AttributeRelease.Resolver.Query
