import AttributeRelease.Proofs.Query.Caching
import AttributeRelease.Proofs.Query.Templates

/-!
# Values in the queries of databases

In a query for a database a quote opens a literal, two quotes in a row inside it stand for one, and
a single quote closes it (`roles`). Where a template has its placeholders inside literals, that is
behind an odd number of quotes, its characters keep their roles whatever the values are, and the
values stay inside the literals (`values_stay_in_literals`).
-/

namespace AttributeRelease.Resolver.Query

/-! ## Reading literals -/

/-- What a character of a query is for. -/
inductive Role where
  | outside
  | opening
  | content
  /-- The first of two quotes that stand for one. -/
  | doubling
  | closing
  deriving DecidableEq, Repr

/-- Whether a character stands between the quotes of a literal. -/
def Role.isInside : Role → Bool
  | .content => true
  | .doubling => true
  | _ => false

section Reading

variable {α : Type} (isQuote : α → Bool)

/-- The characters of a text with their roles; `inside` says whether it begins inside a literal. -/
def roles : Bool → List α → List (α × Role)
  | _, [] => []
  | false, c :: rest =>
    if isQuote c then (c, .opening) :: roles true rest else (c, .outside) :: roles false rest
  | true, c :: rest =>
    if isQuote c then
      match rest with
      | [] => [(c, .closing)]
      | d :: behind =>
        if isQuote d then (c, .doubling) :: (d, .content) :: roles true behind
        else (c, .closing) :: roles false (d :: behind)
    else (c, .content) :: roles true rest

/-- What stands in the literal that a text begins in, and in those that follow. -/
def literalParts : List (α × Role) → List α × List (List α)
  | [] => ([], [])
  | (c, role) :: rest =>
    let parts := literalParts rest
    match role with
    | .content => (c :: parts.1, parts.2)
    | .opening => ([], parts.1 :: parts.2)
    | _ => parts

/-- The contents of the literals of a text, the last of which may lack its closing quote. -/
def literals (text : List α) : List (List α) := (literalParts (roles isQuote false text)).2

end Reading

/-- Whether a character is the quote of literals. -/
def isSqlQuote (c : Char) : Bool := c == '\''

/-! ## Templates as symbols -/

/-- A character of a literal of a template, or a placeholder. -/
inductive Symbol where
  | char (c : Char)
  | hole (segment : Segment)
  deriving DecidableEq, Repr

namespace Symbol

/-- Whether a symbol is a quote. -/
def isQuote : Symbol → Bool
  | .char c => isSqlQuote c
  | .hole _ => false

/-- The character of a symbol, where a letter takes the place of every placeholder. -/
def lettered (letter : Char) : Symbol → Char
  | .char c => c
  | .hole _ => letter

/-- The characters of a symbol, where values take the places of placeholders. -/
def substituted (values : Segment → String) : Symbol → List Char
  | .char c => [c]
  | .hole segment => (values segment).toList

/-- The characters of a symbol in a query. -/
def queried (values : Segment → String) : Symbol → List Char
  | .char c => [c]
  | .hole segment => (values segment).toList.flatMap escapeSqlChar

end Symbol

/-- The characters of an escaped value with their roles inside a literal. -/
def valueRoles (value : String) : List (Char × Role) :=
  value.toList.flatMap fun c =>
    if isSqlQuote c then [(c, .doubling), (c, .content)] else [(c, .content)]

/-- The characters of a symbol in a query with their roles: a character of the template has the role
of the symbol, and those of a value are inside. -/
def queriedRoles (values : Segment → String) : Symbol × Role → List (Char × Role)
  | (.char c, role) => [(c, role)]
  | (.hole segment, _) => valueRoles (values segment)

/-- The symbols of a segment. -/
def Segment.symbols : Segment → List Symbol
  | .literal text => text.toList.map .char
  | segment => [.hole segment]

/-- The symbols of a template. -/
def Template.symbols (template : Template) : List Symbol :=
  template.segments.flatMap Segment.symbols

/-- Every placeholder stands behind an odd number of quotes. -/
def Template.QuotesPlaceholders (template : Template) : Prop :=
  ∀ before segment after, template.segments = before ++ segment :: after →
    segment.isLiteral = false → (before.flatMap Segment.literalText).countP isSqlQuote % 2 = 1

/-- Placeholders only inside literals, by the number of quotes before them. -/
def HolesInside : Bool → List Symbol → Prop
  | _, [] => True
  | inside, .char c :: rest => HolesInside (inside != isSqlQuote c) rest
  | inside, .hole _ :: rest => inside = true ∧ HolesInside inside rest

/-- A sum is odd if one of its parts is. -/
theorem odd_add (m n : Nat) : ((m + n) % 2 == 1) = ((m % 2 == 1) != (n % 2 == 1)) := by
  rcases Nat.mod_two_eq_zero_or_one m with first | first <;>
    rcases Nat.mod_two_eq_zero_or_one n with second | second <;>
      simp [Nat.add_mod, first, second]

/-- Each text between placeholders turns inside and outside around if it has an odd number of
quotes. -/
theorem holesInside_append (text : List Char) (inside : Bool) (rest : List Symbol) :
    HolesInside inside (text.map .char ++ rest) ↔
      HolesInside (inside != (text.countP isSqlQuote % 2 == 1)) rest := by
  induction text generalizing inside with
  | nil => simp
  | cons c text ih =>
    rw [List.map_cons, List.cons_append, HolesInside, ih, List.countP_cons, odd_add]
    by_cases quote : isSqlQuote c = true <;> cases inside <;> simp [quote]

/-- Behind quotes in an odd or even number, as many as the segments before a template. -/
theorem holesInside_of_quotes (segments : List Segment) (quotes : Nat)
    (quoted : ∀ before segment after, segments = before ++ segment :: after →
      segment.isLiteral = false →
        (quotes + (before.flatMap Segment.literalText).countP isSqlQuote) % 2 = 1) :
    HolesInside (quotes % 2 == 1) (segments.flatMap Segment.symbols) := by
  induction segments generalizing quotes with
  | nil => trivial
  | cons segment rest ih =>
    have onward : HolesInside ((quotes + segment.literalText.countP isSqlQuote) % 2 == 1)
        (rest.flatMap Segment.symbols) := by
      apply ih
      intro before other after split placeholder
      have behind := quoted (segment :: before) other after
        (by rw [split, List.cons_append]) placeholder
      rwa [List.flatMap_cons, List.countP_append, ← Nat.add_assoc] at behind
    rw [List.flatMap_cons]
    cases segment with
    | literal text =>
      rw [odd_add] at onward
      exact (holesInside_append _ _ _).mpr onward
    | party who | attr id =>
      have here : quotes % 2 = 1 := quoted [] _ rest rfl rfl
      exact ⟨beq_iff_eq.mpr here, onward⟩

/-- Behind an odd number of quotes a placeholder stands inside a literal. -/
theorem holesInside_symbols {template : Template} (quoted : template.QuotesPlaceholders) :
    HolesInside false template.symbols := by
  apply holesInside_of_quotes template.segments 0
  intro before segment after split placeholder
  rw [Nat.zero_add]
  exact quoted before segment after split placeholder

/-! ## Roles in queries -/

section Roles

variable {α β : Type} {isQuote : α → Bool} {isOther : β → Bool}

theorem roles_opening {c : α} (quote : isQuote c = true) (rest : List α) :
    roles isQuote false (c :: rest) = (c, .opening) :: roles isQuote true rest := by
  rw [roles, if_pos quote]

theorem roles_outside {c : α} (other : isQuote c = false) (rest : List α) :
    roles isQuote false (c :: rest) = (c, .outside) :: roles isQuote false rest := by
  rw [roles, if_neg (Bool.not_eq_true _ ▸ other)]

theorem roles_content {c : α} (other : isQuote c = false) (rest : List α) :
    roles isQuote true (c :: rest) = (c, .content) :: roles isQuote true rest := by
  cases rest <;> simp [roles, other]

theorem roles_doubling {c d : α} (first : isQuote c = true) (second : isQuote d = true)
    (rest : List α) :
    roles isQuote true (c :: d :: rest) =
      (c, .doubling) :: (d, .content) :: roles isQuote true rest := by
  rw [roles, if_pos first, if_pos second]

theorem roles_closing {c : α} (quote : isQuote c = true) (rest : List α)
    (single : ∀ d ∈ rest.head?, isQuote d = false) :
    roles isQuote true (c :: rest) = (c, .closing) :: roles isQuote false rest := by
  cases rest with
  | nil => simp only [roles, quote, if_true]
  | cons d behind =>
    have other : isQuote d = false := single d rfl
    conv_lhs => rw [roles, if_pos quote, if_neg (Bool.not_eq_true _ ▸ other)]

/-- Reading loses no characters. -/
theorem map_fst_roles (inside : Bool) (text : List α) :
    (roles isQuote inside text).map Prod.fst = text := by
  fun_induction roles isQuote inside text <;> simp_all

/-- The roles of a text depend on where its quotes are, and on nothing else. -/
theorem roles_map {f : α → β} (same : ∀ c, isOther (f c) = isQuote c) (inside : Bool)
    (text : List α) :
    roles isOther inside (text.map f) =
      (roles isQuote inside text).map fun item => (f item.1, item.2) := by
  fun_induction roles isQuote inside text with
  | case1 inside => cases inside <;> rfl
  | case2 c rest quote ih =>
    rw [List.map_cons, roles_opening ((same c).trans quote), ih, List.map_cons]
  | case3 c rest other ih =>
    rw [List.map_cons, roles_outside ((same c).trans (Bool.not_eq_true _ ▸ other)), ih,
      List.map_cons]
  | case4 c quote => exact roles_closing ((same c).trans quote) [] nofun
  | case5 c quote d behind doubled ih =>
    rw [List.map_cons, List.map_cons,
      roles_doubling ((same c).trans quote) ((same d).trans doubled), ih, List.map_cons,
      List.map_cons]
  | case6 c quote d behind single ih =>
    rw [List.map_cons, roles_closing ((same c).trans quote), ih, List.map_cons]
    intro other first
    cases first
    exact (same d).trans (Bool.not_eq_true _ ▸ single)
  | case7 c rest other ih =>
    rw [List.map_cons, roles_content ((same c).trans (Bool.not_eq_true _ ▸ other)), ih,
      List.map_cons]

/-- The parts depend on the roles of the characters and not on the characters. -/
theorem literalParts_map (f : α → β) (text : List (α × Role)) :
    literalParts (text.map fun item => (f item.1, item.2)) =
      ((literalParts text).1.map f, (literalParts text).2.map (List.map f)) := by
  induction text with
  | nil => rfl
  | cons item rest ih =>
    obtain ⟨c, role⟩ := item
    cases role <;> simp only [List.map_cons, List.map_nil, literalParts, ih]

end Roles

/-- An escaped value stays inside the literal that it begins in. -/
theorem roles_escaped (value : String) (rest : List Char) :
    roles isSqlQuote true (value.toList.flatMap escapeSqlChar ++ rest) =
      valueRoles value ++ roles isSqlQuote true rest := by
  rw [valueRoles]
  induction value.toList with
  | nil => rfl
  | cons c chars ih =>
    rw [List.flatMap_cons, List.flatMap_cons, List.append_assoc, List.append_assoc, ← ih,
      escapeSqlChar]
    by_cases quote : c = '\''
    · have isQuote : isSqlQuote '\'' = true := rfl
      rw [quote, if_pos rfl, if_pos isQuote]
      exact roles_doubling isQuote isQuote _
    · have other : isSqlQuote c = false := beq_eq_false_iff_ne.mpr quote
      rw [if_neg quote, if_neg (Bool.not_eq_true _ ▸ other)]
      exact roles_content other _

theorem HolesInside.of_quote {symbol : Symbol} {rest : List Symbol} {inside : Bool}
    (quote : symbol.isQuote = true) (holes : HolesInside inside (symbol :: rest)) :
    HolesInside (!inside) rest := by
  cases symbol with
  | hole segment => cases quote
  | char c =>
    have quote : isSqlQuote c = true := quote
    rwa [HolesInside, quote, Bool.bne_true] at holes

theorem HolesInside.of_other {symbol : Symbol} {rest : List Symbol} {inside : Bool}
    (other : ¬ symbol.isQuote = true) (holes : HolesInside inside (symbol :: rest)) :
    HolesInside inside rest := by
  cases symbol with
  | hole segment => exact holes.2
  | char c =>
    have other : isSqlQuote c = false := Bool.not_eq_true _ ▸ other
    rwa [HolesInside, other, Bool.bne_false] at holes

variable {values : Segment → String}

/-- Characters of the template keep their roles, and values stay inside literals. -/
theorem roles_queried (values : Segment → String) {inside : Bool} {symbols : List Symbol}
    (holes : HolesInside inside symbols) :
    roles isSqlQuote inside (symbols.flatMap (Symbol.queried values)) =
      (roles Symbol.isQuote inside symbols).flatMap (queriedRoles values) := by
  fun_induction roles Symbol.isQuote inside symbols with
  | case1 inside => cases inside <;> rfl
  | case2 symbol rest quote ih =>
    have behind := ih (holes.of_quote quote)
    cases symbol with
    | hole segment => cases quote
    | char c =>
      have quote : isSqlQuote c = true := quote
      exact (roles_opening quote _).trans (congrArg _ behind)
  | case3 symbol rest other ih =>
    have behind := ih (holes.of_other other)
    cases symbol with
    | hole segment => cases holes.1
    | char c =>
      have other : isSqlQuote c = false := Bool.not_eq_true _ ▸ other
      exact (roles_outside other _).trans (congrArg _ behind)
  | case4 symbol quote =>
    cases symbol with
    | hole segment => cases quote
    | char c =>
      have quote : isSqlQuote c = true := quote
      exact roles_closing quote [] nofun
  | case5 symbol quote next behind doubled ih =>
    have onward := ih ((holes.of_quote quote).of_quote doubled)
    cases symbol with
    | hole segment => cases quote
    | char c =>
      cases next with
      | hole segment => cases doubled
      | char d =>
        have quote : isSqlQuote c = true := quote
        have doubled : isSqlQuote d = true := doubled
        exact (roles_doubling quote doubled _).trans (congrArg (_ :: _ :: ·) onward)
  | case6 symbol quote next behind single ih =>
    have outside := holes.of_quote quote
    have onward := ih outside
    cases symbol with
    | hole segment => cases quote
    | char c =>
      cases next with
      | hole segment => cases outside.1
      | char d =>
        have quote : isSqlQuote c = true := quote
        refine (roles_closing quote _ ?_).trans (congrArg _ onward)
        intro first listed
        cases listed
        exact Bool.not_eq_true _ ▸ single
  | case7 symbol rest other ih =>
    have behind := ih (holes.of_other other)
    cases symbol with
    | hole segment => exact (roles_escaped _ _).trans (congrArg _ behind)
    | char c =>
      have other : isSqlQuote c = false := Bool.not_eq_true _ ▸ other
      exact (roles_content other _).trans (congrArg _ behind)

/-- Placeholders are read as parts of literals. -/
theorem content_of_hole {inside : Bool} {symbols : List Symbol} (holes : HolesInside inside symbols)
    {segment : Segment} {role : Role}
    (listed : (.hole segment, role) ∈ roles Symbol.isQuote inside symbols) : role = .content := by
  fun_induction roles Symbol.isQuote inside symbols with
  | case1 inside => cases listed
  | case2 symbol rest quote ih =>
    rcases List.mem_cons.mp listed with same | listed
    · cases same
      cases quote
    · exact ih (holes.of_quote quote) listed
  | case3 symbol rest other ih =>
    rcases List.mem_cons.mp listed with same | listed
    · cases same
      cases holes.1
    · exact ih (holes.of_other other) listed
  | case4 symbol quote =>
    cases List.mem_singleton.mp listed
    cases quote
  | case5 symbol quote next behind doubled ih =>
    rcases List.mem_cons.mp listed with same | listed
    · cases same
      cases quote
    · rcases List.mem_cons.mp listed with same | listed
      · cases same
        rfl
      · exact ih ((holes.of_quote quote).of_quote doubled) listed
  | case6 symbol quote next behind single ih =>
    rcases List.mem_cons.mp listed with same | listed
    · cases same
      cases quote
    · exact ih (holes.of_quote quote) listed
  | case7 symbol rest other ih =>
    rcases List.mem_cons.mp listed with same | listed
    · cases same
      rfl
    · exact ih (holes.of_other other) listed

/-! ## Contents of literals -/

/-- A value that is put in adds all of its characters to the literal around it. -/
theorem literalParts_valueRoles (value : String) (rest : List (Char × Role)) :
    literalParts (valueRoles value ++ rest) =
      (value.toList ++ (literalParts rest).1, (literalParts rest).2) := by
  rw [valueRoles]
  induction value.toList with
  | nil => rfl
  | cons c chars ih =>
    rw [List.flatMap_cons, List.append_assoc]
    by_cases quote : isSqlQuote c = true
    · simp only [quote, if_true, List.cons_append, List.nil_append, literalParts, ih]
    · simp only [quote, Bool.false_eq_true, if_false, List.cons_append, List.nil_append,
        literalParts, ih]

/-- The literals of a query are those of the template with the values in their places. -/
theorem literalParts_queriedRoles {marked : List (Symbol × Role)}
    (holes : ∀ segment role, (.hole segment, role) ∈ marked → role = .content) :
    literalParts (marked.flatMap (queriedRoles values)) =
      ((literalParts marked).1.flatMap (Symbol.substituted values),
        (literalParts marked).2.map (List.flatMap (Symbol.substituted values))) := by
  induction marked with
  | nil => rfl
  | cons item rest ih =>
    obtain ⟨symbol, role⟩ := item
    have before := ih fun segment role listed => holes segment role (.tail _ listed)
    rw [List.flatMap_cons]
    cases symbol with
    | hole segment =>
      cases holes segment role (.head _)
      rw [queriedRoles, literalParts_valueRoles, before]
      rfl
    | char c =>
      cases role <;>
        simp only [queriedRoles, List.cons_append, List.nil_append, literalParts, before,
          List.flatMap_cons, Symbol.substituted, List.map_cons, List.flatMap_nil]

/-- No character of a value that is put in stands outside of the literal. -/
theorem inside_of_mem_valueRoles {value : String} {item : Char × Role}
    (listed : item ∈ valueRoles value) : item.2.isInside = true := by
  obtain ⟨c, _, inside⟩ := List.mem_flatMap.mp listed
  split at inside
  · rcases List.mem_cons.mp inside with same | inside
    · rw [same]
      rfl
    · rw [List.mem_singleton.mp inside]
      rfl
  · rw [List.mem_singleton.mp inside]
    rfl

/-- The roles are those of the characters of the escaped value. -/
theorem map_fst_valueRoles (value : String) :
    (valueRoles value).map Prod.fst = (escapeSql value).toList := by
  have read := congrArg (List.map Prod.fst) (roles_escaped value [])
  rw [map_fst_roles, List.append_nil, List.map_append] at read
  rw [escapeSql, String.toList_ofList, read]
  exact (List.append_nil _).symm

/-! ## Queries -/

/-- A query has the symbols of its template, in which values take the places of placeholders. -/
theorem flatMap_filled {segments : List Segment} {value? : Segment → Option String}
    (has : ∀ segment ∈ segments, segment.isLiteral = false →
      value? segment = some (values segment)) :
    segments.flatMap (Segment.filled value? escapeSql) =
      (segments.flatMap Segment.symbols).flatMap (Symbol.queried values) := by
  rw [List.flatMap_assoc]
  refine List.flatMap_congr fun segment listed => ?_
  cases segment with
  | literal text =>
    rw [Segment.filled, Segment.symbols, List.flatMap_map]
    exact (List.flatMap_singleton' text.toList).symm
  | party who | attr id =>
    rw [filled_of_value? rfl (has _ listed rfl), escapeSql, String.toList_ofList]
    exact (List.append_nil _).symm

/-- Values stay in the literals of their template.

Read with its literals, a query of a connector to a database has the characters of the template in
the roles that they have where any letter takes the places of the placeholders, and the characters
of the values inside literals. Its literals have the contents of those of the template, with the
values as they are in the places of the placeholders. -/
theorem values_stay_in_literals {σ : Type} (settings : ConnectorSettings) {template : Template}
    (renames : List (String × String)) (cache : Option (CacheSlot σ))
    (run : String → σ → Except String (List Row) × σ) (quoted : template.QuotesPlaceholders)
    {resolution : Resolution} {query : String}
    (rendered : (relational settings template renames cache run).query resolution = .ok query)
    {letter : Char} (plain : isSqlQuote letter = false) :
    ∃ values : Segment → String,
      (∀ segment ∈ template.segments, segment.isLiteral = false →
        placeholderValue? resolution settings.dependencies segment = some (values segment)) ∧
      let marked := roles Symbol.isQuote false template.symbols
      let lettered := template.symbols.map (Symbol.lettered letter)
      marked.map Prod.fst = template.symbols ∧
        query.toList = template.symbols.flatMap (Symbol.queried values) ∧
        roles isSqlQuote false lettered =
          (marked.map fun item => (item.1.lettered letter, item.2)) ∧
        roles isSqlQuote false query.toList = marked.flatMap (queriedRoles values) ∧
        (∀ value, (valueRoles value).map Prod.fst = (escapeSql value).toList ∧
          ∀ item ∈ valueRoles value, item.2.isInside = true) ∧
        literals isSqlQuote lettered =
          (literals Symbol.isQuote template.symbols).map (List.map (Symbol.lettered letter)) ∧
        literals isSqlQuote query.toList =
          (literals Symbol.isQuote template.symbols).map
            (List.flatMap (Symbol.substituted values)) := by
  obtain ⟨filled, found⟩ := Template.of_render rendered
  let values (segment : Segment) : String :=
    (placeholderValue? resolution settings.dependencies segment).getD ""
  have has : ∀ segment ∈ template.segments, segment.isLiteral = false →
      placeholderValue? resolution settings.dependencies segment = some (values segment) := by
    intro segment listed placeholder
    obtain ⟨value, stands⟩ :
        ∃ value, placeholderValue? resolution settings.dependencies segment = some value :=
      found segment listed placeholder
    simp only [values, stands, Option.getD_some]
  have holes := holesInside_symbols quoted
  have spelled : query.toList = template.symbols.flatMap (Symbol.queried values) :=
    filled.trans (flatMap_filled has)
  have letters (symbol : Symbol) : isSqlQuote (symbol.lettered letter) = symbol.isQuote := by
    cases symbol with
    | char c => rfl
    | hole segment => exact plain
  have plainRoles := roles_map letters false template.symbols
  have queryRoles := roles_queried values holes
  refine ⟨values, has, map_fst_roles _ _, spelled, plainRoles, ?_, fun value =>
    ⟨map_fst_valueRoles value, fun item => inside_of_mem_valueRoles⟩, ?_, ?_⟩
  · rw [spelled, queryRoles]
  · rw [literals, plainRoles, literalParts_map]
    rfl
  · rw [literals, spelled, queryRoles,
      literalParts_queriedRoles fun segment role => content_of_hole holes]
    rfl

/-- A register of people, asked for a person by name. -/
def Register.template : Template :=
  ⟨[.literal "SELECT mail FROM people WHERE uid = '", .party .principal, .literal "' LIMIT 1"]⟩

def Register.connector : QueryConnector Unit (List Row) :=
  relational { id := "people" } Register.template [] none fun _ world => (.ok [], world)

/-- The statement of the register has each placeholder between quotes. -/
theorem Register.quotesPlaceholders : Register.template.QuotesPlaceholders := by
  intro before segment after split placeholder
  match before, split with
  | [], split =>
    cases split
    cases placeholder
  | [_], split =>
    cases split
    rfl
  | [_, _], split =>
    cases split
    cases placeholder
  | _ :: _ :: _ :: before, split =>
    have longer := congrArg List.length split
    simp only [List.length_append, List.length_cons] at longer
    change 3 = _ at longer
    omega

/-- A name with quotes in it is looked up as it is, also where quotes end it. -/
theorem values_stay_in_literals_register :
    let crafted : Resolution := { request := { principal := some "x' OR ''='" } }
    let query := "SELECT mail FROM people WHERE uid = 'x'' OR ''''=''' LIMIT 1"
    Register.template.QuotesPlaceholders ∧
      Register.connector.query crafted = .ok query ∧ isSqlQuote 'x' = false ∧
      literals isSqlQuote query.toList = ["x' OR ''='".toList] := by
  intro crafted query
  have rendered : Register.connector.query crafted = .ok query := by decide +kernel
  obtain ⟨values, has, _, _, _, _, _, _, contents⟩ :=
    values_stay_in_literals { id := "people" } [] none (fun _ world => (.ok [], world))
      Register.quotesPlaceholders rendered (show isSqlQuote 'x' = false from rfl)
  have named : some "x' OR ''='" = some (values (.party .principal)) :=
    has (.party .principal) (.tail _ (.head _)) rfl
  have symbols : literals Symbol.isQuote Register.template.symbols =
      [[.hole (.party .principal)]] := by decide +kernel
  refine ⟨Register.quotesPlaceholders, rendered, rfl, ?_⟩
  rw [contents, symbols, Option.some.inj named]
  exact congrArg (fun chars => [chars]) (List.append_nil _)

end AttributeRelease.Resolver.Query
