import AttributeRelease.Json.Parser
import AttributeRelease.Json.Printer

/-!
# Literals read back

The literal of a number reads as that number where no literal goes on (`unsigned?_literal`), and the
literal of a text reads as that text (`stringLiteral?_quote`).
-/

namespace AttributeRelease.Json

/-! ## Digits -/

/-- Characters in front of which no number literal goes on. -/
def EndsNumber (rest : List Char) : Prop :=
  ∀ c ∈ rest.head?, c.isDigit = false ∧ c ≠ '.' ∧ c ≠ 'e' ∧ c ≠ 'E'

/-- The decimal digits of a number are read as that number. -/
theorem digitsValue_toDigits (n : Nat) : digitsValue (Nat.toDigits 10 n) = n := by
  have ten := Nat.ofDigitChars_ten_toDigits (n := n)
  rw [Nat.ofDigitChars] at ten
  rw [digitsValue]
  simpa only [Nat.mul_comm] using ten

theorem isDigit_of_mem_toDigits {n : Nat} {c : Char} (member : c ∈ Nat.toDigits 10 n) :
    c.isDigit = true :=
  Nat.isDigit_of_mem_toDigits (by decide) (by decide) member

/-- Only the number zero is written with a zero in front. -/
theorem head?_toDigits_ne {n : Nat} (positive : 0 < n) :
    (Nat.toDigits 10 n).head? ≠ some '0' := by
  induction n using Nat.strongRecOn with
  | ind n ih =>
    rw [Nat.toDigits_eq_if (by decide)]
    split
    · rename_i small
      have digits : ∀ d < 10, 0 < d → d.digitChar ≠ '0' := by decide
      simpa using digits n small positive
    · rename_i large
      have leading := ih (n / 10) (by omega) (by omega)
      obtain ⟨c, more, digits⟩ :=
        List.exists_cons_of_ne_nil (Nat.toDigits_ne_nil (n := n / 10) (b := 10))
      rw [digits] at leading ⊢
      exact leading

/-- The digits of a number are read up to its end. -/
theorem takeWhile_toDigits (n : Nat) {rest : List Char}
    (ends : ∀ c ∈ rest.head?, c.isDigit = false) :
    (Nat.toDigits 10 n ++ rest).takeWhile Char.isDigit = Nat.toDigits 10 n := by
  rw [List.takeWhile_append_of_pos fun c => isDigit_of_mem_toDigits]
  cases rest with
  | nil => simp
  | cons c rest => simp [ends c rfl]

/-- Behind the digits of a number there is what follows them. -/
theorem dropWhile_toDigits (n : Nat) {rest : List Char}
    (ends : ∀ c ∈ rest.head?, c.isDigit = false) :
    (Nat.toDigits 10 n ++ rest).dropWhile Char.isDigit = rest := by
  rw [List.dropWhile_append_of_pos fun c => isDigit_of_mem_toDigits]
  cases rest with
  | nil => rfl
  | cons c rest => simp [ends c rfl]

/-- The digits of a number stand in front as a number literal asks for them. -/
theorem toDigits_wellFormed (n : Nat) :
    (!(Nat.toDigits 10 n).isEmpty &&
      ((Nat.toDigits 10 n).length == 1 || (Nat.toDigits 10 n).head? != some '0')) = true := by
  have full : Nat.toDigits 10 n ≠ [] := Nat.toDigits_ne_nil
  rcases Nat.eq_zero_or_pos n with rfl | positive
  · decide
  · simp [full, head?_toDigits_ne positive]

/-! ## Numbers -/

/-- The digits of an exponent behind its sign. -/
theorem exponent?_literal (exponent : Int) {rest : List Char}
    (ends : ∀ c ∈ rest.head?, c.isDigit = false) :
    exponent? (Number.literal.sign (decide (exponent < 0)) ++
      (Nat.toDigits 10 exponent.natAbs ++ rest)) = some (exponent, rest) := by
  by_cases negative : exponent < 0
  · obtain ⟨n, rfl⟩ : ∃ n : Nat, exponent = -n := ⟨exponent.natAbs, by omega⟩
    have full : (Nat.toDigits 10 n).isEmpty = false := by
      simp [Nat.toDigits_ne_nil]
    rw [Int.natAbs_neg, Int.natAbs_natCast, decide_eq_true negative]
    simp [exponent?, Number.literal.sign, takeWhile_toDigits _ ends, dropWhile_toDigits _ ends,
      digitsValue_toDigits, full]
  · obtain ⟨n, rfl⟩ : ∃ n : Nat, exponent = n := ⟨exponent.natAbs, by omega⟩
    rw [Int.natAbs_natCast, decide_eq_false negative]
    obtain ⟨c, more, digits⟩ :=
      List.exists_cons_of_ne_nil (Nat.toDigits_ne_nil (n := n) (b := 10))
    have digit : c.isDigit = true := isDigit_of_mem_toDigits (digits ▸ List.mem_cons_self)
    have minus : c ≠ '-' := by rintro rfl; simp at digit
    have plus : c ≠ '+' := by rintro rfl; simp at digit
    have whole := takeWhile_toDigits n ends
    have beyond := dropWhile_toDigits n ends
    have meant := digitsValue_toDigits n
    rw [digits] at whole beyond meant
    simp only [List.cons_append] at whole beyond
    simp [exponent?, Number.literal.sign, digits, minus, plus, whole, beyond, meant]

theorem guard_true : (guard (true = true) : Option Unit) = some () := rfl

/-- The literal of a number behind its sign reads as that number. -/
theorem unsigned?_integer (negative : Bool) (n : Nat) {rest : List Char} (ends : EndsNumber rest) :
    unsigned? negative (Nat.toDigits 10 n ++ rest) = some (.integer negative n, rest) := by
  have digits : ∀ c ∈ rest.head?, c.isDigit = false := fun c first => (ends c first).1
  rw [unsigned?, takeWhile_toDigits n digits, dropWhile_toDigits n digits, toDigits_wellFormed,
    guard_true]
  cases rest with
  | nil => simp [digitsValue_toDigits]
  | cons c rest =>
    obtain ⟨-, point, small, large⟩ := ends c rfl
    simp [point, small, large, digitsValue_toDigits]

/-- A number with an exponent is read back from its digits, whatever the signs. -/
theorem unsigned?_decimal (negative : Bool) (n : Nat) (exponent : Int) {rest : List Char}
    (ends : ∀ c ∈ rest.head?, c.isDigit = false) :
    unsigned? negative (Nat.toDigits 10 n ++ 'e' ::
      (Number.literal.sign (decide (exponent < 0)) ++
        (Nat.toDigits 10 exponent.natAbs ++ rest))) =
      some (.decimal negative n exponent, rest) := by
  have mark : ∀ c ∈ ('e' :: (Number.literal.sign (decide (exponent < 0)) ++
      (Nat.toDigits 10 exponent.natAbs ++ rest))).head?, c.isDigit = false := by
    rintro c ⟨⟩
    rfl
  rw [unsigned?, takeWhile_toDigits n mark, dropWhile_toDigits n mark, toDigits_wellFormed,
    guard_true]
  simp [exponent?_literal exponent ends, digitsValue_toDigits]

/-! ## Texts -/

theorem hexValue?_hexDigit (n : Nat) : hexValue? (hexDigit n) = some (n % 16) := by
  have digits : ∀ d < 16, hexValue? ((Nat.toDigits 16 d).headD '0') = some d := by decide
  exact digits (n % 16) (Nat.mod_lt _ (by decide))

/-- A character stands in a string literal as a letter behind a backslash, by its number, or as
itself. -/
theorem escapeChar_forms (c : Char) :
    (∃ letter, shortEscape? letter = some c ∧ escapeChar c = ['\\', letter]) ∨
      (c < ' ' ∧ escapeChar c =
        ['\\', 'u', '0', '0', hexDigit (c.toNat / 16), hexDigit c.toNat]) ∨
      (¬c < ' ' ∧ c ≠ '"' ∧ c ≠ '\\' ∧ escapeChar c = [c]) := by
  by_cases lettered : c ∈ ['"', '\\', '\x08', '\x0c', '\n', '\r', '\t']
  · left
    simp only [List.mem_cons, List.not_mem_nil, or_false] at lettered
    rcases lettered with rfl | rfl | rfl | rfl | rfl | rfl | rfl
    · exact ⟨'"', rfl, rfl⟩
    · exact ⟨'\\', rfl, rfl⟩
    · exact ⟨'b', rfl, rfl⟩
    · exact ⟨'f', rfl, rfl⟩
    · exact ⟨'n', rfl, rfl⟩
    · exact ⟨'r', rfl, rfl⟩
    · exact ⟨'t', rfl, rfl⟩
  · right
    simp only [List.mem_cons, List.not_mem_nil, or_false, not_or] at lettered
    by_cases control : c < ' '
    · exact .inl ⟨control, by simp [escapeChar, lettered, control]⟩
    · exact .inr ⟨control, lettered.1, lettered.2.1, by simp [escapeChar, lettered, control]⟩

/-- A unit below the surrogates stands for a character of its own, whatever follows. -/
theorem joinPieces?_unit {code : Nat} (low : code < 0xD800) (pieces : List Piece) :
    joinPieces? (.unit code :: pieces) = (joinPieces? pieces).map (Char.ofNat code :: ·) := by
  cases pieces with
  | nil => simp [joinPieces?, Nat.not_le.mpr low]
  | cons piece pieces =>
    have high : ¬0xDC00 ≤ code := by omega
    cases piece <;> simp [joinPieces?, Nat.not_le.mpr low, high]

/-- A character that was written is read as a piece which stands for it. -/
theorem exists_piece (c : Char) : ∃ piece,
    (∀ input, scanString? (escapeChar c ++ input) =
      (scanString? input).map fun read => (piece :: read.1, read.2)) ∧
    ∀ pieces, joinPieces? (piece :: pieces) = (joinPieces? pieces).map (c :: ·) := by
  obtain ⟨letter, short, form⟩ | ⟨control, form⟩ | ⟨plain, quote, mark, form⟩ :=
    escapeChar_forms c
  · refine ⟨.char c, fun input => ?_, fun pieces => rfl⟩
    have apart : letter ≠ 'u' := by rintro rfl; cases short
    rw [form]
    cases later : scanString? input <;> simp [scanString?, apart, short, later]
  · have below : c.toNat < 32 := control
    have meant : ((0 * 16 + 0) * 16 + c.toNat / 16 % 16) * 16 + c.toNat % 16 = c.toNat := by omega
    have code : unitOf? '0' '0' (hexDigit (c.toNat / 16)) (hexDigit c.toNat) = some c.toNat := by
      rw [unitOf?, hexValue?_hexDigit, hexValue?_hexDigit]
      exact congrArg some meant
    refine ⟨.unit c.toNat, fun input => ?_, fun pieces => ?_⟩
    · rw [form]
      cases later : scanString? input <;> simp [scanString?, code, later]
    · rw [joinPieces?_unit (by omega), Char.ofNat_toNat]
  · refine ⟨.char c, fun input => ?_, fun pieces => rfl⟩
    rw [form]
    cases later : scanString? input <;> simp [scanString?, plain, mark, later]

/-- What was written into a string literal is read up to its closing quote. -/
theorem scanString?_escaped (text rest : List Char) : ∃ pieces,
    scanString? (text.flatMap escapeChar ++ '"' :: rest) = some (pieces, rest) ∧
      joinPieces? pieces = some text := by
  induction text with
  | nil => exact ⟨[], rfl, rfl⟩
  | cons c text ih =>
    obtain ⟨pieces, read, joined⟩ := ih
    obtain ⟨piece, first, meant⟩ := exists_piece c
    refine ⟨piece :: pieces, ?_, ?_⟩
    · rw [List.flatMap_cons, List.append_assoc, first, read, Option.map_some]
    · rw [meant, joined, Option.map_some]

/-- The literal of a text, behind its opening quote, reads as that text. -/
theorem stringLiteral?_quote (text : String) (rest : List Char) :
    stringLiteral? (text.toList.flatMap escapeChar ++ '"' :: rest) = some (some text, rest) := by
  obtain ⟨pieces, read, joined⟩ := scanString?_escaped text.toList rest
  rw [stringLiteral?, read]
  simp [joined]

end AttributeRelease.Json
