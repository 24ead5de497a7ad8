import AttributeRelease.Proofs.Bytes.Base64

/-!
# Canonical Base64

Bytes have one text each: groups of four digits of the standard alphabet, where in the last group
two or one equals signs may stand for digits whose bits are not used, and the unused bits of the
digit before them are zero (`IsCanonical`). Exactly these texts are written (`isCanonical_iff`), and
what is read is the text that its bytes are written as (`decodeChars?_eq_some_iff`).
-/

namespace AttributeRelease.Bytes.Base64

/-- The digits of the standard alphabet in the order of their numbers. -/
def alphabet : List Char :=
  "ABCDEFGHIJKLMNOPQRSTUVWXYZabcdefghijklmnopqrstuvwxyz0123456789+/".toList

/-- A character is the digit for a number. -/
def IsDigit (c : Char) (n : Nat) : Prop := alphabet[n]? = some c

/-- The texts of bytes. A group of four digits has the bits of three bytes; for two bytes the last
two of them are not used, for one byte the last four. -/
inductive IsCanonical : List Char → Prop where
  | nil : IsCanonical []
  | oneByte {a b : Char} {m n : Nat} (first : IsDigit a m) (second : IsDigit b n)
      (unused : n % 16 = 0) : IsCanonical [a, b, '=', '=']
  | twoBytes {a b c : Char} {m n k : Nat} (first : IsDigit a m) (second : IsDigit b n)
      (third : IsDigit c k) (unused : k % 4 = 0) : IsCanonical [a, b, c, '=']
  | group {a b c d : Char} {m n k l : Nat} {rest : List Char} (first : IsDigit a m)
      (second : IsDigit b n) (third : IsDigit c k) (fourth : IsDigit d l)
      (others : IsCanonical rest) : IsCanonical (a :: b :: c :: d :: rest)

/-! ## Digits -/

theorem getElem?_alphabet : ∀ n < 64, alphabet[n]? = some (digitChar n) := by
  decide +kernel

theorem length_alphabet : alphabet.length = 64 := by
  decide +kernel

/-- There are digits for the numbers below 64, one for each. -/
theorem isDigit_iff {c : Char} {n : Nat} : IsDigit c n ↔ n < 64 ∧ digitChar n = c := by
  constructor
  · intro digit
    obtain ⟨small, -⟩ := List.getElem?_eq_some_iff.mp digit
    rw [length_alphabet] at small
    exact ⟨small, Option.some.inj ((getElem?_alphabet n small).symm.trans digit)⟩
  · rintro ⟨small, rfl⟩
    exact getElem?_alphabet n small

/-- All digits are ASCII characters, so the table below covers them. -/
theorem toNat_lt_of_digit? {c : Char} {n : Nat} (found : digit? c = some n) : c.toNat < 128 := by
  unfold digit? at found
  split at found
  next upper => exact Nat.lt_of_le_of_lt upper.2 (by decide)
  next =>
    split at found
    next lower => exact Nat.lt_of_le_of_lt lower.2 (by decide)
    next =>
      split at found
      next figure => exact Nat.lt_of_le_of_lt figure.2 (by decide)
      next =>
        split at found
        next plus => rw [plus]; decide
        next =>
          split at found
          next slash => rw [slash]; decide
          next => cases found

/-- An ASCII character that is read as a number is the digit for it, which is checked one by one. -/
theorem digits_ascii : ∀ code < 128, ∀ n ∈ digit? (Char.ofNat code),
    n < 64 ∧ digitChar n = Char.ofNat code := by
  decide +kernel

/-- A character is read as the number that it is the digit for. -/
theorem digit?_eq_some_iff {c : Char} {n : Nat} : digit? c = some n ↔ IsDigit c n := by
  rw [isDigit_iff]
  constructor
  · intro found
    have read := digits_ascii c.toNat (toNat_lt_of_digit? found) n
    rw [Char.ofNat_toNat] at read
    exact read found
  · rintro ⟨small, rfl⟩
    exact digit?_digitChar small

/-! ## Groups -/

theorem toNat_ofNat {n : Nat} (small : n < 256) : (UInt8.ofNat n).toNat = n :=
  UInt8.toNat_ofNat_of_lt' small

/-- One byte is written as two digits, the second without its last four bits, and two paddings. -/
theorem encodeChars_lastByte {m n : Nat} (first : m < 64) (second : n < 64) (unused : n % 16 = 0) :
    encodeChars [.ofNat ((m * 64 + n) / 16)] = [digitChar m, digitChar n, '=', '='] := by
  have byte := toNat_ofNat (n := (m * 64 + n) / 16) (by omega)
  have high : (m * 64 + n) / 16 * 16 / 64 = m := by omega
  have low : (m * 64 + n) / 16 * 16 % 64 = n := by omega
  simp only [encodeChars, byte, high, low]

/-- Two bytes are written as three digits, the third without its last two bits, and a padding. -/
theorem encodeChars_lastBytes {m n k : Nat} (first : m < 64) (second : n < 64) (third : k < 64)
    (unused : k % 4 = 0) :
    encodeChars [.ofNat (((m * 64 + n) * 64 + k) / 1024),
        .ofNat (((m * 64 + n) * 64 + k) / 4 % 256)] =
      [digitChar m, digitChar n, digitChar k, '='] := by
  have byteA := toNat_ofNat (n := ((m * 64 + n) * 64 + k) / 1024) (by omega)
  have byteB := toNat_ofNat (n := ((m * 64 + n) * 64 + k) / 4 % 256) (by omega)
  have whole : (((m * 64 + n) * 64 + k) / 1024 * 256 + ((m * 64 + n) * 64 + k) / 4 % 256) * 4 =
      (m * 64 + n) * 64 + k := by
    omega
  have high : ((m * 64 + n) * 64 + k) / 4096 = m := by omega
  have middle : ((m * 64 + n) * 64 + k) / 64 % 64 = n := by omega
  have low : ((m * 64 + n) * 64 + k) % 64 = k := by omega
  simp only [encodeChars, byteA, byteB, whole, high, middle, low]

/-- Three bytes are written as four digits, and the others behind them. -/
theorem encodeChars_group {m n k l : Nat} (first : m < 64) (second : n < 64) (third : k < 64)
    (fourth : l < 64) (rest : List UInt8) :
    encodeChars (.ofNat ((((m * 64 + n) * 64 + k) * 64 + l) / 65536) ::
        .ofNat ((((m * 64 + n) * 64 + k) * 64 + l) / 256 % 256) ::
        .ofNat ((((m * 64 + n) * 64 + k) * 64 + l) % 256) :: rest) =
      digitChar m :: digitChar n :: digitChar k :: digitChar l :: encodeChars rest := by
  generalize bits : ((m * 64 + n) * 64 + k) * 64 + l = w
  have byteA := toNat_ofNat (n := w / 65536) (by omega)
  have byteB := toNat_ofNat (n := w / 256 % 256) (by omega)
  have byteC := toNat_ofNat (n := w % 256) (by omega)
  have whole : (w / 65536 * 256 + w / 256 % 256) * 256 + w % 256 = w := by omega
  have digitA : w / 262144 = m := by omega
  have digitB : w / 4096 % 64 = n := by omega
  have digitC : w / 64 % 64 = k := by omega
  have digitD : w % 64 = l := by omega
  simp only [encodeChars, byteA, byteB, byteC, whole, digitA, digitB, digitC, digitD]

/-! ## Texts -/

/-- Canonical texts are written for some bytes. -/
theorem IsCanonical.exists_encodeChars {chars : List Char} (canonical : IsCanonical chars) :
    ∃ bytes, encodeChars bytes = chars := by
  induction canonical with
  | nil => exact ⟨[], rfl⟩
  | oneByte first second unused =>
    obtain ⟨smallA, rfl⟩ := isDigit_iff.mp first
    obtain ⟨smallB, rfl⟩ := isDigit_iff.mp second
    exact ⟨_, encodeChars_lastByte smallA smallB unused⟩
  | twoBytes first second third unused =>
    obtain ⟨smallA, rfl⟩ := isDigit_iff.mp first
    obtain ⟨smallB, rfl⟩ := isDigit_iff.mp second
    obtain ⟨smallC, rfl⟩ := isDigit_iff.mp third
    exact ⟨_, encodeChars_lastBytes smallA smallB smallC unused⟩
  | group first second third fourth _ ih =>
    obtain ⟨smallA, rfl⟩ := isDigit_iff.mp first
    obtain ⟨smallB, rfl⟩ := isDigit_iff.mp second
    obtain ⟨smallC, rfl⟩ := isDigit_iff.mp third
    obtain ⟨smallD, rfl⟩ := isDigit_iff.mp fourth
    obtain ⟨bytes, rfl⟩ := ih
    exact ⟨_, encodeChars_group smallA smallB smallC smallD bytes⟩

/-- What is read is canonical. -/
theorem isCanonical_of_decodeChars? {chars : List Char} {bytes : List UInt8}
    (read : decodeChars? chars = some bytes) : IsCanonical chars := by
  induction chars using decodeChars?.induct generalizing bytes with
  | case1 => exact .nil
  | case2 a b =>
    obtain ⟨m, first, read⟩ := Option.bind_eq_some_iff.mp read
    obtain ⟨n, second, read⟩ := Option.bind_eq_some_iff.mp read
    by_cases unused : (m * 64 + n) % 16 = 0
    · exact .oneByte (digit?_eq_some_iff.mp first) (digit?_eq_some_iff.mp second) (by omega)
    · rw [if_neg unused] at read
      cases read
  | case3 a b c other =>
    rw [decodeChars?_lastBytes other] at read
    obtain ⟨m, first, read⟩ := Option.bind_eq_some_iff.mp read
    obtain ⟨n, second, read⟩ := Option.bind_eq_some_iff.mp read
    obtain ⟨k, third, read⟩ := Option.bind_eq_some_iff.mp read
    by_cases unused : ((m * 64 + n) * 64 + k) % 4 = 0
    · exact .twoBytes (digit?_eq_some_iff.mp first) (digit?_eq_some_iff.mp second)
        (digit?_eq_some_iff.mp third) (by omega)
    · rw [if_neg unused] at read
      cases read
  | case4 a b c d rest more last ih =>
    rw [decodeChars?] at read
    · obtain ⟨own, group, read⟩ := Option.bind_eq_some_iff.mp read
      obtain ⟨others, follow, -⟩ := Option.bind_eq_some_iff.mp read
      obtain ⟨m, first, group⟩ := Option.bind_eq_some_iff.mp group
      obtain ⟨n, second, group⟩ := Option.bind_eq_some_iff.mp group
      obtain ⟨k, third, group⟩ := Option.bind_eq_some_iff.mp group
      obtain ⟨l, fourth, -⟩ := Option.bind_eq_some_iff.mp group
      exact .group (digit?_eq_some_iff.mp first) (digit?_eq_some_iff.mp second)
        (digit?_eq_some_iff.mp third) (digit?_eq_some_iff.mp fourth) (ih follow)
    · exact more
    · exact last
  | case5 chars empty padded short longer =>
    rw [decodeChars?] at read
    · cases read
    all_goals assumption

/-- What is read is the text that the bytes are written as. -/
theorem decodeChars?_eq_some_iff {chars : List Char} {bytes : List UInt8} :
    decodeChars? chars = some bytes ↔ encodeChars bytes = chars := by
  constructor
  · intro read
    obtain ⟨own, rfl⟩ := (isCanonical_of_decodeChars? read).exists_encodeChars
    rw [decodeChars?_encodeChars] at read
    rw [Option.some.inj read]
  · rintro rfl
    exact decodeChars?_encodeChars bytes

/-- A text is decoded exactly if it is the text of some bytes, and then to those. -/
theorem decode?_eq_some_iff {text : String} {bytes : List UInt8} :
    decode? text = some bytes ↔ encode bytes = text := by
  rw [decode?, decodeChars?_eq_some_iff, encode, ← String.toList_inj, String.toList_ofList]

/-- Only the empty list of bytes has an empty text. -/
theorem encode_eq_empty_iff {bytes : List UInt8} : encode bytes = "" ↔ bytes = [] := by
  constructor
  · intro blank
    have read := decode?_encode bytes
    rw [blank] at read
    exact (Option.some.inj read).symm
  · rintro rfl
    rfl

/-- The canonical texts are those that are written. -/
theorem isCanonical_iff {chars : List Char} :
    IsCanonical chars ↔ ∃ bytes, encodeChars bytes = chars := by
  constructor
  · exact IsCanonical.exists_encodeChars
  · rintro ⟨bytes, rfl⟩
    exact isCanonical_of_decodeChars? (decodeChars?_encodeChars bytes)

/-- Exactly the canonical texts are decoded. -/
theorem isSome_decodeChars?_iff {chars : List Char} :
    (decodeChars? chars).isSome ↔ IsCanonical chars := by
  simp only [Option.isSome_iff_exists, decodeChars?_eq_some_iff, isCanonical_iff]

instance : DecidablePred IsCanonical := fun _ => decidable_of_iff _ isSome_decodeChars?_iff

theorem IsDigit.mem {c : Char} {n : Nat} (digit : IsDigit c n) : c ∈ alphabet :=
  List.mem_of_getElem? digit

/-- A canonical text is made of digits with at most two equals signs behind them, and of whole
groups. -/
theorem IsCanonical.exists_digits {chars : List Char} (canonical : IsCanonical chars) :
    ∃ digits padding, chars = digits ++ List.replicate padding '=' ∧
      (∀ c ∈ digits, c ∈ alphabet) ∧ padding ≤ 2 ∧ (digits.length + padding) % 4 = 0 := by
  induction canonical with
  | nil => exact ⟨[], 0, rfl, List.forall_mem_nil _, by decide, rfl⟩
  | @oneByte a b _ _ first second =>
    refine ⟨[a, b], 2, rfl, ?_, by decide, by simp⟩
    simp only [List.forall_mem_cons]
    exact ⟨first.mem, second.mem, List.forall_mem_nil _⟩
  | @twoBytes a b c _ _ _ first second third =>
    refine ⟨[a, b, c], 1, rfl, ?_, by decide, by simp⟩
    simp only [List.forall_mem_cons]
    exact ⟨first.mem, second.mem, third.mem, List.forall_mem_nil _⟩
  | @group a b c d _ _ _ _ rest first second third fourth _ ih =>
    obtain ⟨digits, padding, rfl, each, few, whole⟩ := ih
    refine ⟨a :: b :: c :: d :: digits, padding, rfl, ?_, few, ?_⟩
    · simp only [List.forall_mem_cons]
      exact ⟨first.mem, second.mem, third.mem, fourth.mem, each⟩
    · simp only [List.length_cons]
      omega

end AttributeRelease.Bytes.Base64
