import AttributeRelease.Bytes.Base64
import AttributeRelease.Text.Blank

/-!
# Reading Base64 undoes writing it

Bytes are read back from their characters (`decode?_encode`), which are digits and equals signs
without any space around them (`trim_encode`).
-/

namespace AttributeRelease.Bytes.Base64

/-! ## Digits -/

theorem digits : ∀ n < 64, digit? (digitChar n) = some n ∧ digitChar n ≠ '=' ∧
    Text.isSpace (digitChar n) = false := by
  decide +kernel

theorem digit?_digitChar {n : Nat} (small : n < 64) : digit? (digitChar n) = some n :=
  (digits n small).1

theorem digitChar_ne_equals {n : Nat} (small : n < 64) : digitChar n ≠ '=' := (digits n small).2.1

theorem isSpace_digitChar {n : Nat} (small : n < 64) : Text.isSpace (digitChar n) = false :=
  (digits n small).2.2

theorem toNat_lt (byte : UInt8) : byte.toNat < 256 := byte.toNat_lt_size

/-- Four digits make up one number. -/
theorem group?_digits {n : Nat} (small : n < 16777216) :
    group? (digitChar (n / 262144)) (digitChar (n / 4096 % 64)) (digitChar (n / 64 % 64))
      (digitChar (n % 64)) =
        some [.ofNat (n / 65536), .ofNat (n / 256 % 256), .ofNat (n % 256)] := by
  have first : n / 262144 < 64 := by omega
  have whole : ((n / 262144 * 64 + n / 4096 % 64) * 64 + n / 64 % 64) * 64 + n % 64 = n := by omega
  simp [group?, digit?_digitChar first, digit?_digitChar (Nat.mod_lt _ (by decide : 0 < 64)), whole]

/-- Three digits make up two bytes, and two bits that are not used. -/
theorem lastBytes?_digits {n : Nat} (small : n < 262144) (even : n % 4 = 0) :
    lastBytes? (digitChar (n / 4096)) (digitChar (n / 64 % 64)) (digitChar (n % 64)) =
      some [.ofNat (n / 1024), .ofNat (n / 4 % 256)] := by
  have first : n / 4096 < 64 := by omega
  have whole : (n / 4096 * 64 + n / 64 % 64) * 64 + n % 64 = n := by omega
  simp [lastBytes?, digit?_digitChar first, digit?_digitChar (Nat.mod_lt _ (by decide : 0 < 64)),
    whole, even]

/-- Two digits make up one byte, and four bits that are not used. -/
theorem lastByte?_digits {n : Nat} (small : n < 4096) (even : n % 16 = 0) :
    lastByte? (digitChar (n / 64)) (digitChar (n % 64)) = some [.ofNat (n / 16)] := by
  have first : n / 64 < 64 := by omega
  have whole : n / 64 * 64 + n % 64 = n := by omega
  simp [lastByte?, digit?_digitChar first, digit?_digitChar (Nat.mod_lt _ (by decide : 0 < 64)),
    whole, even]

/-! ## Texts -/

/-- A group whose last character is a digit is not the last one cut short. -/
theorem decodeChars?_group {a b c d : Char} (digit : d ≠ '=') (rest : List Char) :
    decodeChars? (a :: b :: c :: d :: rest) =
      (do return (← group? a b c d) ++ (← decodeChars? rest)) := by
  cases rest with
  | nil => simp [decodeChars?, digit]
  | cons e others => simp [decodeChars?]

theorem decodeChars?_lastByte (a b : Char) : decodeChars? [a, b, '=', '='] = lastByte? a b := rfl

theorem decodeChars?_lastBytes {a b c : Char} (digit : c ≠ '=') :
    decodeChars? [a, b, c, '='] = lastBytes? a b c := by
  simp [decodeChars?]

/-- Bytes are read back from their digits, three at a time and those left over at the end. -/
theorem decodeChars?_encodeChars (bytes : List UInt8) :
    decodeChars? (encodeChars bytes) = some bytes := by
  induction bytes using encodeChars.induct with
  | case1 => rfl
  | case2 a =>
      have bound := toNat_lt a
      have small : a.toNat * 16 < 4096 := by omega
      have last : a.toNat * 16 / 16 = a.toNat := by omega
      rw [encodeChars, decodeChars?_lastByte, lastByte?_digits small (by omega), last,
        UInt8.ofNat_toNat]
  | case3 a b =>
      have boundA := toNat_lt a
      have boundB := toNat_lt b
      have small : (a.toNat * 256 + b.toNat) * 4 < 262144 := by omega
      have first : (a.toNat * 256 + b.toNat) * 4 / 1024 = a.toNat := by omega
      have last : (a.toNat * 256 + b.toNat) * 4 / 4 % 256 = b.toNat := by omega
      have digit : digitChar ((a.toNat * 256 + b.toNat) * 4 % 64) ≠ '=' :=
        digitChar_ne_equals (by omega)
      rw [encodeChars, decodeChars?_lastBytes digit, lastBytes?_digits small (by omega), first,
        last, UInt8.ofNat_toNat, UInt8.ofNat_toNat]
  | case4 a b c rest ih =>
      have boundA := toNat_lt a
      have boundB := toNat_lt b
      have boundC := toNat_lt c
      have small : (a.toNat * 256 + b.toNat) * 256 + c.toNat < 16777216 := by omega
      have first : ((a.toNat * 256 + b.toNat) * 256 + c.toNat) / 65536 = a.toNat := by omega
      have second : ((a.toNat * 256 + b.toNat) * 256 + c.toNat) / 256 % 256 = b.toNat := by omega
      have third : ((a.toNat * 256 + b.toNat) * 256 + c.toNat) % 256 = c.toNat := by omega
      have digit : digitChar (((a.toNat * 256 + b.toNat) * 256 + c.toNat) % 64) ≠ '=' :=
        digitChar_ne_equals (by omega)
      rw [encodeChars, decodeChars?_group digit, group?_digits small, ih, first, second, third,
        UInt8.ofNat_toNat, UInt8.ofNat_toNat, UInt8.ofNat_toNat]
      rfl

/-- Bytes are read back from their text. -/
theorem decode?_encode (bytes : List UInt8) : decode? (encode bytes) = some bytes := by
  rw [decode?, encode, String.toList_ofList, decodeChars?_encodeChars]

/-- There are no blanks in the text of bytes, so trimming does not change it. -/
theorem not_isSpace_encodeChars (bytes : List UInt8) :
    ∀ c ∈ encodeChars bytes, Text.isSpace c = false := by
  induction bytes using encodeChars.induct with
  | case1 => exact nofun
  | case2 a =>
      have bound := toNat_lt a
      rw [encodeChars]
      simp only [List.forall_mem_cons]
      exact ⟨isSpace_digitChar (by omega), isSpace_digitChar (by omega), rfl, rfl, nofun⟩
  | case3 a b =>
      have boundA := toNat_lt a
      have boundB := toNat_lt b
      rw [encodeChars]
      simp only [List.forall_mem_cons]
      exact ⟨isSpace_digitChar (by omega), isSpace_digitChar (by omega),
        isSpace_digitChar (by omega), rfl, nofun⟩
  | case4 a b c rest ih =>
      have boundA := toNat_lt a
      have boundB := toNat_lt b
      have boundC := toNat_lt c
      rw [encodeChars]
      simp only [List.forall_mem_cons]
      exact ⟨isSpace_digitChar (by omega), isSpace_digitChar (by omega),
        isSpace_digitChar (by omega), isSpace_digitChar (by omega), ih⟩

/-- There is no space to be trimmed from what is written. -/
theorem trim_encode (bytes : List UInt8) : Text.trim (encode bytes) = encode bytes := by
  have solid := not_isSpace_encodeChars bytes
  rw [Text.trim, encode, String.toList_ofList, Text.trimList_of_solid solid]

end AttributeRelease.Bytes.Base64
