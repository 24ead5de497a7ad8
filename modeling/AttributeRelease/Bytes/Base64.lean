/-!
# Base64

Three bytes are written as four digits of six bits. A last group of one or two bytes is written as
two or three digits, with zero bits at its end, and filled up with equals signs. Reading accepts
exactly what writing produces.
-/

namespace AttributeRelease.Bytes.Base64

/-- The character of a digit. -/
def digitChar (n : Nat) : Char :=
  if n < 26 then Char.ofNat ('A'.toNat + n)
  else if n < 52 then Char.ofNat ('a'.toNat + (n - 26))
  else if n < 62 then Char.ofNat ('0'.toNat + (n - 52))
  else if n = 62 then '+'
  else '/'

/-- The digit of a character. -/
def digit? (c : Char) : Option Nat :=
  if 'A' ≤ c ∧ c ≤ 'Z' then some (c.toNat - 'A'.toNat)
  else if 'a' ≤ c ∧ c ≤ 'z' then some (c.toNat - 'a'.toNat + 26)
  else if '0' ≤ c ∧ c ≤ '9' then some (c.toNat - '0'.toNat + 52)
  else if c = '+' then some 62
  else if c = '/' then some 63
  else none

/-- The characters of bytes. -/
def encodeChars : List UInt8 → List Char
  | [] => []
  | [a] =>
    let n := a.toNat * 16
    [digitChar (n / 64), digitChar (n % 64), '=', '=']
  | [a, b] =>
    let n := (a.toNat * 256 + b.toNat) * 4
    [digitChar (n / 4096), digitChar (n / 64 % 64), digitChar (n % 64), '=']
  | a :: b :: c :: rest =>
    let n := (a.toNat * 256 + b.toNat) * 256 + c.toNat
    digitChar (n / 262144) :: digitChar (n / 4096 % 64) :: digitChar (n / 64 % 64) ::
      digitChar (n % 64) :: encodeChars rest

/-- The byte of a last group of two digits, whose last four bits must be zero. -/
def lastByte? (a b : Char) : Option (List UInt8) := do
  let n := (← digit? a) * 64 + (← digit? b)
  if n % 16 = 0 then some [.ofNat (n / 16)] else none

/-- The bytes of a last group of three digits, whose last two bits must be zero. -/
def lastBytes? (a b c : Char) : Option (List UInt8) := do
  let n := ((← digit? a) * 64 + (← digit? b)) * 64 + (← digit? c)
  if n % 4 = 0 then some [.ofNat (n / 1024), .ofNat (n / 4 % 256)] else none

/-- The bytes of a group of four digits. -/
def group? (a b c d : Char) : Option (List UInt8) := do
  let n := (((← digit? a) * 64 + (← digit? b)) * 64 + (← digit? c)) * 64 + (← digit? d)
  return [.ofNat (n / 65536), .ofNat (n / 256 % 256), .ofNat (n % 256)]

/-- The bytes that characters stand for. -/
def decodeChars? : List Char → Option (List UInt8)
  | [] => some []
  | [a, b, '=', '='] => lastByte? a b
  | [a, b, c, '='] => lastBytes? a b c
  | a :: b :: c :: d :: rest => do return (← group? a b c d) ++ (← decodeChars? rest)
  | _ => none

/-- The text of bytes. -/
def encode (bytes : List UInt8) : String := String.ofList (encodeChars bytes)

/-- The bytes of a text. -/
def decode? (text : String) : Option (List UInt8) := decodeChars? text.toList

end AttributeRelease.Bytes.Base64
