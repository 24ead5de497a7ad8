import AttributeRelease.Decimal.Shortest

/-!
# JSON numbers

A number literal is kept as it is written: an integer, or digits with a power of ten when it has a
fraction or an exponent. Its text (`Number.text?`) is the integer itself when that fits 64 bits,
signed or unsigned, and otherwise the shortest decimal of a double. The double is found in two
steps: the leading digits that fit 64 bits are rounded to a double, which is then scaled by a power
of ten.
-/

namespace AttributeRelease.Json

open Decimal

/-- A number literal. The digits of a decimal are those before and after the point, read as one
number. -/
inductive Number where
  | integer (negative : Bool) (magnitude : Nat)
  | decimal (negative : Bool) (digits : Nat) (exponent : Int)
  deriving DecidableEq, Repr

namespace Number

/-- One more than the largest unsigned 64-bit number. -/
def wordBound : Nat := Nat.pow 2 64

/-- Drops digits from the end until the rest fits 64 bits, counting them in the exponent. -/
def truncate : Nat → Nat → Int → Nat × Int
  | 0, digits, exponent => (digits, exponent)
  | fuel + 1, digits, exponent =>
    if digits < wordBound then (digits, exponent) else truncate fuel (digits / 10) (exponent + 1)

/-- A double times a power of ten, scaled down by at most `10 ^ 308` at a time; `none` beyond the
largest double. -/
def scaleTen? : Nat → Binary64 → Int → Option Binary64
  | 0, x, _ => some x
  | fuel + 1, x, exponent =>
    if exponent.natAbs ≤ 308 then do
      let power ← Binary64.round? (Nat.pow 10 exponent.natAbs) 1
      if 0 ≤ exponent then x.mul? power else x.div? power
    else if x.mantissa = 0 then some x
    else if 0 ≤ exponent then none
    else do
      let power ← Binary64.round? (Nat.pow 10 308) 1
      scaleTen? fuel (← x.div? power) (exponent + 308)

/-- The double of `digits * 10 ^ exponent`. -/
def toDouble? (digits : Nat) (exponent : Int) : Option Binary64 := do
  let (leading, shifted) := truncate (digits.log2 + 1) digits exponent
  scaleTen? 5 (← Binary64.round? leading 1) shifted

/-- The text of a number, `none` when it is beyond the range of doubles. -/
def text? : Number → Option String
  | .integer false magnitude =>
    if magnitude < wordBound then some (toString magnitude)
    else (toDouble? magnitude 0).map (Binary64.text false)
  | .integer true magnitude =>
    if 0 < magnitude ∧ magnitude ≤ Nat.pow 2 63 then some ("-" ++ toString magnitude)
    else (toDouble? magnitude 0).map (Binary64.text true)
  | .decimal negative digits exponent =>
    (toDouble? digits exponent).map (Binary64.text negative)

/-- The literal of a number, a decimal as its digits and a power of ten. -/
def literal : Number → List Char
  | .integer negative magnitude => sign negative ++ Nat.toDigits 10 magnitude
  | .decimal negative digits exponent =>
    sign negative ++ Nat.toDigits 10 digits ++
      ('e' :: (sign (decide (exponent < 0)) ++ Nat.toDigits 10 exponent.natAbs))
where
  /-- A minus sign or nothing. -/
  sign (negative : Bool) : List Char := if negative then ['-'] else []

/-- The number of an unsigned integer literal. -/
def toNat? : Number → Option Nat
  | .integer false magnitude => some magnitude
  | _ => none

end Number

end AttributeRelease.Json
