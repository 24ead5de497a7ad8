/-!
# Doubles by exact arithmetic

A non-negative finite double is `mantissa * 2 ^ exponent` with a mantissa below `2 ^ 53` and an
exponent from `-1074` to `971`; of the possible pairs the one with the least exponent is used.
`Binary64.round?` takes a fraction to the nearest double, ties to the even mantissa, and fails
beyond the largest one. Products and quotients are rounded the same way.
-/

namespace AttributeRelease.Decimal

/-- The quotient rounded to the nearest number, a tie to the even one. -/
def roundDiv (num den : Nat) : Nat :=
  let low := num / den
  let twice := 2 * (num % den)
  if twice < den then low
  else if den < twice then low + 1
  else if low % 2 = 0 then low else low + 1

/-- A non-negative finite double. -/
structure Binary64 where
  mantissa : Nat
  exponent : Int
  deriving DecidableEq, Repr

namespace Binary64

/-- Zero. -/
def zero : Binary64 := ⟨0, -1074⟩

/-- The numerator of the double as a fraction. -/
def num (x : Binary64) : Nat := x.mantissa * Nat.pow 2 x.exponent.toNat

/-- The denominator of the double as a fraction. -/
def den (x : Binary64) : Nat := Nat.pow 2 (-x.exponent).toNat

/-- The fraction `num / den` over `2 ^ exponent`, rounded. -/
def scaled (num den : Nat) (exponent : Int) : Nat :=
  roundDiv (num * Nat.pow 2 (-exponent).toNat) (den * Nat.pow 2 exponent.toNat)

/-- The least exponent that keeps the mantissa of a positive fraction below `2 ^ 53`, and `-1074`
for smaller fractions. -/
def exponentOf (num den : Nat) : Int :=
  let guess : Int := (num.log2 : Int) - (den.log2 : Int) - 52
  let tight :=
    if num * Nat.pow 2 (-guess).toNat < den * Nat.pow 2 guess.toNat * Nat.pow 2 52 then guess - 1
    else guess
  max tight (-1074)

/-- The double nearest to a fraction, `none` when it lies beyond the largest. -/
def round? (num den : Nat) : Option Binary64 :=
  if num = 0 then some zero
  else
    let exponent := exponentOf num den
    let mantissa := scaled num den exponent
    let (mantissa, exponent) :=
      if mantissa = Nat.pow 2 53 then (Nat.pow 2 52, exponent + 1) else (mantissa, exponent)
    if 971 < exponent then none else some ⟨mantissa, exponent⟩

/-- The product of two doubles. -/
def mul? (x y : Binary64) : Option Binary64 := round? (x.num * y.num) (x.den * y.den)

/-- The quotient of two doubles. -/
def div? (x y : Binary64) : Option Binary64 := round? (x.num * y.den) (x.den * y.num)

end Binary64

end AttributeRelease.Decimal
