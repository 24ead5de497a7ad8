import AttributeRelease.Decimal.Binary64

/-!
# The shortest decimal of a double

The text of a double has the fewest digits that read back as that double and of these the nearest
ones. Numbers from `0.00001` up to below `1e+16` are written positionally, with `.0` after a whole
number; the others have one digit before the point and a signed exponent.
-/

namespace AttributeRelease.Decimal

/-- A decimal number `digits * 10 ^ exponent`. -/
structure Numeral where
  digits : Nat
  exponent : Int
  deriving DecidableEq, Repr

namespace Binary64

/-- The bounds of the decimals that read as a double, as numerators over the denominator
`4 * den`: half a step up, and half a step down or a quarter below a power of two. -/
def bounds (x : Binary64) : Nat × Nat :=
  let unit := Nat.pow 2 x.exponent.toNat
  let down := if x.mantissa = Nat.pow 2 52 ∧ -1074 < x.exponent then unit else 2 * unit
  (4 * x.num - down, 4 * x.num + 2 * unit)

/-- Whether the decimal `digits * 10 ^ exponent` reads as the double. The bounds themselves do when
the mantissa is even. -/
def readsBack (x : Binary64) (d : Numeral) : Bool :=
  let value := d.digits * Nat.pow 10 d.exponent.toNat * (4 * x.den)
  let scale := Nat.pow 10 (-d.exponent).toNat
  let (low, high) := x.bounds
  if x.mantissa % 2 = 0 then low * scale ≤ value && value ≤ high * scale
  else low * scale < value && value < high * scale

/-- The decimal exponent of the first digit: `10 ^ e ≤ x < 10 ^ (e + 1)`, found by stepping from a
guess. -/
def leadingExponent (x : Binary64) : Int :=
  let atLeast (e : Int) : Bool := Nat.pow 10 e.toNat * x.den ≤ x.num * Nat.pow 10 (-e).toNat
  let binary : Int := (x.num.log2 : Int) - (x.den.log2 : Int)
  let guess := Int.fdiv (binary * 30103) 100000
  if atLeast (guess + 1) then guess + 1
  else if atLeast guess then guess
  else if atLeast (guess - 1) then guess - 1
  else guess - 2

/-- The neighbours of the double on the grid of multiples of `10 ^ exponent`, the nearer first and
the even one of two equally near. -/
def neighbours (x : Binary64) (exponent : Int) : List Numeral :=
  let top := x.num * Nat.pow 10 (-exponent).toNat
  let bottom := x.den * Nat.pow 10 exponent.toNat
  let low := top / bottom
  let twice := 2 * (top % bottom)
  if twice < bottom ∨ (twice = bottom ∧ low % 2 = 0) then [⟨low, exponent⟩, ⟨low + 1, exponent⟩]
  else [⟨low + 1, exponent⟩, ⟨low, exponent⟩]

/-- The first of the grids with `count`, `count + 1`, … digits that holds a decimal which reads
back, and that decimal. -/
def shortestFrom (x : Binary64) (first : Int) : Nat → Nat → Numeral
  | 0, _ => ⟨roundDiv x.num x.den, 0⟩
  | tries + 1, count =>
    match (x.neighbours (first - count + 1)).find? x.readsBack with
    | some found => found
    | none => shortestFrom x first tries (count + 1)

/-- The shortest decimal of a positive double. -/
def shortest (x : Binary64) : Numeral := shortestFrom x x.leadingExponent 17 1

end Binary64

namespace Numeral

/-- The decimal without zeros at the end of its digits, which are not all zero. -/
def trimZeros : Nat → Numeral → Numeral
  | 0, d => d
  | fuel + 1, d =>
    if d.digits ≠ 0 ∧ d.digits % 10 = 0 then trimZeros fuel ⟨d.digits / 10, d.exponent + 1⟩ else d

/-- The text of a positive decimal: positional between `10 ^ -5` and `10 ^ 16`. -/
def text (d : Numeral) : String :=
  let d := trimZeros 20 d
  let digits := Nat.toDigits 10 d.digits
  let count := digits.length
  let point : Int := count + d.exponent
  if 0 ≤ d.exponent ∧ point ≤ 16 then
    String.ofList (digits ++ List.replicate d.exponent.toNat '0') ++ ".0"
  else if 0 < point ∧ point ≤ 16 then
    String.ofList (digits.take point.toNat) ++ "." ++ String.ofList (digits.drop point.toNat)
  else if -5 < point ∧ point ≤ 0 then
    "0." ++ String.ofList (List.replicate (-point).toNat '0' ++ digits)
  else
    let scale := point - 1
    let sign := if scale < 0 then "-" else "+"
    let fraction := if count = 1 then "" else "." ++ String.ofList (digits.drop 1)
    String.ofList (digits.take 1) ++ fraction ++ "e" ++ sign ++ toString scale.natAbs

end Numeral

/-- The text of a double with its sign. -/
def Binary64.text (negative : Bool) (x : Binary64) : String :=
  let magnitude := if x.mantissa = 0 then "0.0" else x.shortest.text
  if negative then "-" ++ magnitude else magnitude

end AttributeRelease.Decimal
