/-!
# TravelModel — binary floating point numbers

A finite number of the 64-bit binary format is `± mantissa · 2 ^ exponent`
with a mantissa below `2 ^ 53` and an exponent of at least `-1074`. Rounding
a ratio of naturals to the nearest such number, a tie going to the even
mantissa, is done in exact arithmetic; there is no use of machine floats.
-/

namespace TravelModel

/-- A finite 64-bit binary number, `± mantissa · 2 ^ exponent`. -/
structure Binary64 where
  negative : Bool
  mantissa : Nat
  exponent : Int
deriving DecidableEq, Repr, Inhabited

namespace Binary64

/-- The least exponent, that of subnormal numbers. -/
def minExponent : Int := -1074

/-- The greatest exponent of a finite number. -/
def maxExponent : Int := 971

/-- Zero with a sign. -/
def zero (negative : Bool) : Binary64 :=
  { negative, mantissa := 0, exponent := minExponent }

/-- The quotient `num / (den · 2 ^ e)` as whole part, remainder and divisor. -/
def scaledQuotient (num den : Nat) (e : Int) : Nat × Nat × Nat :=
  let n := num * Nat.pow 2 (-e).toNat
  let d := den * Nat.pow 2 e.toNat
  (n / d, n % d, d)

/-- Rounds a quotient to the nearest whole number, a tie to the even one. -/
def roundQuotient (q r d : Nat) : Nat :=
  if 2 * r > d ∨ (2 * r = d ∧ q % 2 = 1) then q + 1 else q

/-- The number nearest to `num / den`, or `none` when it is too large to be
finite. The denominator is positive. -/
def ofRatio? (negative : Bool) (num den : Nat) : Option Binary64 :=
  if num = 0 then some (zero negative)
  else
    let guess := max minExponent ((num.log2 : Int) - den.log2 - 53)
    let e := if (scaledQuotient num den guess).1 < Nat.pow 2 53 then guess else guess + 1
    let (q, r, d) := scaledQuotient num den e
    let m := roundQuotient q r d
    let (m, e) := if m = Nat.pow 2 53 then (Nat.pow 2 52, e + 1) else (m, e)
    if e > maxExponent then none else some { negative, mantissa := m, exponent := e }

/-- The magnitude as a ratio. -/
def ratio (x : Binary64) : Nat × Nat :=
  (x.mantissa * Nat.pow 2 x.exponent.toNat, Nat.pow 2 (-x.exponent).toNat)

/-- The number nearest to `± digits · 10 ^ exponent`, or `none` when that is
too large. Exponents far outside the range are settled without powers. -/
def ofDecimal? (negative : Bool) (digits : Nat) (exponent : Int) : Option Binary64 :=
  let width := (Nat.toDigits 10 digits).length
  if digits = 0 then some (zero negative)
  else if exponent + width > 400 then none
  else if exponent + width < -400 then some (zero negative)
  else ofRatio? negative (digits * Nat.pow 10 exponent.toNat) (Nat.pow 10 (-exponent).toNat)

/-- Whether the number is a whole number. -/
def isWhole (x : Binary64) : Bool :=
  let (n, d) := x.ratio
  n % d = 0

/-- Whether the number is below a whole number. -/
def ltInt (x : Binary64) (n : Int) : Bool :=
  let (p, q) := x.ratio
  let v : Int := if x.negative then -(p : Int) else p
  v < n * q

/-- Whether the number is above a whole number. -/
def gtInt (x : Binary64) (n : Int) : Bool :=
  let (p, q) := x.ratio
  let v : Int := if x.negative then -(p : Int) else p
  v > n * q

end Binary64

end TravelModel
