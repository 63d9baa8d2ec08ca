import TravelModel.Number.Binary64

/-!
# TravelModel — shortest decimals

The decimal text of a binary number is the one with the fewest digits that
rounds back to it; of several with as few digits the nearest is taken, and
of two equally near the one that ends in an even digit. The search goes
through the digit counts in exact arithmetic.

Texts are positional when the first digit stands between the fifth place
after the point and the sixteenth before it, with `.0` for whole numbers;
beyond that they are scientific with a signed exponent.
-/

namespace TravelModel.Binary64

/-- Decimal digits `digits · 10 ^ exponent`. -/
structure Decimal where
  digits : Nat
  exponent : Int
deriving DecidableEq, Repr

/-- The numbers that round to a given one, as ratios over one denominator. -/
structure RoundingRange where
  low : Nat
  value : Nat
  high : Nat
  den : Nat
  closed : Bool

/-- The range of reals that round to a positive number: half way to both
neighbours, the ends included when the mantissa is even. -/
def roundingRange (x : Binary64) : RoundingRange :=
  let below := if x.mantissa = Nat.pow 2 52 ∧ x.exponent > minExponent then 1 else 2
  let s := Nat.pow 2 (x.exponent - 2).toNat
  { low := (4 * x.mantissa - below) * s
    value := 4 * x.mantissa * s
    high := (4 * x.mantissa + 2) * s
    den := Nat.pow 2 (2 - x.exponent).toNat
    closed := x.mantissa % 2 = 0 }

/-- Whether `d · 10 ^ e` lies in the range. -/
def RoundingRange.admits (r : RoundingRange) (d : Nat) (e : Int) : Bool :=
  let v := d * Nat.pow 10 e.toNat * r.den
  let unit := Nat.pow 10 (-e).toNat
  let lo := r.low * unit
  let hi := r.high * unit
  if r.closed then lo ≤ v && v ≤ hi else lo < v && v < hi

/-- The best point of the grid `· 10 ^ e` in the range, if there is one. -/
def RoundingRange.best? (r : RoundingRange) (e : Int) : Option Decimal :=
  let n := r.value * Nat.pow 10 (-e).toNat
  let d := r.den * Nat.pow 10 e.toNat
  let down := n / d
  let rest := n % d
  let up := down + 1
  let preferUp := 2 * rest > d || (2 * rest == d && down % 2 == 1)
  match r.admits down e && down > 0, r.admits up e with
  | true, true => some ⟨if preferUp then up else down, e⟩
  | true, false => some ⟨down, e⟩
  | false, true => some ⟨up, e⟩
  | false, false => none

/-- The place of the first digit: the `k` with `10 ^ k ≤ value < 10 ^ (k + 1)`,
searched downwards from a bound by a fixed number of steps. -/
def leadingPlace (num den : Nat) : Nat → Int → Int
  | 0, k => k
  | steps + 1, k =>
    if den * Nat.pow 10 k.toNat ≤ num * Nat.pow 10 (-k).toNat then k
    else leadingPlace num den steps (k - 1)

/-- Removes trailing zeros from the digits. -/
def Decimal.trim (d : Decimal) : Nat → Decimal
  | 0 => d
  | steps + 1 =>
    if d.digits % 10 = 0 ∧ d.digits ≠ 0 then
      Decimal.trim ⟨d.digits / 10, d.exponent + 1⟩ steps
    else d

/-- The shortest decimal of a positive number. -/
def shortest (x : Binary64) : Decimal :=
  let r := x.roundingRange
  let top : Int := (((r.value.log2 : Int) - r.den.log2 + 1) * 30103) / 100000 + 1
  let k := leadingPlace r.value r.den 4 top
  let found := (List.range 17).findSome? fun (n : Nat) => r.best? (k - n)
  (found.getD ⟨r.value / r.den, 0⟩).trim 20

/-- The digits of a natural number. -/
def digitText (n : Nat) : List Char :=
  Nat.toDigits 10 n

/-- The decimal text of a binary number. -/
def text (x : Binary64) : String :=
  let sign := if x.negative then "-" else ""
  if x.mantissa = 0 then sign ++ "0.0"
  else
    let d := x.shortest
    let ds := digitText d.digits
    let point : Int := d.exponent + ds.length
    let place := point - 1
    let body : List Char :=
      if -5 ≤ place ∧ place ≤ 15 then
        if point ≤ 0 then
          ['0', '.'] ++ List.replicate (-point).toNat '0' ++ ds
        else if d.exponent ≥ 0 then
          ds ++ List.replicate d.exponent.toNat '0' ++ ['.', '0']
        else
          ds.take point.toNat ++ ['.'] ++ ds.drop point.toNat
      else
        let head := ds.take 1
        let tail := ds.drop 1
        let frac := if tail.isEmpty then [] else '.' :: tail
        let mark := if place < 0 then ['e', '-'] else ['e', '+']
        head ++ frac ++ mark ++ digitText place.natAbs
    sign ++ String.ofList body

/-- The decimal text without an exponent, and without a point where the number
is whole. -/
def plainText (x : Binary64) : String :=
  let sign := if x.negative then "-" else ""
  if x.mantissa = 0 then sign ++ "0"
  else
    let d := x.shortest
    let ds := digitText d.digits
    let point : Int := d.exponent + ds.length
    let body : List Char :=
      if point ≤ 0 then ['0', '.'] ++ List.replicate (-point).toNat '0' ++ ds
      else if d.exponent ≥ 0 then ds ++ List.replicate d.exponent.toNat '0'
      else ds.take point.toNat ++ ['.'] ++ ds.drop point.toNat
    sign ++ String.ofList body

end TravelModel.Binary64
