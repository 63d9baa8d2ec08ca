import TravelModel.Number.Binary64

/-!
# TravelModel — reading decimal numbers

Two readers of decimal text live here. `readText?` takes the liberal form in
which bounds of a simple type are written and rounds correctly. `Literal`
takes the strict form of a JSON number; there the digits that fit 64 bits
are scaled by a power of ten, which rounds twice.
-/

namespace TravelModel

/-- The value of a run of decimal digits. -/
def digitsValue (ds : List Char) : Nat :=
  ds.foldl (fun n c => n * 10 + (c.toNat - '0'.toNat)) 0

namespace Binary64

/-- What a numeric text denotes: a finite number, or none that is finite. -/
inductive Reading where
  | finite (x : Binary64)
  | nonFinite
deriving DecidableEq, Repr

/-- An exponent mark with its digits, or nothing at all. -/
def readExponent? : List Char → Option Int
  | [] => some 0
  | c :: rest =>
    if c = 'e' ∨ c = 'E' then
      let (neg, ds) := match rest with
        | '-' :: ds => (true, ds)
        | '+' :: ds => (false, ds)
        | ds => (false, ds)
      if ds.isEmpty || !ds.all Char.isDigit then none
      else some (if neg then -(digitsValue ds : Int) else digitsValue ds)
    else none

/-- The number after its sign: digits with an optional point and exponent. -/
def readUnsigned? (negative : Bool) (cs : List Char) : Option Reading :=
  let whole := cs.takeWhile Char.isDigit
  let rest := cs.dropWhile Char.isDigit
  let (frac, rest) := match rest with
    | '.' :: r => (r.takeWhile Char.isDigit, r.dropWhile Char.isDigit)
    | r => ([], r)
  if whole.isEmpty && frac.isEmpty then none
  else do
    let e ← readExponent? rest
    match ofDecimal? negative (digitsValue (whole ++ frac)) (e - frac.length) with
    | some x => return .finite x
    | none => return .nonFinite

/-- Reads a decimal text: an optional sign, then digits with an optional point
and exponent, or one of the words for infinity and not-a-number. -/
def readText? (s : String) : Option Reading :=
  let (negative, cs) := match s.toList with
    | '-' :: cs => (true, cs)
    | '+' :: cs => (false, cs)
    | cs => (false, cs)
  let word := String.ofList (cs.map Char.toLower)
  if word = "inf" ∨ word = "infinity" ∨ word = "nan" then some .nonFinite
  else readUnsigned? negative cs

/-- The product, rounded; `none` when too large. -/
def mul? (x y : Binary64) : Option Binary64 :=
  let (a, b) := x.ratio
  let (c, d) := y.ratio
  ofRatio? (x.negative != y.negative) (a * c) (b * d)

/-- The quotient by a nonzero number, rounded. -/
def div? (x y : Binary64) : Option Binary64 :=
  let (a, b) := x.ratio
  let (c, d) := y.ratio
  ofRatio? (x.negative != y.negative) (a * d) (b * c)

/-- The number nearest to a power of ten. -/
def powTen? (n : Nat) : Option Binary64 :=
  ofDecimal? false 1 n

/-- Scales a number by a power of ten in steps of at most `10 ^ 308`. -/
def scaleTen? (x : Binary64) (e : Int) : Nat → Option Binary64
  | 0 => some x
  | steps + 1 =>
    if e.natAbs ≤ 308 then do
      let p ← powTen? e.natAbs
      if e ≥ 0 then mul? x p else div? x p
    else if x.mantissa = 0 then some x
    else if e ≥ 0 then none
    else do
      let p ← powTen? 308
      scaleTen? (← div? x p) (e + 308) steps

end Binary64

/-- The parts of a JSON number literal. -/
structure Literal where
  negative : Bool
  whole : List Char
  fraction : Option (List Char)
  exponent : Option (Bool × List Char)
deriving DecidableEq, Repr

namespace Literal

/-- The exponent part of a literal: a mark, an optional sign, digits. -/
def exponentPart? : List Char → Option (Option (Bool × List Char))
  | [] => some none
  | c :: rest =>
    if c = 'e' ∨ c = 'E' then
      let (neg, ds) := match rest with
        | '-' :: ds => (true, ds)
        | '+' :: ds => (false, ds)
        | ds => (false, ds)
      if ds.isEmpty || !ds.all Char.isDigit then none else some (some (neg, ds))
    else none

/-- Splits the text of a number; a whole part of several digits does not
start with zero, and a point is followed by a digit. -/
def ofChars? (cs : List Char) : Option Literal :=
  let (negative, cs) := match cs with
    | '-' :: r => (true, r)
    | r => (false, r)
  let whole := cs.takeWhile Char.isDigit
  let rest := cs.dropWhile Char.isDigit
  if whole.isEmpty || (whole.head? == some '0' && whole.length > 1) then none
  else match rest with
    | '.' :: r =>
      let frac := r.takeWhile Char.isDigit
      if frac.isEmpty then none
      else do return ⟨negative, whole, some frac, ← exponentPart? (r.dropWhile Char.isDigit)⟩
    | r => do return ⟨negative, whole, none, ← exponentPart? r⟩

/-- The digits that fit an unsigned 64-bit number, and how many did not. -/
def significand (ds : List Char) : Nat × Nat :=
  let rec go : List Char → Nat → Nat × Nat
    | [], n => (n, 0)
    | c :: rest, n =>
      let n' := n * 10 + (c.toNat - '0'.toNat)
      if n' < Nat.pow 2 64 then go rest n' else (n, rest.length + 1)
  go ds 0

/-- The literal as significand and decimal exponent; digits that do not fit
are cut off, and the first of them ends the fraction. -/
def scaled (l : Literal) : Nat × Int :=
  let (n, cut) := significand l.whole
  if cut > 0 then (n, cut)
  else
    let frac := l.fraction.getD []
    let (n', cut') := significand (l.whole ++ frac)
    (n', -((frac.length - cut' : Nat) : Int))

/-- The binary number a literal denotes; `none` when it is out of range. -/
def toBinary64? (l : Literal) : Option Binary64 := do
  let (n, e) := l.scaled
  let (neg, ds) := l.exponent.getD (false, [])
  let given := digitsValue ds
  if given ≥ Nat.pow 2 31 then
    if n ≠ 0 ∧ !neg then none else return Binary64.zero l.negative
  else
    let e' : Int := if neg then e - given else e + given
    let x ← Binary64.ofRatio? l.negative n 1
    x.scaleTen? e' 4

end Literal

end TravelModel
