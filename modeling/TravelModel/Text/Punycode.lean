/-!
# TravelModel — labels of host names

A label with characters beyond ASCII is written in ASCII as `xn--` and a
code: the ASCII characters, then for each other character, in order, how
far the state of a decoder has to advance to insert it.
-/

namespace TravelModel.Punycode

/-- A digit of the code: letters, then figures. -/
def digit (n : Nat) : Char :=
  if n < 26 then Char.ofNat (97 + n) else Char.ofNat (22 + n)

/-- Divides down the distance that fixes the next threshold. -/
def adaptLoop (budget delta k : Nat) : Nat :=
  match budget with
  | 0 => k
  | budget + 1 =>
    if delta > 455 then adaptLoop budget (delta / 35) (k + 36)
    else k + 36 * delta / (delta + 38)

/-- The threshold after a distance was written. -/
def adapt (delta points : Nat) (first : Bool) : Nat :=
  let d := if first then delta / 700 else delta / 2
  let d := d + d / points
  adaptLoop d d 0

/-- The digits below which a distance ends. -/
def limit (k bias : Nat) : Nat :=
  if k ≤ bias then 1 else min (k - bias) 26

/-- A distance as digits of growing weight. -/
def variableDigits (budget q k bias : Nat) : List Char :=
  match budget with
  | 0 => [digit q]
  | budget + 1 =>
    let t := limit k bias
    if q < t then [digit q]
    else digit (t + (q - t) % (36 - t)) :: variableDigits budget ((q - t) / (36 - t)) (k + 36) bias

/-- What the encoder holds between characters. -/
structure State where
  delta : Nat
  bias : Nat
  handled : Nat
  out : List Char

/-- Passes once over the label for the characters of one code point. -/
def pass (n basic : Nat) (st : State) (c : Nat) : State :=
  if c < n then { st with delta := st.delta + 1 }
  else if c = n then
    { delta := 0
      bias := adapt st.delta (st.handled + 1) (st.handled = basic)
      handled := st.handled + 1
      out := st.out ++ variableDigits st.delta st.delta 36 st.bias }
  else st

/-- Writes the characters beyond ASCII in the order of their code points. -/
def run (label : List Nat) (basic : Nat) : List Nat → Nat → State → State
  | [], _, st => st
  | m :: rest, n, st =>
    let st := { st with delta := st.delta + (m - n) * (st.handled + 1) }
    let st := label.foldl (pass m basic) st
    run label basic rest (m + 1) { st with delta := st.delta + 1 }

/-- The code of a label. -/
def encode (label : List Char) : List Char :=
  let basic := label.filter fun c => c.toNat < 128
  let points := label.map Char.toNat
  let others := ((points.filter (128 ≤ ·)).mergeSort (· ≤ ·)).eraseDups
  let start := if basic.isEmpty then [] else basic ++ ['-']
  (run points basic.length others 128
    { delta := 0, bias := 72, handled := basic.length, out := start }).out

/-- The ASCII form of a label. -/
def toAscii (label : List Char) : List Char :=
  if label.all fun c => c.toNat < 128 then label else ['x', 'n', '-', '-'] ++ encode label

/-- Reads a distance, with what follows it. -/
def distance? (bias k weight : Nat) : List Char → Option (Nat × List Char)
  | [] => none
  | c :: rest => do
    let d ← (List.range 36).find? (digit · = c)
    let t := limit k bias
    if d < t then some (d * weight, rest)
    else
      let (n, rest) ← distance? bias (k + 36) (weight * (36 - t)) rest
      some (d * weight + n, rest)

/-- Inserts characters at their distances. A distance has at least one digit. -/
def insertions? (n i bias : Nat) : Nat → List Char → List Char → Option (List Char)
  | _, [], out => some out
  | 0, _, _ => none
  | budget + 1, code, out => do
    let (delta, rest) ← distance? bias 36 1 code
    let points := out.length + 1
    let n := n + (i + delta) / points
    let at' := (i + delta) % points
    if n.isValidChar then
      insertions? n (at' + 1) (adapt delta points (i = 0)) budget rest
        (out.insertIdx at' (Char.ofNat n))
    else none

/-- The label of a code. -/
def decode? (code : List Char) : Option (List Char) :=
  let digits := (code.reverse.takeWhile (· ≠ '-')).reverse
  let basic := code.take (code.length - digits.length - 1)
  if code.head? = some '-' && basic.isEmpty then none
  else insertions? 128 0 72 digits.length digits basic

end TravelModel.Punycode
