import TravelModel.Json.Token
import TravelModel.Number.Padded
import TravelModel.Toml.Value

/-!
# TravelModel — TOML numbers and moments

Values that are written without quotes and brackets: flags, whole numbers in
four bases, floating point numbers, dates and times.
-/

namespace TravelModel.Toml

/-- A character of a value without quotes and brackets. -/
def isScalarChar (c : Char) : Bool :=
  c.isAlphanum || c = '+' || c = '-' || c = '_' || c = '.' || c = ':'

/-! ## Moments -/

/-- A number of so many digits. -/
def digits? (count : Nat) (cs : List Char) : Option (Nat × List Char) :=
  let ds := cs.take count
  if ds.length = count && ds.all Char.isDigit then some (digitsValue ds, cs.drop count) else none

/-- How many days a month has. -/
def daysIn (year month : Nat) : Nat :=
  if month = 2 then
    if (year % 4 = 0 && year % 100 ≠ 0) || year % 400 = 0 then 29 else 28
  else if month = 4 || month = 6 || month = 9 || month = 11 then 30
  else 31

/-- Reads a character. -/
def char? (c : Char) : List Char → Option (List Char)
  | d :: rest => if d = c then some rest else none
  | [] => none

/-- Reads a date. -/
def date? (cs : List Char) : Option (String × List Char) := do
  let (year, cs) ← digits? 4 cs
  let (month, cs) ← digits? 2 (← char? '-' cs)
  let (day, cs) ← digits? 2 (← char? '-' cs)
  if 1 ≤ month ∧ month ≤ 12 ∧ 1 ≤ day ∧ day ≤ daysIn year month then
    some (padded 4 year ++ "-" ++ padded 2 month ++ "-" ++ padded 2 day, cs)
  else none

/-- Reads a fraction of a second; nine digits count, and zeros at the end do not
show. -/
def fraction? : List Char → Option (String × List Char)
  | '.' :: rest =>
    let ds := rest.takeWhile Char.isDigit
    if ds.isEmpty then none
    else
      let kept := ((ds.take 9).reverse.dropWhile (· = '0')).reverse
      some (if kept.isEmpty then "" else String.ofList ('.' :: kept), rest.dropWhile Char.isDigit)
  | cs => some ("", cs)

/-- Reads a time of day. -/
def time? (cs : List Char) : Option (String × List Char) := do
  let (hour, cs) ← digits? 2 cs
  let (minute, cs) ← digits? 2 (← char? ':' cs)
  let (second, cs) ← digits? 2 (← char? ':' cs)
  let (fraction, cs) ← fraction? cs
  if hour ≤ 23 ∧ minute ≤ 59 ∧ second ≤ 60 then
    some (padded 2 hour ++ ":" ++ padded 2 minute ++ ":" ++ padded 2 second ++ fraction, cs)
  else none

/-- Reads the offset of a time of day, if there is one. -/
def offset? : List Char → Option String
  | [] => some ""
  | ['Z'] => some "Z"
  | ['z'] => some "Z"
  | sign :: rest => do
    if sign ≠ '+' ∧ sign ≠ '-' then none
    let (hour, rest) ← digits? 2 rest
    let (minute, rest) ← digits? 2 (← char? ':' rest)
    if rest.isEmpty ∧ hour ≤ 23 ∧ minute ≤ 59 then
      let shown := if hour = 0 ∧ minute = 0 then '+' else sign
      some (String.ofList [shown] ++ padded 2 hour ++ ":" ++ padded 2 minute)
    else none

/-- Reads a moment: a date, a time of day, or both with an offset. -/
def moment? (cs : List Char) : Option String :=
  match date? cs with
  | some (day, []) => some day
  | some (day, c :: rest) => do
    if c ≠ 'T' ∧ c ≠ 't' ∧ c ≠ ' ' then none
    let (clock, rest) ← time? rest
    return day ++ "T" ++ clock ++ (← offset? rest)
  | none =>
    match time? cs with
    | some (clock, []) => some clock
    | _ => none

/-! ## Numbers -/

/-- Digits in which each underscore stands between two of them. -/
def groupedDigits? (isDigit : Char → Bool) : Bool → List Char → Option (List Char)
  | after, [] => if after then some [] else none
  | after, c :: rest =>
    if c = '_' then if after then groupedDigits? isDigit false rest else none
    else if isDigit c then (groupedDigits? isDigit true rest).map (c :: ·)
    else none

/-- Decimal digits without a needless zero in front. -/
def decimal? (cs : List Char) : Option (List Char) :=
  match groupedDigits? Char.isDigit false cs with
  | some ('0' :: _ :: _) => none
  | ds => ds

/-- The value of digits in a base. -/
def inBase (base : Nat) (ds : List Char) : Nat :=
  ds.foldl (fun n c => n * base + (Json.hexValue? c).getD 0) 0

/-- The base that a mark after a zero stands for, with its digits. -/
def base? : Char → Option (Nat × (Char → Bool))
  | 'x' => some (16, fun c => (Json.hexValue? c).isSome)
  | 'o' => some (8, fun c => '0' ≤ c && c ≤ '7')
  | 'b' => some (2, fun c => c = '0' || c = '1')
  | _ => none

/-- The sign of a number and the rest of it. -/
def signed : List Char → Bool × List Char
  | '-' :: rest => (true, rest)
  | '+' :: rest => (false, rest)
  | cs => (false, cs)

/-- A whole number with its sign, if it has 64 bits. -/
def inRange? (negative : Bool) (n : Nat) : Option Toml :=
  if negative then if n ≤ Nat.pow 2 63 then some (whole (-(n : Int))) else none
  else if n < Nat.pow 2 63 then some (whole n) else none

/-- A whole number. -/
def whole? (cs : List Char) : Option Toml :=
  match cs with
  | '0' :: mark :: rest => do
    let (base, isDigit) ← base? mark
    inRange? false (inBase base (← groupedDigits? isDigit false rest))
  | _ => do
    let (negative, ds) := signed cs
    inRange? negative (digitsValue (← decimal? ds))

/-- Whether a character marks an exponent. -/
def isExponentMark (c : Char) : Bool :=
  c = 'e' || c = 'E'

/-- The digits after a point, if there is one. -/
def pointDigits? : List Char → Option (List Char)
  | [] => some []
  | '.' :: rest => groupedDigits? Char.isDigit false rest
  | _ => none

/-- The exponent, if there is one. -/
def exponent? : List Char → Option Int
  | [] => some 0
  | _ :: rest => do
    let (negative, ds) := signed rest
    let n := digitsValue (← groupedDigits? Char.isDigit false ds)
    return if negative then -(n : Int) else n

/-- A floating point number; one that is too large is refused unless it is
negative. -/
def float? (cs : List Char) : Option Toml := do
  let (negative, body) := signed cs
  if body = ['i', 'n', 'f'] then return special (if negative then "-inf" else "inf")
  if body = ['n', 'a', 'n'] then return special "NaN"
  let mantissa := body.takeWhile fun c => !isExponentMark c
  let power := body.dropWhile fun c => !isExponentMark c
  let ds ← decimal? (mantissa.takeWhile (· ≠ '.'))
  let fs ← pointDigits? (mantissa.dropWhile (· ≠ '.'))
  let e ← exponent? power
  match Binary64.ofDecimal? negative (digitsValue (ds ++ fs)) (e - fs.length) with
  | some x => return float x
  | none => if negative then return special "-inf" else none

/-- A value without quotes and brackets. -/
def scalar? (cs : List Char) : Option Toml :=
  if cs = ['t', 'r', 'u', 'e'] then some (flag true)
  else if cs = ['f', 'a', 'l', 's', 'e'] then some (flag false)
  else ((moment? cs).map moment).or ((whole? cs).or (float? cs))

/-- Whether a time of day follows a blank. -/
def clockFollows : List Char → Bool
  | ' ' :: a :: b :: ':' :: _ => a.isDigit && b.isDigit
  | _ => false

/-- Takes a value without quotes and brackets off a text. A time of day may
follow a date after a blank. -/
def takeScalar? (cs : List Char) : Option (Toml × List Char) := do
  let token := cs.takeWhile isScalarChar
  let rest := cs.dropWhile isScalarChar
  if (date? token).any (fun d => d.2.isEmpty) && clockFollows rest then
    let more := rest.drop 1
    return (← scalar? (token ++ ' ' :: more.takeWhile isScalarChar), more.dropWhile isScalarChar)
  else
    return (← scalar? token, rest)

end TravelModel.Toml
