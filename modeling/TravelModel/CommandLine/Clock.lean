import TravelModel.Number.Padded

/-!
# TravelModel — moments in time

The text of a moment that is given by the time since the start of 1970, in
universal time.
-/

namespace TravelModel.Clock

/-- Year, month and day of a day since the start of 1970. Days are counted from
March of the year 0 in cycles of 400 years, so that leap days come last. -/
def dateOf (days : Nat) : Nat × Nat × Nat :=
  let shifted := days + 719468
  let cycle := shifted / 146097
  let dayOfCycle := shifted % 146097
  let yearOfCycle :=
    (dayOfCycle - dayOfCycle / 1460 + dayOfCycle / 36524 - dayOfCycle / 146096) / 365
  let dayOfYear := dayOfCycle - (365 * yearOfCycle + yearOfCycle / 4 - yearOfCycle / 100)
  let fromMarch := (5 * dayOfYear + 2) / 153
  let day := dayOfYear - (153 * fromMarch + 2) / 5 + 1
  let month := if fromMarch < 10 then fromMarch + 3 else fromMarch - 9
  let year := yearOfCycle + cycle * 400 + if month ≤ 2 then 1 else 0
  (year, month, day)

/-- A part of a second with three, six or nine digits, as many as it needs. -/
def fraction (nanos : Nat) : String :=
  if nanos = 0 then ""
  else if nanos % 1000000 = 0 then "." ++ padded 3 (nanos / 1000000)
  else if nanos % 1000 = 0 then "." ++ padded 6 (nanos / 1000)
  else "." ++ padded 9 nanos

/-- The text of a moment. -/
def text (nanosSince1970 : Nat) : String :=
  let seconds := nanosSince1970 / 1000000000
  let (year, month, day) := dateOf (seconds / 86400)
  let clock := seconds % 86400
  padded 4 year ++ "-" ++ padded 2 month ++ "-" ++ padded 2 day ++ "T" ++
    padded 2 (clock / 3600) ++ ":" ++ padded 2 (clock / 60 % 60) ++ ":" ++ padded 2 (clock % 60) ++
    fraction (nanosSince1970 % 1000000000) ++ "Z"

end TravelModel.Clock
