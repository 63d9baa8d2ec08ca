/-!
# TravelModel — likeness of names

Scores how well a pattern fits into a name. The characters of the pattern
have to occur in the name in order; a match scores more at the start of a
word and right after another match, and less after a gap. The pattern is
compared with case only if it has an upper-case letter.
-/

namespace TravelModel.Likeness

/-- What a character means for the start of a word. -/
inductive CharClass where
  | empty
  | hard
  | soft
  | number
  | upper
  | lower
deriving DecidableEq, Repr, Inhabited

/-- The class of a character. -/
def classOf (c : Char) : CharClass :=
  let n := c.toNat
  if n = 0 then .empty
  else if [32, 40, 41, 47, 91, 92, 93, 123, 124, 125].contains n then .hard
  else if (33 ≤ n && n ≤ 39) || (42 ≤ n && n ≤ 46) || (58 ≤ n && n ≤ 64) ||
      (94 ≤ n && n ≤ 96) || n = 126 then .soft
  else if 48 ≤ n && n ≤ 57 then .number
  else if 65 ≤ n && n ≤ 90 then .upper
  else .lower

/-- The bonus of a character after another. -/
def pairBonus (before here : CharClass) : Int :=
  match before, here with
  | .empty, _ | .hard, _ => 8
  | .soft, _ => 7
  | .lower, .upper | .number, .upper => 6
  | _, _ => 0

/-- The bonus of each character; that of the first counts twice. -/
def bonuses (choice : List Char) : List Int :=
  let classes := choice.map classOf
  (((CharClass.empty :: classes).zip classes).map fun (a, b) => pairBonus a b).zipIdx.map
    fun (b, i) => if i = 0 then 2 * b else b

/-- Whether two characters are the same, with or without case. -/
def same (cased : Bool) (a b : Char) : Bool :=
  if cased then a = b else a.toLower = b.toLower

/-- The places of the leftmost match of each character of the pattern. -/
def firstPlaces (cased : Bool) : List Char → List Char → Nat → Option (List Nat)
  | [], _, _ => some []
  | _ :: _, [], _ => none
  | p :: ps, c :: cs, i =>
    if same cased p c then (firstPlaces cased ps cs (i + 1)).map (i :: ·)
    else firstPlaces cased (p :: ps) cs (i + 1)

/-- The score of a column that no match reaches. -/
def unreached : Int := -32768

/-- The tables of two rows: best score with a match in a column, best score
after a gap before a column, and the bonus a run of matches carries. -/
structure Tables where
  matched : Array Int
  passed : Array Int
  carried : Array Int
deriving Inhabited

/-- The value of a table at a place. -/
def valueAt (t : Array Int) (i : Nat) : Int :=
  t[i]?.getD unreached

/-- Fills one column of a row from the row before. -/
def fillColumn (cased : Bool) (p : Char) (choice : Array Char) (bonus : Array Int)
    (before row : Tables) (col : Nat) : Tables :=
  let c := choice[col - 1]?.getD ' '
  let b := bonus[col - 1]?.getD 0
  let row :=
    if same cased p c then
      let score : Int := if p = c then 16 else 14
      let run := max (max (row.carried[col - 1]?.getD 0) b) 4
      let best := max (valueAt before.matched (col - 1) + run) (valueAt before.passed (col - 1) + b) + score
      { row with
        carried := row.carried.setIfInBounds (col - 1) run
        matched := row.matched.setIfInBounds col best }
    else
      { row with
        matched := row.matched.setIfInBounds col unreached
        carried := row.carried.setIfInBounds col 0 }
  { row with
    passed := row.passed.setIfInBounds col
      (max (valueAt row.matched (col - 1) - 4) (valueAt row.passed (col - 1) - 1)) }

/-- Fills one row for a character of the pattern from its first place on. -/
def fillRow (cased : Bool) (choice : Array Char) (bonus : Array Int) (before row : Tables)
    (p : Char) (start : Nat) : Tables :=
  (List.range (choice.size - start)).foldl
    (fun row k => fillColumn cased p choice bonus before row (start + 1 + k)) row

/-- Fills row after row; the two rows take turns. -/
def fillRows (cased : Bool) (choice : Array Char) (bonus : Array Int) :
    List (Char × Nat) → Tables → Tables → Tables
  | [], before, _ => before
  | (p, start) :: rest, before, other =>
    fillRows cased choice bonus rest (fillRow cased choice bonus before other p start) before

/-- The score of a pattern in a name; `none` when it does not fit. -/
def score? (choice pattern : String) : Option Int :=
  let ps := pattern.toList
  let cs := choice.toList
  let cased := ps.any Char.isUpper
  match firstPlaces cased ps cs 0 with
  | none => none
  | some places =>
    match places.getLast? with
    | none => some 0
    | some last =>
      let blank : Tables :=
        { matched := Array.replicate (cs.length + 1) unreached
          passed := Array.replicate (cs.length + 1) unreached
          carried := Array.replicate (cs.length + 1) 0 }
      let first := { blank with passed := Array.replicate (cs.length + 1) (-1) }
      let row := fillRows cased cs.toArray (bonuses cs).toArray (ps.zip places) first blank
      ((List.range (cs.length + 1 - last)).map fun k => valueAt row.matched (last + k)).max?

/-- The name a text fits best; of equal ones the smallest. -/
def best? (names : List String) (pattern : String) : Option String :=
  let scored := names.filterMap fun n => (score? n pattern).map fun s => (s, n)
  let better (a b : Int × String) : Bool := a.1 > b.1 || (a.1 = b.1 && a.2 < b.2)
  (scored.foldl (fun best x => if best.any (better · x) then best else some x) none).map Prod.snd

end TravelModel.Likeness
