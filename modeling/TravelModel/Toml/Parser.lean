import TravelModel.Toml.Scalar
import TravelModel.Toml.Text

/-!
# TravelModel — reading TOML

Tables are defined once, by a header, by keys with points, or in braces. A
table that only stands between others is implicit and can be defined later;
one that keys with points made is open to such keys only.
-/

namespace TravelModel

/-- A part of a document while it is read. -/
inductive TomlNode where
  | value (v : Toml)
  | table (implicit dotted : Bool) (fields : List (String × TomlNode))
  /-- Tables under one header in double brackets. -/
  | tables (items : List TomlNode)
deriving Repr, Inhabited

namespace TomlNode

/-- A table that a header defines. -/
def empty : TomlNode :=
  .table false false []

/-- Changes the table at a path; tables on the way are made where they are
missing. Keys with points must not enter a table that is defined. -/
def enter (dotted : Bool) (change : TomlNode → Option TomlNode) :
    List String → TomlNode → Option TomlNode
  | [], t => change t
  | k :: path, .table implicit isDotted fields =>
    let put (sub : TomlNode) : TomlNode := .table implicit isDotted (Keyed.insert k sub fields)
    match Keyed.find? k fields with
    | none => (enter dotted change path (.table true dotted [])).map put
    | some (.value _) => none
    | some (.tables items) => do
      let last ← items.getLast?
      let sub ← enter dotted change path last
      return put (.tables (items.dropLast ++ [sub]))
    | some (.table subImplicit subDotted subFields) =>
      if dotted && !subImplicit then none
      else (enter dotted change path (.table subImplicit subDotted subFields)).map put
  | _ :: _, _ => none

/-- Puts a value under a key with points. -/
def putValue (path : List String) (v : Toml) (t : TomlNode) : Option TomlNode := do
  let key ← path.getLast?
  let above := path.dropLast
  enter true
    (fun
      | .table implicit isDotted fields =>
        if isDotted = above.isEmpty || Keyed.contains fields key then none
        else some (.table implicit isDotted (Keyed.insert key (.value v) fields))
      | _ => none)
    above t

/-- Changes what is under the last key of a path. -/
def underLast (path : List String) (change : Option TomlNode → Option TomlNode) (t : TomlNode) :
    Option TomlNode := do
  let key ← path.getLast?
  enter false
    (fun
      | .table implicit isDotted fields => do
        return .table implicit isDotted (Keyed.insert key (← change (Keyed.find? key fields)) fields)
      | _ => none)
    path.dropLast t

/-- Defines a table by a header. -/
def openTable (path : List String) (t : TomlNode) : Option TomlNode :=
  t.underLast path fun
    | none => some empty
    | some (.table true false fields) => some (.table false false fields)
    | some _ => none

/-- Adds a table by a header in double brackets. -/
def addTable (path : List String) (t : TomlNode) : Option TomlNode :=
  t.underLast path fun
    | none => some (.tables [empty])
    | some (.tables items) => some (.tables (items ++ [empty]))
    | some _ => none

mutual

/-- The value that was read. -/
def result : TomlNode → Toml
  | value v => v
  | table _ _ fields => .table (fieldResults fields)
  | tables items => .list (itemResults items)

/-- The values of fields. -/
def fieldResults : List (String × TomlNode) → List (String × Toml)
  | [] => []
  | (k, n) :: rest => (k, n.result) :: fieldResults rest

/-- The values of tables under one header. -/
def itemResults : List TomlNode → List Toml
  | [] => []
  | n :: rest => n.result :: itemResults rest

end

end TomlNode

namespace Toml

/-! ## Values -/

/-- How deep lists and tables in braces can be nested. -/
def depthLimit : Nat := 80

mutual

/-- Reads a value. -/
def value? : Nat → Nat → List Char → Option (Toml × List Char)
  | 0, _, _ => none
  | budget + 1, depth, cs =>
    match cs with
    | '\x22' :: _ | '\x27' :: _ => (quoted? cs).map fun (s, rest) => (text s, rest)
    | '[' :: rest => if depth = 0 then none else items? budget (depth - 1) [] rest
    | '{' :: rest =>
      if depth = 0 then none
      else
        match blanks rest with
        | '}' :: rest => some (table [], rest)
        | rest => fields? budget (depth - 1) .empty rest
    | _ => takeScalar? cs

/-- Reads the items of a list, after those already read. -/
def items? : Nat → Nat → List Toml → List Char → Option (Toml × List Char)
  | 0, _, _, _ => none
  | budget + 1, depth, read, cs => do
    match ← skipGap false cs with
    | ']' :: rest => return (list read.reverse, rest)
    | cs =>
      let (v, rest) ← value? budget depth cs
      match ← skipGap false rest with
      | ',' :: rest => items? budget depth (v :: read) rest
      | ']' :: rest => return (list (v :: read).reverse, rest)
      | _ => none

/-- Reads the fields of a table in braces, after those already read. -/
def fields? : Nat → Nat → TomlNode → List Char → Option (Toml × List Char)
  | 0, _, _, _ => none
  | budget + 1, depth, read, cs => do
    let (path, rest) ← keyPath? cs.length cs
    let rest ← char? '=' rest
    let (v, rest) ← value? budget depth (blanks rest)
    let read ← read.putValue path v
    match blanks rest with
    | ',' :: rest => fields? budget depth read rest
    | '}' :: rest => return (read.result, rest)
    | _ => none

end

/-! ## Documents -/

/-- A document while it is read: what has been read, and the path of the table
that keys go to. -/
structure Reading where
  root : TomlNode := .empty
  here : List String := []

/-- Reads a key with its value and the end of the line. -/
def Reading.assignment? (r : Reading) (cs : List Char) : Option (Reading × List Char) := do
  let (path, rest) ← keyPath? cs.length cs
  let rest ← char? '=' rest
  let (v, rest) ← value? (rest.length + 1) depthLimit (blanks rest)
  let root ← r.root.enter false (TomlNode.putValue path v) r.here
  return ({ r with root }, ← endLine? rest)

/-- Reads a header after its opening brackets, and the end of the line. -/
def Reading.header? (r : Reading) (double : Bool) (cs : List Char) :
    Option (Reading × List Char) := do
  let (path, rest) ← keyPath? cs.length cs
  let rest ← char? ']' rest
  let rest ← if double then char? ']' rest else some rest
  let root ← if double then r.root.addTable path else r.root.openTable path
  return ({ root, here := path }, ← endLine? rest)

/-- Reads one line. -/
def Reading.line? (r : Reading) (cs : List Char) : Option (Reading × List Char) :=
  match cs with
  | '[' :: '[' :: rest => r.header? true rest
  | '[' :: rest => r.header? false rest
  | c :: _ =>
    if c = '#' || c = '\n' || c = '\r' then (endLine? cs).map fun rest => (r, rest)
    else r.assignment? cs
  | [] => some (r, [])

/-- Reads lines to the end. -/
def Reading.lines? : Nat → Reading → List Char → Option Reading
  | 0, _, _ => none
  | budget + 1, r, cs =>
    match blanks cs with
    | [] => some r
    | cs => do
      let (r, rest) ← r.line? cs
      lines? budget r rest

/-- Reads a document. -/
def parse? (s : String) : Option Toml :=
  let cs :=
    match s.toList with
    | '\uFEFF' :: rest => rest
    | cs => cs
  (Reading.lines? (cs.length + 1) {} cs).map fun r => r.root.result

end Toml

end TravelModel
