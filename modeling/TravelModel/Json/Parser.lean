import TravelModel.Json.Token

/-!
# TravelModel — reading JSON

The parser is a pushdown automaton over tokens: the stack holds the arrays
and objects that are still open. Nesting is limited; of two fields with one
name in an object the later wins.
-/

namespace TravelModel.Json

/-- An array or object that is still open. -/
inductive Frame where
  | array (items : List Json)
  | object (fields : Keyed Json) (key : Option String)

/-- What may come next. -/
inductive Expect where
  | value
  | valueOrClose
  | key
  | keyOrClose
  | colon
  | commaOrClose
  | done (v : Json)

/-- The state of the parser. -/
structure ParseState where
  stack : List Frame
  expect : Expect

/-- Values nest to less than this depth. -/
def depthLimit : Nat := 128

/-- Takes a finished value into the innermost open frame. -/
def ParseState.give (stack : List Frame) (v : Json) : Option ParseState :=
  match stack with
  | [] => some ⟨[], .done v⟩
  | .array items :: rest => some ⟨.array (v :: items) :: rest, .commaOrClose⟩
  | .object fields (some k) :: rest =>
    some ⟨.object (Keyed.insert k v fields) none :: rest, .commaOrClose⟩
  | .object _ none :: _ => none

/-- Starts a value. -/
def ParseState.start (stack : List Frame) : Token → Option ParseState
  | .text s => give stack (.str s)
  | .number n => give stack (.num n)
  | .word v => give stack v
  | .open_ array =>
    if stack.length + 1 < depthLimit then
      if array then some ⟨.array [] :: stack, .valueOrClose⟩
      else some ⟨.object [] none :: stack, .keyOrClose⟩
    else none
  | _ => none

/-- Closes the innermost frame. -/
def ParseState.close (array : Bool) : List Frame → Option ParseState
  | .array items :: rest => if array then give rest (.arr items.reverse) else none
  | .object fields none :: rest => if array then none else give rest (.obj fields)
  | _ => none

/-- Takes the name of a field. -/
def ParseState.name (k : String) : List Frame → Option ParseState
  | .object fields none :: rest => some ⟨.object fields (some k) :: rest, .colon⟩
  | _ => none

/-- One step of the parser. -/
def ParseState.step (s : ParseState) (t : Token) : Option ParseState :=
  match s.expect, t with
  | .done _, _ => none
  | .value, t => start s.stack t
  | .valueOrClose, .close a => close a s.stack
  | .valueOrClose, t => start s.stack t
  | .key, .text k => name k s.stack
  | .key, _ => none
  | .keyOrClose, .text k => name k s.stack
  | .keyOrClose, .close a => close a s.stack
  | .keyOrClose, _ => none
  | .colon, .colon => some { s with expect := .value }
  | .colon, _ => none
  | .commaOrClose, .comma =>
    match s.stack with
    | .array _ :: _ => some { s with expect := .value }
    | _ => some { s with expect := .key }
  | .commaOrClose, .close a => close a s.stack
  | .commaOrClose, _ => none

/-- Runs the parser over tokens. -/
def ParseState.run : ParseState → List Token → Option Json
  | ⟨_, .done v⟩, [] => some v
  | _, [] => none
  | s, t :: rest =>
    match s.step t with
    | some s' => run s' rest
    | none => none

/-- The value of a JSON text. -/
def parse? (s : String) : Option Json := do
  let ts ← tokens? s.toList
  ParseState.run ⟨[], .value⟩ ts

/-- The value of the bytes of a JSON text. -/
def parseBytes? (bytes : ByteArray) : Option Json := do
  parse? (← String.fromUTF8? bytes)

end TravelModel.Json
