/-!
# TravelModel — XML text

Elements with attributes, and their text: two blanks of indent for each
level, an element with text on one line.
-/

namespace TravelModel

/-- An XML element. -/
inductive Markup where
  /-- An element without content. -/
  | leaf (tag : String) (attributes : List (String × String))
  /-- An element with text. -/
  | text (tag : String) (attributes : List (String × String)) (content : String)
  /-- An element with elements, a line each. -/
  | node (tag : String) (attributes : List (String × String)) (children : List Markup)
deriving Repr, Inhabited

namespace Markup

/-- The written form of a character. -/
def escapeChar : Char → List Char
  | '<' => "&lt;".toList
  | '>' => "&gt;".toList
  | '&' => "&amp;".toList
  | '\x27' => "&apos;".toList
  | '\x22' => "&quot;".toList
  | c => [c]

/-- The written form of a text. -/
def escape (s : String) : String :=
  String.ofList (s.toList.flatMap escapeChar)

/-- A tag with its attributes, without brackets. -/
def head (tag : String) (attributes : List (String × String)) : String :=
  tag ++ String.join (attributes.map fun (k, v) => " " ++ k ++ "=\"" ++ escape v ++ "\"")

/-- The indent of a level. -/
def indent (level : Nat) : String :=
  String.ofList (List.replicate (2 * level) ' ')

mutual

/-- The lines of an element at a level, each with a line break before it. -/
def render (level : Nat) : Markup → String
  | leaf tag attributes => "\n" ++ indent level ++ "<" ++ head tag attributes ++ "/>"
  | text tag attributes content =>
    "\n" ++ indent level ++ "<" ++ head tag attributes ++ ">" ++ escape content ++ "</" ++ tag ++ ">"
  | node tag attributes children =>
    "\n" ++ indent level ++ "<" ++ head tag attributes ++ ">" ++ renderAll (level + 1) children ++
      "\n" ++ indent level ++ "</" ++ tag ++ ">"

/-- The lines of elements one after another. -/
def renderAll (level : Nat) : List Markup → String
  | [] => ""
  | m :: rest => render level m ++ renderAll level rest

end

/-- The text of a document with a root element. -/
def document (root : Markup) : String :=
  "<?xml version=\"1.0\" encoding=\"UTF-8\"?>" ++ render 0 root ++ "\n"

end Markup

end TravelModel
