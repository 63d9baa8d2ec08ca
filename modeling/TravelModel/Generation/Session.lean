import TravelModel.Generation.Run

/-!
# TravelModel — sessions

One generator serves requests one after another. A request can be cancelled at
any time; before each library of a format it is asked whether it was.
-/

namespace TravelModel

/-- What is asked of a generator. -/
structure Request where
  options : GenerationOptions
  roots : List EntityId := []
  cancelled : Cancellation := fun _ _ => false
  generatedAt : String := ""

/-- A generator in use, with the files it works on. -/
structure Session where
  generator : Generator
  tree : FileTree := {}
  state : GenerationState := .init

namespace Session

/-- Serves a request. -/
def serve (s : Session) (q : Request) : Session × Except GenerationError GenerationReport :=
  let (tree, result) :=
    s.generator.generateWhile q.options q.roots q.cancelled q.generatedAt s.tree
  ({ s with tree, state := Generator.endState result }, result)

/-- Serves requests one after another. -/
def serveAll : Session → List Request → Session × List (Except GenerationError GenerationReport)
  | s, [] => (s, [])
  | s, q :: rest =>
    let (s, result) := s.serve q
    let (s, results) := s.serveAll rest
    (s, result :: results)

end Session

end TravelModel
