import TravelModel.Scope.Basic

/-!
# TravelModel — order of generation

Libraries are generated after those they depend on. Libraries that depend on
each other form a block. Each block counts the blocks that it still waits for,
and of those that wait for none the one with the least name comes next; of
equal names, the block that was found first.
-/

namespace TravelModel.Scope

/-- The user libraries in scope. -/
def userLibraries (m : Model) (s : Scope) : List Library :=
  s.libraries.filterMap fun id => (m.library? id).filter fun l => !l.builtIn

/-- The other libraries among some that a library depends on directly. -/
def libraryDependencies (m : Model) (among : List LibraryId) (id : LibraryId) : List LibraryId :=
  let deps := (m.libraryEntities id).flatMap fun e => m.dependencies e.id
  let libs := deps.filterMap fun d => (m.entity? d).map NamedEntity.library
  (libs.filter fun l => l ≠ id && among.contains l).eraseDups

/-- A library with the libraries it depends on directly. -/
abbrev DependencyGraph := List (LibraryId × List LibraryId)

/-- The libraries one depends on directly. -/
def DependencyGraph.next (g : DependencyGraph) (id : LibraryId) : List LibraryId :=
  ((g.find? fun e => e.1 = id).map Prod.snd).getD []

/-- The libraries one depends on, directly or through others. -/
def DependencyGraph.reach (g : DependencyGraph) (id : LibraryId) : List LibraryId :=
  closeLayers g.next (g.length + 1) [id] []

/-- What libraries are ordered by. -/
def sortKey (l : Library) : String × String :=
  (l.name, l.ns.getD "")

/-- Whether a key comes before another or is the same. -/
def keyLe (a b : String × String) : Bool :=
  a.1 < b.1 || (a.1 = b.1 && a.2 ≤ b.2)

/-- Libraries ordered by name and namespace. -/
def sortLibraries (ls : List Library) : List Library :=
  ls.mergeSort fun a b => keyLe (sortKey a) (sortKey b)

/-- The libraries that depend on a library and on which it depends, itself
included, by name. -/
def block (reach : DependencyGraph) (ls : List Library) (l : Library) : List Library :=
  sortLibraries <|
    ls.filter fun k => k.id = l.id || ((reach.next l.id).contains k.id && (reach.next k.id).contains l.id)

/-- The libraries among some that depend on a library directly. -/
def dependents (graph : DependencyGraph) (ls : List Library) (l : Library) : List Library :=
  ls.filter fun k => (graph.next k.id).contains l.id

/-- How far a walk came: what it met, and what it left behind. -/
structure Walk where
  met : List Library := []
  left : List Library := []

/-- Walks from a library to all that follow it and were not met, and leaves it
behind after them. -/
def Walk.visit (next : Library → List Library) : Nat → Walk → Library → Walk
  | 0, w, _ => w
  | budget + 1, w, l =>
    if l ∈ w.met then w
    else
      let w := (next l).foldl (Walk.visit next budget) { w with met := l :: w.met }
      { w with left := w.left ++ [l] }

/-- Libraries as a walk over all of them leaves them behind. A walk goes no deeper
than there are libraries. -/
def leavingOrder (next : Library → List Library) (ls : List Library) : List Library :=
  (ls.foldl (Walk.visit next ls.length) {}).left

/-- The blocks of some libraries. They are found from the libraries that a walk
from each library to its dependents leaves behind, the last one first. -/
def blocks (graph reach : DependencyGraph) (ls : List Library) : List (List Library) :=
  ((leavingOrder (dependents graph ls) ls).reverse.map (block reach ls)).eraseDups

/-- The key of a block is that of its first library. -/
def blockKey (b : List Library) : String × String :=
  (b.head?.map sortKey).getD ("", "")

/-! ## Counting down -/

/-- A block and its place among the blocks. -/
structure Node where
  place : Nat
  block : List Library
deriving DecidableEq

namespace Node

/-- Whether a node comes before another or is the same: by key, and by place if
the keys are equal. -/
def le (n k : Node) : Bool :=
  if blockKey n.block = blockKey k.block then n.place ≤ k.place
  else keyLe (blockKey n.block) (blockKey k.block)

/-- Whether some library of a node depends directly on one of another node. -/
def needs (graph : DependencyGraph) (n k : Node) : Bool :=
  n ≠ k && n.block.any fun l => k.block.any fun o => (graph.next l.id).contains o.id

/-- The first of some nodes. -/
def first? : List Node → Option Node
  | [] => none
  | n :: rest =>
    match first? rest with
    | none => some n
    | some k => some (if n.le k then n else k)

end Node

/-- The nodes with the number of nodes that each waits for, those that are ready,
and the libraries that were taken. -/
structure Countdown where
  pending : List (Node × Nat)
  ready : List Node
  taken : List LibraryId := []

namespace Countdown

/-- Each node waits for all that it needs, and is ready if that is nothing. -/
def start (graph : DependencyGraph) (nodes : List Node) : Countdown :=
  let pending := nodes.map fun n => (n, (nodes.filter (n.needs graph)).length)
  { pending, ready := (pending.filter fun p => p.2 = 0).map Prod.fst }

/-- Takes a node. What needs it waits for one node less, and becomes ready when
that was the last. -/
def take (graph : DependencyGraph) (c : Countdown) (n : Node) : Countdown :=
  let pending := c.pending.map fun p => if p.1.needs graph n then (p.1, p.2 - 1) else p
  let freed := pending.filter fun p => p.1.needs graph n && p.2 = 0
  { pending
    ready := c.ready.filter (· ≠ n) ++ freed.map Prod.fst
    taken := c.taken ++ n.block.map Library.id }

/-- Takes the first ready node until none is ready. -/
def run (graph : DependencyGraph) : Nat → Countdown → List LibraryId
  | 0, c => c.taken
  | budget + 1, c =>
    match Node.first? c.ready with
    | none => c.taken
    | some n => run graph budget (c.take graph n)

end Countdown

/-- The user libraries in scope in the order of generation. -/
def order (m : Model) (s : Scope) : List LibraryId :=
  let ls := s.userLibraries m
  let ids := ls.map Library.id
  let graph : DependencyGraph := ids.map fun id => (id, libraryDependencies m ids id)
  let reach : DependencyGraph := ids.map fun id => (id, graph.reach id)
  let nodes := (blocks graph reach ls).zipIdx.map fun p => Node.mk p.2 p.1
  (Countdown.start graph nodes).run graph nodes.length

end TravelModel.Scope
