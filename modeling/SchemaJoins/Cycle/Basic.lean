/-! # Cycles of bounded length

A graph is given by the neighbours of its nodes. The search takes at most a
given number of steps from a node and reports the closed paths on its way; a
closed path is rotated to its smallest member, so that each is reported once.
-/

namespace SchemaJoins.Cycle

variable {α : Type} [BEq α]

abbrev Adjacency (α : Type) := List (α × List α)

namespace Adjacency

def addEdge (source target : α) : Adjacency α → Adjacency α
  | [] => [(source, [target])]
  | (node, neighbours) :: rest =>
      if node == source then
        (node, if neighbours.contains target then neighbours else neighbours ++ [target]) :: rest
      else (node, neighbours) :: addEdge source target rest

def ofEdges (edges : List (α × α)) : Adjacency α :=
  edges.foldl (fun g e => addEdge e.1 e.2 g) []

def nodes (g : Adjacency α) : List α := g.map (·.1)

def neighbours (g : Adjacency α) (node : α) : List α :=
  ((g.find? (·.1 == node)).map (·.2)).getD []

end Adjacency

/-- The closed path that an edge back to a member of the path gives. -/
def close (path : List α) (back : α) : List α := path.dropWhile (· != back) ++ [back]

/-- The closed paths within a number of steps from the end of a path. -/
def search (g : Adjacency α) : Nat → α → List α → List (List α)
  | 0, _, _ => []
  | depth + 1, current, path =>
      (g.neighbours current).flatMap fun next =>
        if path.contains next then [close path next]
        else search g depth next (path ++ [next])

def smallest (le : α → α → Bool) (first : α) (rest : List α) : α :=
  rest.foldl (fun least x => if le least x then least else x) first

/-- Rotates a closed path to start and end at its smallest member. -/
def canonical (le : α → α → Bool) (cycle : List α) : List α :=
  match cycle.dropLast with
  | [] => cycle
  | first :: rest =>
      let least := smallest le first rest
      let members := first :: rest
      members.dropWhile (· != least) ++ members.takeWhile (· != least) ++ [least]

/-- The closed paths of a graph within a number of steps, each once. -/
def find (le : α → α → Bool) (depth : Nat) (g : Adjacency α) : List (List α) :=
  ((g.nodes.mergeSort le).flatMap fun start =>
    (search g depth start [start]).map (canonical le)).eraseDups

end SchemaJoins.Cycle
