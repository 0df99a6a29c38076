import Connectivity.Graph.Basic

/-!
# Shortest paths

Breadth-first search from a vertex. Neighbours are visited in the order of their ids, which fixes
the path chosen among several of the same length. The search keeps the vertices still to visit, all
that it has seen, and for each of them but the first the vertex it was seen from.
-/
namespace Connectivity

structure Search where
  queue : List EdgePointId
  seen : Std.TreeSet EdgePointId
  parents : Std.TreeMap EdgePointId EdgePointId

namespace Search

/-- The search before its first step. -/
def start (a : EdgePointId) : Search := ⟨[a], (∅ : Std.TreeSet EdgePointId).insert a, ∅⟩

/-- Sees `next` from `current`; what was seen before stays as it was. -/
def discover (current : EdgePointId) (s : Search) (next : EdgePointId) : Search :=
  if s.seen.contains next then s
  else ⟨s.queue ++ [next], s.seen.insert next, s.parents.insert next current⟩

/-- The ids from the first one to `id`, following parents back; `fuel` bounds their number. -/
def trace (s : Search) : Nat → EdgePointId → List EdgePointId
  | 0, id => [id]
  | fuel + 1, id =>
      match s.parents[id]? with
      | none => [id]
      | some parent => s.trace fuel parent ++ [id]

/-- The path by which the search came to `id`. -/
def path (s : Search) (id : EdgePointId) : List EdgePointId := s.trace s.parents.size id

end Search

namespace Graph

/-- Takes `current` from the queue and sees all its neighbours. -/
def visit (g : Graph) (current : EdgePointId) (rest : List EdgePointId) (s : Search) : Search :=
  (g.neighbours current).foldl (Search.discover current) { s with queue := rest }

/-- The search at the moment when `b` comes out of the queue, if it ever does. -/
def searchLoop (g : Graph) (b : EdgePointId) : Nat → Search → Option Search
  | 0, _ => none
  | fuel + 1, s =>
      match s.queue with
      | [] => none
      | current :: rest =>
          if current = b then some s else g.searchLoop b fuel (g.visit current rest s)

/-- Each vertex enters the queue at most once, so that the loop ends within one round more. -/
def search (g : Graph) (a b : EdgePointId) : Option Search :=
  g.searchLoop b (g.vertexCount + 1) (.start a)

/-- A shortest path between two vertices, both ends included. -/
def shortestPath (g : Graph) (a b : EdgePointId) : Option (List Vertex) :=
  if g.hasVertex a && g.hasVertex b then
    (g.search a b).map fun s => (s.path b).filterMap g.vertex?
  else none

end Graph

end Connectivity
