/-!
# Cycles — closed walks that a depth-first search meets

A graph is given by the edges that leave each vertex. A search follows every edge once, in order, and
reports the closed walk of each edge that leads back to the path on which it is met. A vertex that was
visited before is not entered again, so searches from several vertices report no walk twice.
-/

namespace GraphQLCache.Sdl

/-- An edge of a graph: its label, and the vertex that it leads to. -/
structure Edge (α : Type) where
  label : String
  target : α

/-- A closed walk: the vertex where it begins and ends, and the labels of its edges. -/
structure Cycle (α : Type) where
  vertex : α
  labels : List String

/-- What a search knows: the vertices that were visited, and the closed walks found. -/
structure CycleSearch (α : Type) where
  visited : List α
  found : List (Cycle α)

namespace CycleSearch

variable {α : Type} [DecidableEq α]

/-- A search that has seen nothing. -/
def start : CycleSearch α := ⟨[], []⟩

/-- The search with one more closed walk. -/
def report (search : CycleSearch α) (cycle : Cycle α) : CycleSearch α :=
  { search with found := search.found ++ [cycle] }

/-- The search from a vertex on. `path` leads to it: each vertex on the way with the label of the edge
    taken. Every level visits a vertex more, so fuel beyond their number suffices. -/
def visit (edges : α → List (Edge α)) :
    (fuel : Nat) → (path : List (α × String)) → (vertex : α) → CycleSearch α → CycleSearch α
  | 0, _, _, search => search
  | fuel + 1, path, vertex, search =>
    if search.visited.contains vertex then search
    else
      (edges vertex).foldl
        (fun search e =>
          let path := path ++ [(vertex, e.label)]
          if path.any (·.1 = e.target) then
            search.report ⟨e.target, (path.dropWhile (·.1 ≠ e.target)).map (·.2)⟩
          else visit edges fuel path e.target search)
        { search with visited := vertex :: search.visited }

end CycleSearch

end GraphQLCache.Sdl
