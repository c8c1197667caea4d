import DocAtlas.Component

/-!
Inheritance cycles, found by a depth-first search from each id in turn.
-/
namespace DocAtlas.Inheritance

structure Search where
  /-- The ids that have been entered. -/
  seen : List String := []
  cycles : List (List String) := []

/-- The ids that `id` inherits from, in the order of the edges. -/
def parents (ids : List String) (edges : List Edge) (id : String) : List String :=
  (edges.filter fun e =>
    e.relation = .inherits && e.source == id && ids.contains e.source && ids.contains e.target).map
      (·.target)

/-- The part of the path from `id` on, closed by `id`; `path` begins with its last id. -/
def close (path : List String) (id : String) : List String :=
  (path.takeWhile (· != id) ++ [id]).reverse ++ [id]

/-- Searches from the head of `path`: an id on the path closes a cycle, an unseen one is entered. -/
def visit (next : String → List String) : Nat → List String → Search → Search
  | 0, _, s => s
  | _, [], s => s
  | fuel + 1, id :: above, s =>
    (next id).foldl (fun s target =>
      if !s.seen.contains target then
        visit next fuel (target :: id :: above) { s with seen := target :: s.seen }
      else if (id :: above).contains target then
        { s with cycles := s.cycles ++ [close (id :: above) target] }
      else s) s

/-- The cycles met, each as a path that begins and ends with the same id. No path is longer than
`ids`. -/
def findCycles (ids : List String) (edges : List Edge) : List (List String) :=
  (ids.foldl (fun (s : Search) id =>
    if s.seen.contains id then s
    else visit (parents ids edges) (ids.length + 1) [id] { s with seen := id :: s.seen })
    {}).cycles

end DocAtlas.Inheritance
