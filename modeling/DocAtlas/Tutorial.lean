import DocAtlas.Graph.Basic
import DocAtlas.Order

/-!
The order in which components are taught: by their distance from the components that nothing
depends on, then by how much they are depended on.
-/
namespace DocAtlas

structure Tutorial where
  ordered : List String := []
  basic : List String := []
  advanced : List String := []
  depths : Keyed Nat := []
  usage : Keyed Nat := []

namespace Tutorial

def usageOf (g : Graph) (id : String) : Nat := g.inDegree id []

/-- The components without an edge to them, or else the one with the fewest, of those the one with
the most edges from it. -/
def roots (g : Graph) : List String :=
  let free := g.ids.filter fun id => usageOf g id = 0
  if free.isEmpty then
    (Order.least? (Order.andThen (Order.byNat (usageOf g))
      (Order.andThen (Order.byNatDown fun id => g.outDegree id []) (Order.byText id)))
        g.ids).toList
  else free

/-- One step along the edges: what is reached from `frontier` and was not reached before. -/
def spread (g : Graph) (reached frontier : List String) : List String :=
  (frontier.flatMap fun id => g.successors id []).eraseDups.filter fun id => !reached.contains id

/-- The components by distance, as long as there are new ones. -/
def levels (g : Graph) : Nat → List String → List String → List (List String)
  | 0, _, _ => []
  | fuel + 1, reached, frontier =>
    if frontier.isEmpty then []
    else
      let next := spread g reached frontier
      frontier :: levels g fuel (reached ++ next) next

/-- The distance of a component from the roots, one more than the greatest if it is not reached. -/
def depthOf (ls : List (List String)) (id : String) : Nat := ls.findIdx (·.contains id)

def ofGraph (g : Graph) : Tutorial :=
  let start := roots g
  let ls := levels g (g.ids.length + 1) start start
  let ordered := Order.sort (Order.andThen (Order.byNat (depthOf ls))
    (Order.andThen (Order.byNatDown (usageOf g)) (Order.byText id))) g.ids
  let split := max 1 (ordered.length / 3)
  { ordered := ordered
    basic := ordered.take split
    advanced := ordered.drop split
    depths := g.ids.map fun id => (id, depthOf ls id)
    usage := g.ids.map fun id => (id, usageOf g id) }

end Tutorial

end DocAtlas
