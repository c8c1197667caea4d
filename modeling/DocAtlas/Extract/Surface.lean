import DocAtlas.Graph.Resolver

/-!
Ranking of components: those with many operations that are mentioned often come first.
-/
namespace DocAtlas.Extract

/-- The ids that mentions resolve to, but for mentions of a component by itself. -/
def hits (r : Resolver) (mentions : List Mention) : List String :=
  mentions.filterMap fun m => (r.resolve? m.target).filter (· != m.source)

/-- A component with its place among the candidates and the measures of its rank. -/
structure Ranked where
  component : Component
  position : Nat
  operations : Nat
  inbound : Nat

def Ranked.weight (r : Ranked) : Nat := r.operations * r.inbound

def rankOrder : Ranked → Ranked → Ordering :=
  Order.andThen (Order.byNatDown Ranked.weight)
    (Order.andThen (Order.byNatDown Ranked.operations) (Order.byNat Ranked.position))

def rank (candidates : List Component) (mentions : List Mention) : List Ranked :=
  let found := hits (Resolver.ofComponents candidates) mentions
  candidates.mapIdx fun i c => ⟨c, i, c.operations.length, found.count c.id⟩

/-- The `limit` candidates of highest rank, in their own order. -/
def surface (limit : Nat) (candidates : List Component) (mentions : List Mention) :
    List Component :=
  if candidates.length ≤ limit then candidates
  else
    (Order.sort (Order.byNat Ranked.position)
      ((Order.sort rankOrder (rank candidates mentions)).take limit)).map (·.component)

end DocAtlas.Extract
