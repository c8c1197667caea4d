import DocAtlas.Graph.Basic
import DocAtlas.Graph.Cycles
import DocAtlas.Graph.Resolver

/-!
Building a dependency graph from components and the mentions between them.
-/
namespace DocAtlas.Graph

def stage : String := "graph"

/-- What a mention by a known component comes to. -/
inductive Reading where
  | edge (owner : String) (edge : Edge)
  | unresolved (mention : Mention)

/-- A configuration points at what it configures; nothing points at itself. -/
def readMention (ids : List String) (r : Resolver) (m : Mention) : Option Reading :=
  if !ids.contains m.source then none
  else
    match r.resolve? m.target with
    | none => some (.unresolved m)
    | some id =>
      if id == m.source then none
      else if m.relation = .configures then some (.edge m.source ⟨id, m.source, .configures⟩)
      else some (.edge m.source ⟨m.source, id, m.relation⟩)

/-- An edge with the component whose mention it comes from. -/
structure Claim where
  owner : String
  edge : Edge

/-- The first claim of each edge. -/
def firstClaims (claims : List Claim) : List Claim :=
  (claims.foldl (fun kept claim =>
    if kept.any (·.edge == claim.edge) then kept else claim :: kept) []).reverse

def position (ids : List String) (id : String) : Nat := ids.idxOf id

def byKey (a b : Edge) : Ordering :=
  Order.andThen (Order.byText Edge.source)
    (Order.andThen (Order.byText Edge.target) (Order.byText (·.relation.label))) a b

def sortClaims (ids : List String) (claims : List Claim) : List Claim :=
  Order.sort (Order.andThen (Order.byNat fun c => position ids c.owner)
    fun a b => byKey a.edge b.edge) claims

def sortMentions (ids : List String) (mentions : List Mention) : List Mention :=
  Order.sort (Order.andThen (Order.byNat fun m => position ids m.source)
    (Order.andThen (Order.byText Mention.target) (Order.byText (·.relation.label)))) mentions

def unresolvedFinding (m : Mention) : Finding where
  kind := .unresolvedReference
  stage := stage
  subject := m.source
  message := "Reference to '" ++ m.target ++ "' does not match a surfaced abstraction"
  details := [("target", .text m.target), ("kind", .text m.relation.label)]

def cycleFinding (cycle : List String) : Finding where
  kind := .inheritanceCycle
  stage := stage
  subject := cycle.headD ""
  message := "Inheritance cycle: " ++ String.intercalate " -> " cycle
  details := [("cycle", Json.texts cycle)]

def readings (components : List Component) (mentions : List Mention) : List Reading :=
  mentions.filterMap (readMention (components.map (·.id)) (Resolver.ofComponents components))

def edgesFrom (components : List Component) (mentions : List Mention) : List Edge :=
  let claims := (readings components mentions).filterMap fun
    | .edge owner edge => some ⟨owner, edge⟩
    | .unresolved _ => none
  (sortClaims (components.map (·.id)) (firstClaims claims)).map (·.edge)

def unresolvedFrom (components : List Component) (mentions : List Mention) : List Mention :=
  let pending := (readings components mentions).filterMap fun
    | .edge _ _ => none
    | .unresolved m => some m
  sortMentions (components.map (·.id)) pending.eraseDups

/-- The graph of the components; it fails only if two of them share an id. -/
def build (components : List Component) (mentions : List Mention) : Except Fault Graph :=
  let edges := edgesFrom components mentions
  let cycles := Inheritance.findCycles (components.map (·.id)) edges
  of? components edges cycles
    ((unresolvedFrom components mentions).map unresolvedFinding ++ cycles.map cycleFinding)

end DocAtlas.Graph
