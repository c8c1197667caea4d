import DocAtlas.Diagram.Basic
import DocAtlas.Graph.Basic
import DocAtlas.Order
import DocAtlas.Path
import DocAtlas.Text.Slug

/-!
The three views of a dependency graph: all components by directory, the components that use each
other, and one chain of calls.
-/
namespace DocAtlas.Graph

/-- The group of components whose files lie in no directory. -/
def rootGroup : String := "root"

/-- The first directory of a path. -/
def topDirectory (path : String) : String :=
  if path.toList.contains '/' then (Path.segments path).headD "" else rootGroup

def groupOf (name : String) (members : List String) : Diagram.Group where
  id := if (slug name).isEmpty then rootGroup else slug name
  label := name
  members := members

def systemGroups (g : Graph) : List Diagram.Group :=
  let members := Keyed.gather (g.components.map fun c => (topDirectory c.path, c.id))
  (Order.sort (Order.byText Prod.fst) members).map fun entry => groupOf entry.1 entry.2

def systemView (g : Graph) : Diagram where
  name := "system"
  kind := .system
  title := "System architecture"
  nodes := g.components.map fun c => ⟨c.id, c.name, true, some (topDirectory c.path)⟩
  edges := g.edgesOf [.uses, .configures]
  groups := g.systemGroups

def interactionView (g : Graph) : Diagram where
  name := "interaction"
  kind := .interaction
  title := "Component interactions"
  nodes := (g.components.filter fun c =>
    (g.edgesOf [.uses]).any fun e => e.source == c.id || e.target == c.id).map fun c =>
      { id := c.id, label := c.name }
  edges := g.edgesOf [.uses]

/-- The components that `id` uses, by id. -/
def usedBy (g : Graph) (id : String) : List String :=
  Order.sortTexts (g.successors id [.uses])

/-- A walk along uses edges: the components entered, and the calls that entered them, latest first.
-/
structure Walk where
  entered : List String
  calls : List (String × String) := []

/-- A component whose calls are being followed, and the targets that are still to be looked at. -/
structure Frame where
  id : String
  pending : List String

/-- Follows calls depth first: a target that was not entered before is entered from the innermost
component, and a component without pending targets is left. -/
def follow (next : String → List String) : Nat → List Frame → Walk → Walk
  | 0, _, w => w
  | _, [], w => w
  | fuel + 1, ⟨_, []⟩ :: below, w => follow next fuel below w
  | fuel + 1, ⟨id, target :: pending⟩ :: below, w =>
    if w.entered.contains target then follow next fuel (⟨id, pending⟩ :: below) w
    else
      follow next fuel (⟨target, next target⟩ :: ⟨id, pending⟩ :: below)
        ⟨target :: w.entered, (id, target) :: w.calls⟩

/-- The component that uses the most others, of equal ones the one with the least id. -/
def busiest? (g : Graph) : Option String :=
  Order.least? (Order.andThen (Order.byNatDown fun id => (g.successors id [.uses]).length)
    (Order.byText id)) ((g.edgesOf [.uses]).map (·.source))

/-- The walk from `start`: each component is left at most once, and each edge looked at once. -/
def callChain (g : Graph) (start : String) : Walk :=
  follow g.usedBy (g.components.length + (g.edgesOf [.uses]).length) [⟨start, g.usedBy start⟩]
    { entered := [start] }

def callSteps (calls : List (String × String)) : List Diagram.Step :=
  calls.mapIdx fun i call =>
    ⟨i + 1, call.1, call.2, call.1 ++ " calls " ++ call.2⟩

def sequenceView (g : Graph) : Diagram :=
  let walk : Walk := match g.busiest? with
    | none => { entered := [] }
    | some start => g.callChain start
  { name := "sequence"
    kind := .sequence
    title := "Primary request flow"
    nodes := walk.entered.reverse.map fun id => { id := id, label := g.nameOf id }
    steps := callSteps walk.calls.reverse }

def views (g : Graph) : List Diagram := [g.systemView, g.interactionView, g.sequenceView]

end DocAtlas.Graph
