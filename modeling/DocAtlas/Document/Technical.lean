import DocAtlas.Diagram.Basic
import DocAtlas.Document.Outline
import DocAtlas.Graph.Basic
import DocAtlas.Order
import DocAtlas.Text.Blank

/-!
The technical part of the documentation: one page for each component, and the pages on
architecture, configuration and deployment.
-/
namespace DocAtlas.Technical
open Outline

/-- The heading for the first of several blocks. -/
def headingAt (index : Nat) (heading : String) : Option String :=
  if index = 0 then some heading else none

/-- The effect of a key that is read from the environment begins so. -/
def environmentEffect : String := "read from the environment"

def backLink : Block := technical.link

def linkTo (c : Component) : Block := .link (componentPath c.id) c.name "component"

def linkToId (g : Graph) (id : String) : Block := .link (componentPath id) (g.nameOf id) "component"

def keyList (settings : Keyed String) : String :=
  String.intercalate "\n" (settings.map fun entry => "- `" ++ entry.1 ++ "`: " ++ entry.2)

def arrowPath (g : Graph) (ids : List String) : String :=
  String.intercalate " -> " (ids.map g.nameOf)

def diagramBlocks (d : Diagram) : List Block :=
  .ofDiagram d.name d.title ::
    (if d.steps.isEmpty then []
    else
      [.prose (String.intercalate "\n"
        (d.steps.map fun s => toString s.index ++ ". " ++ s.label))])

def cycleBlocks (g : Graph) (index : Nat) (cycle : List String) : List Block :=
  .prose ("Inheritance cycle between components: " ++ arrowPath g cycle ++ ".")
      (headingAt index "Known Issues") ::
    cycle.eraseDups.map (linkToId g)

def architecturePage (g : Graph) (diagrams : List Diagram) : Page :=
  .mk architecture.path architecture.title .chapter
    (diagrams.flatMap diagramBlocks ++ (g.cycles.mapIdx (cycleBlocks g)).flatten ++ [backLink]) []

def ownerBlocks (g : Graph) (c : Component) : List Block :=
  let configured := g.successors c.id [.configures]
  [.prose (keyList c.settings) (some c.name)] ++
    (if configured.isEmpty then []
    else [.prose ("Configures: " ++ String.intercalate ", " (configured.map g.nameOf) ++ ".")]) ++
    [linkTo c]

def configurationPage (g : Graph) : Page :=
  let owners := g.components.filter fun c => !c.settings.isEmpty
  .mk configuration.path configuration.title .chapter
    ((if owners.isEmpty then [.prose "No configuration keys were discovered."] else []) ++
      owners.flatMap (ownerBlocks g) ++ [backLink]) []

def deployableBlock (c : Component) : Block :=
  .link (componentPath c.id) c.name "component"
    (if c.path.isEmpty then c.role.label else c.role.label ++ " defined in `" ++ c.path ++ "`")

/-- Environment entries by name with the components that read them. -/
def environment (g : Graph) : List (String × List String) :=
  let entries := g.components.flatMap fun c =>
    (c.settings.filter fun entry => startsWith entry.2 environmentEffect).map fun entry =>
      (entry.1, c.name)
  Order.sort (Order.byText Prod.fst) (Keyed.gather entries)

def environmentBlocks (g : Graph) : List Block :=
  let entries := environment g
  if entries.isEmpty then []
  else
    [.prose (String.intercalate "\n" (entries.map fun entry =>
      "- `" ++ entry.1 ++ "` (used by " ++ String.intercalate ", " entry.2 ++ ")"))
      (some "Environment Variables")]

def isDeployable (c : Component) : Bool := c.role = .service || c.role = .store

def deploymentPage (g : Graph) : Page :=
  let deployable := g.components.filter isDeployable
  .mk deployment.path deployment.title .chapter
    ((if deployable.isEmpty then [.prose "No service or store components were discovered."]
      else
        .prose "These services and stores make up the runtime footprint."
          (some "Runtime Components") :: deployable.map deployableBlock) ++
      environmentBlocks g ++ [backLink]) []

/-- Links to the other ends of edges, under one heading. -/
def edgeBlocks (g : Graph) (heading : String) (ends : List (String × Relation)) : List Block :=
  ends.mapIdx fun index other =>
    .link (componentPath other.1) (g.nameOf other.1) "dependency" other.2.label
      (headingAt index heading)

def componentPage (g : Graph) (c : Component) : Page :=
  let summary := "Kind: " ++ c.role.label ++ "." ++
    (if c.path.isEmpty then "" else " Defined in `" ++ c.path ++ "`.")
  let outgoing := (g.edges.filter (·.source == c.id)).map fun e => (e.target, e.relation)
  let incoming := (g.edges.filter (·.target == c.id)).map fun e => (e.source, e.relation)
  .mk (componentPath c.id) c.name .component
    ([.prose summary] ++
      (if c.purpose.isEmpty then [] else [.prose c.purpose (some "Purpose")]) ++
      (if c.operations.isEmpty then []
      else [.code (String.intercalate "\n" (c.operations.map (·.signature)))
        (languageOf c.ecosystem) (some "Operations")]) ++
      (if c.settings.isEmpty then [] else [.prose (keyList c.settings) (some "Configuration")]) ++
      edgeBlocks g "Depends On" outgoing ++ edgeBlocks g "Used By" incoming ++
      ((g.cycles.filter (·.contains c.id)).mapIdx fun index cycle =>
        .prose ("Part of an inheritance cycle: " ++ arrowPath g cycle ++ ".")
          (headingAt index "Known Issues")) ++
      [backLink]) []

def chapter (g : Graph) (diagrams : List Diagram) : Page :=
  .mk technical.path technical.title .chapter
    ([.prose ("This reference covers " ++ toString g.components.length ++ " component(s) and " ++
        toString g.edges.length ++ " dependency relation(s) between them.")] ++
      technicalPages.mapIdx (fun index e => e.link "navigation" "" (headingAt index "Guides")) ++
      g.components.mapIdx fun index c =>
        .link (componentPath c.id) c.name "component" c.purpose (headingAt index "Components"))
    ([architecturePage g diagrams, configurationPage g, deploymentPage g] ++
      g.components.map (componentPage g))

end DocAtlas.Technical
