import DocAtlas.Document.Guide

/-!
The whole documentation tree of a dependency graph.
-/
namespace DocAtlas.Document
open Outline

def ecosystems (g : Graph) : List String :=
  Order.sortTexts ((g.components.filterMap (·.ecosystem)).filter (· != "")).eraseDups

def overview (title : String) (g : Graph) : String :=
  let known := ecosystems g
  title ++ " is documented through " ++ toString g.components.length ++ " core component(s)" ++
    (if known.isEmpty then "" else " written in " ++ String.intercalate ", " known) ++ "."

/-- The name by which a project goes if it has none. -/
def defaultTitle : String := "Project"

def titleOf : Option String → String
  | none => defaultTitle
  | some name => if name.isEmpty then defaultTitle else name

def render (g : Graph) (diagrams : List Diagram) (plan : Tutorial) (name : Option String) : Page :=
  let title := titleOf name
  .mk hubPath (title ++ " Documentation") .hub
    [.prose (overview title g) (some "Overview"),
      technical.link "navigation" "Components, architecture, configuration and deployment."
        (some "Contents"),
      tutorial.link "navigation"
        "A guided path from the foundational components to the advanced ones."]
    [Technical.chapter g diagrams, Guide.chapter g plan]

end DocAtlas.Document
