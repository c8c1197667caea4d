import DocAtlas.Document.Technical
import DocAtlas.Tutorial

/-!
The tutorial part of the documentation: the components in teaching order, troubleshooting and
frequent questions.
-/
namespace DocAtlas.Guide
open Outline Technical

def page (e : Entry) (blocks : List Block) : Page := .mk e.path e.title .tutorial blocks []

def firstBlocks (c : Component) (count : Nat) : List Block :=
  [.prose ("Begin with " ++ c.name ++ "; it is the first of " ++ toString count ++
      " component(s) in dependency order.")] ++
    (if c.purpose.isEmpty then [] else [.prose c.purpose (some c.name)]) ++
    (match c.operations with
      | [] => []
      | first :: _ =>
        [.code first.signature (languageOf c.ecosystem) (some "First Operation")]) ++
    [linkTo c]

def gettingStartedPage (g : Graph) (plan : Tutorial) : Page :=
  page gettingStarted
    ((match plan.basic.head?.bind g.get? with
      | none => [.prose "No components were discovered in this repository."]
      | some c => firstBlocks c plan.ordered.length) ++ [basicUsage.link "tutorial"])

/-- The heading goes to the first block about a component. -/
def subjectBlocks (g : Graph) (c : Component) : List Block :=
  let dependencies := g.successors c.id [.uses, .inherits]
  let ownHeading := fun (covered : Bool) => if covered then none else some c.name
  (if c.purpose.isEmpty then [] else [.prose c.purpose (some c.name)]) ++
    (if dependencies.isEmpty then []
    else [.prose ("Builds on: " ++ String.intercalate ", " (dependencies.map g.nameOf) ++ ".")
      (ownHeading (!c.purpose.isEmpty))]) ++
    [.link (componentPath c.id) c.name "component" ""
      (ownHeading (!c.purpose.isEmpty || !dependencies.isEmpty))]

def subjectsPage (g : Graph) (e : Entry) (subjects : List String) (intro empty : String) : Page :=
  let present := subjects.filterMap g.get?
  page e ([.prose (if present.isEmpty then empty else intro)] ++
    present.flatMap (subjectBlocks g) ++ [tutorial.link])

def findingBlocks (g : Graph) (f : Finding) : List Block :=
  .prose (f.message ++ " (stage: " ++ f.stage ++ ")") (some f.kind.label) ::
    (if (g.get? f.subject).isSome then [linkToId g f.subject] else [])

def troubleshootingPage (g : Graph) : Page :=
  page troubleshooting
    ((if g.findings.isEmpty then
        [.prose "No issues were detected while analysing the repository."] else []) ++
      g.findings.flatMap (findingBlocks g) ++ [architecture.link])

def settingCount (g : Graph) : Nat := (g.components.flatMap (·.settings)).length

def faqPage (g : Graph) : Page :=
  page faq
    [architecture.link "navigation"
        "The architecture page shows the system map and the primary request flow."
        (some "How do the components fit together?"),
      configuration.link "navigation"
        (toString (settingCount g) ++ " configuration key(s) are listed there.")
        (some "Where are the configuration options?"),
      gettingStarted.link "tutorial" "" (some "Where should I start?")]

def chapter (g : Graph) (plan : Tutorial) : Page :=
  .mk tutorial.path tutorial.title .chapter
    ([.prose "Work through the pages in order: components that others build on come first."] ++
      tutorialPages.map fun e => e.link "tutorial")
    [gettingStartedPage g plan,
      subjectsPage g basicUsage plan.basic "Start with these foundational components."
        "No foundational components were discovered.",
      subjectsPage g advancedFeatures plan.advanced "These components build on the basics."
        "Every discovered component is covered in Basic Usage.",
      troubleshootingPage g, faqPage g]

end DocAtlas.Guide
