import DocAtlas.Document.Basic

/-!
The fixed pages of the documentation: their paths and titles.
-/
namespace DocAtlas.Outline

/-- A page that every documentation tree has. -/
structure Entry where
  path : String
  title : String

def hubPath : String := "README"

def technical : Entry := ⟨"technical/README", "Technical Reference"⟩

def architecture : Entry := ⟨"technical/architecture", "Architecture"⟩

def configuration : Entry := ⟨"technical/configuration", "Configuration"⟩

def deployment : Entry := ⟨"technical/deployment", "Deployment"⟩

def tutorial : Entry := ⟨"tutorial/README", "Tutorial"⟩

def gettingStarted : Entry := ⟨"tutorial/getting-started", "Getting Started"⟩

def basicUsage : Entry := ⟨"tutorial/basic-usage", "Basic Usage"⟩

def advancedFeatures : Entry := ⟨"tutorial/advanced-features", "Advanced Features"⟩

def troubleshooting : Entry := ⟨"tutorial/troubleshooting", "Troubleshooting"⟩

def faq : Entry := ⟨"tutorial/faq", "FAQ"⟩

def technicalPages : List Entry := [architecture, configuration, deployment]

def tutorialPages : List Entry :=
  [gettingStarted, basicUsage, advancedFeatures, troubleshooting, faq]

def componentPath (id : String) : String := "technical/components/" ++ id

/-- The ecosystems whose name is also the name of the language that code is shown in. -/
def shownLanguages : List String :=
  ["python", "javascript", "typescript", "java", "go", "rust", "ruby"]

def languageOf (ecosystem : Option String) : Option String :=
  ecosystem.filter shownLanguages.contains

def Entry.link (e : Entry) (relation : String := "navigation") (text : String := "")
    (heading : Option String := none) : Block :=
  Block.link e.path e.title relation text heading

end DocAtlas.Outline
