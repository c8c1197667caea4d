import DocAtlas.Diagram.Mermaid
import DocAtlas.Document.Outline
import DocAtlas.Markdown.Contents
import DocAtlas.Path

/-!
Pages written as markdown.
-/
namespace DocAtlas.Markdown

/-- The link from the page `source` to the page `target`. -/
def relativeLink (source target : String) : String :=
  Path.relative (target ++ ".md") (Path.directory source)

/-- A part of a page: texts in groups, where the links of a group form one list. -/
structure Section where
  heading : Option String := none
  groups : List (List String) := []
deriving DecidableEq

def Section.body (s : Section) : String :=
  String.intercalate "\n\n" (s.groups.map (String.intercalate "\n"))

def Section.isVoid (s : Section) : Bool := s.heading.isNone && s.groups.isEmpty

def fenced (language text : String) : String := "```" ++ language ++ "\n" ++ text ++ "\n```"

/-- The diagram of a name; of several the last one. -/
def diagramNamed (diagrams : List Diagram) (name : String) : Option Diagram :=
  diagrams.reverse.find? (·.name == name)

def linkLine (path text : String) (r : Reference) : String :=
  let link := "- [" ++ r.label ++ "](" ++ relativeLink path r.target ++ ")"
  if text.isEmpty then link else link ++ ": " ++ text

/-- The markdown of a block on the page `path`; a diagram that is not there has none. -/
def blockText (path : String) (diagrams : List Diagram) (b : Block) : String :=
  match b.kind with
  | .code => fenced (b.language.getD "") b.text
  | .diagram =>
    match diagramNamed diagrams (b.diagram.getD "") with
    | some d => fenced "mermaid" d.mermaid
    | none => ""
  | .reference =>
    match b.reference with
    | some r => linkLine path b.text r
    | none => b.text
  | .prose => b.text

/-- The sections finished, the last first, the one at hand, and whether a link came last. -/
structure Layout where
  finished : List Section := []
  current : Section := {}
  afterLink : Bool := false

/-- A link after a link joins its group, any other text begins one. -/
def Section.addText (s : Section) (joins : Bool) (text : String) : Section :=
  match joins, s.groups.getLast? with
  | true, some last => { s with groups := s.groups.dropLast ++ [last ++ [text]] }
  | _, _ => { s with groups := s.groups ++ [[text]] }

def Layout.close (l : Layout) : List Section :=
  if l.current.isVoid then l.finished else l.current :: l.finished

/-- A block with a heading opens a section. -/
def Layout.openSection (l : Layout) (heading : Option String) : Layout :=
  match heading with
  | none => l
  | some h => if h.isEmpty then l else ⟨l.close, { heading := some h }, false⟩

def Layout.add (path : String) (diagrams : List Diagram) (l : Layout) (b : Block) : Layout :=
  let l := l.openSection b.heading
  let text := blockText path diagrams b
  if text.isEmpty then l
  else
    let isLink := b.kind = .reference
    { l with current := l.current.addText (isLink && l.afterLink) text, afterLink := isLink }

def sections (p : Page) (diagrams : List Diagram) : List Section :=
  (p.blocks.foldl (Layout.add p.path diagrams) {}).close.reverse

def Section.text (s : Section) : String :=
  (match s.heading with
    | some h => "\n## " ++ h ++ "\n"
    | none => "") ++ "\n" ++ s.body ++ "\n"

/-- The least number of headings that a table of contents is made for. -/
def minimumHeadings : Nat := 4

/-- The link to the hub; the hub itself has none. -/
def breadcrumb (path : String) : String :=
  if path == Outline.hubPath then ""
  else "\n---\n[Home](" ++ relativeLink path Outline.hubPath ++ ")\n"

def draft (p : Page) (ss : List Section) : String :=
  let withContents := decide (minimumHeadings ≤ ss.countP (·.heading.isSome))
  "# " ++ p.title ++ "\n" ++
    (if withContents then "\n" ++ String.ofList Contents.placeholder ++ "\n" else "") ++
    String.join (ss.map (·.text)) ++ breadcrumb p.path

def pageText (diagrams : List Diagram) (p : Page) : Except Contents.Fault String := do
  let filled ← Contents.build minimumHeadings (draft p (sections p diagrams)).toList
  return String.ofList (Lint.lintChars filled)

/-- The texts of all pages by path; of pages with one path the last text stays. -/
def pageTexts (diagrams : List Diagram) (tree : Page) : Except Contents.Fault (Keyed String) := do
  let texts ← tree.walk.mapM fun p => do return (p.path, ← pageText diagrams p)
  return Keyed.ofList texts

end DocAtlas.Markdown
