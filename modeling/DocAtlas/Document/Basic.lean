import DocAtlas.Json.Basic

/-!
Documentation as a tree of pages, each a list of blocks, with references from block to page.
-/
namespace DocAtlas

inductive Page.Kind where
  | hub
  | chapter
  | component
  | tutorial
deriving DecidableEq

def Page.Kind.label : Page.Kind → String
  | .hub => "hub"
  | .chapter => "section"
  | .component => "component-page"
  | .tutorial => "tutorial-step"

inductive Block.Kind where
  | prose
  | code
  | diagram
  | reference
deriving DecidableEq

def Block.Kind.label : Block.Kind → String
  | .prose => "prose"
  | .code => "code"
  | .diagram => "diagram"
  | .reference => "cross-reference"

/-- A pointer to the page whose path is `target`. -/
structure Reference where
  target : String
  label : String
  relation : String := "navigation"
deriving DecidableEq

structure Block where
  kind : Block.Kind
  text : String := ""
  heading : Option String := none
  language : Option String := none
  diagram : Option String := none
  reference : Option Reference := none
deriving DecidableEq

namespace Block

def prose (text : String) (heading : Option String := none) : Block :=
  { kind := .prose, text := text, heading := heading }

def code (text : String) (language heading : Option String) : Block :=
  { kind := .code, text := text, language := language, heading := heading }

def ofDiagram (name heading : String) : Block :=
  { kind := .diagram, diagram := some name, heading := some heading }

def link (target label : String) (relation : String := "navigation") (text : String := "")
    (heading : Option String := none) : Block :=
  { kind := .reference, text := text, heading := heading
    reference := some ⟨target, label, relation⟩ }

/-- The reference of a block that is one. -/
def reference? (b : Block) : Option Reference := if b.kind = .reference then b.reference else none

def field (key : String) : Option String → List (String × Json)
  | none => []
  | some s => if s.isEmpty then [] else [(key, .text s)]

/-- Empty fields are left out. -/
def toJson (b : Block) : Json :=
  .object ([("kind", .text b.kind.label)] ++ field "text" (some b.text) ++
    field "heading" b.heading ++ field "language" b.language ++ field "diagram" b.diagram ++
    match b.reference with
    | none => []
    | some r => [("reference", .object [("target", .text r.target), ("label", .text r.label),
        ("relation", .text r.relation)])])

end Block

inductive Page where
  | mk (path title : String) (kind : Page.Kind) (blocks : List Block) (children : List Page)

instance : Inhabited Page := ⟨.mk "" "" .hub [] []⟩

namespace Page

def path : Page → String
  | mk path _ _ _ _ => path

def title : Page → String
  | mk _ title _ _ _ => title

def kind : Page → Kind
  | mk _ _ kind _ _ => kind

def blocks : Page → List Block
  | mk _ _ _ blocks _ => blocks

def children : Page → List Page
  | mk _ _ _ _ children => children

mutual

def size : Page → Nat
  | mk _ _ _ _ children => 1 + sizes children

def sizes : List Page → Nat
  | [] => 0
  | p :: rest => size p + sizes rest

end

theorem sizes_append (as bs : List Page) : sizes (as ++ bs) = sizes as + sizes bs := by
  induction as with
  | nil => simp [sizes]
  | cons a as ih => simp [sizes, ih, Nat.add_assoc]

/-- The pages on a stack with all below them: the first is taken off and its children are put on. -/
def unfold : List Page → List Page
  | [] => []
  | p :: rest => p :: unfold (p.children ++ rest)
termination_by stack => sizes stack
decreasing_by
  cases p
  simp [sizes, sizes_append, size, children]

/-- A page and all pages below it, each before its children. -/
def walk (p : Page) : List Page := unfold [p]

def find? (p : Page) (path : String) : Option Page := p.walk.find? (·.path == path)

def references (p : Page) : List Reference :=
  p.walk.flatMap fun q => q.blocks.filterMap (·.reference?)

/-- The first path, in the order of the walk, that an earlier page has. -/
def repeatedPath? : List String → List String → Option String
  | _, [] => none
  | seen, path :: rest =>
    if seen.contains path then some path else repeatedPath? (path :: seen) rest

/-- The pages by path; the error is a path that two pages share. -/
def index (p : Page) : Except String (List Page) :=
  match repeatedPath? [] (p.walk.map (·.path)) with
  | some path => .error path
  | none => .ok p.walk

def repeatedPathMessage (path : String) : String := "Duplicate document path: " ++ path

mutual

/-- Replaces the blocks of every page. -/
def mapBlocks (f : Page → List Block) : Page → Page
  | mk path title kind blocks children =>
    mk path title kind (f (mk path title kind blocks children)) (mapAllBlocks f children)

def mapAllBlocks (f : Page → List Block) : List Page → List Page
  | [] => []
  | p :: rest => mapBlocks f p :: mapAllBlocks f rest

end

mutual

/-- Adds a page below the first page with the given path, in the order of the walk. -/
def addBelow? (path : String) (child : Page) : Page → Option Page
  | mk own title kind blocks children =>
    if own == path then some (mk own title kind blocks (children ++ [child]))
    else (addBelowFirst? path child children).map (mk own title kind blocks)

def addBelowFirst? (path : String) (child : Page) : List Page → Option (List Page)
  | [] => none
  | p :: rest =>
    match addBelow? path child p with
    | some p => some (p :: rest)
    | none => (addBelowFirst? path child rest).map (p :: ·)

end

mutual

def toJson : Page → Json
  | mk path title kind blocks children =>
    .object [("path", .text path), ("title", .text title), ("kind", .text kind.label),
      ("blocks", .list (blocks.map (·.toJson))), ("children", .list (allToJson children))]

def allToJson : List Page → List Json
  | [] => []
  | p :: rest => toJson p :: allToJson rest

end

end Page

end DocAtlas
