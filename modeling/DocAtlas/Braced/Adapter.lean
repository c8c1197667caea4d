import DocAtlas.Extract.Adapter
import DocAtlas.Text.Lines
import DocAtlas.Braced.Parser.Statement
import DocAtlas.Braced.Reference

/-!
The components of JavaScript and TypeScript sources: their classes, or else the module itself if it
exports functions.
-/
namespace DocAtlas.Braced
open Text

/-! ### Descriptions -/

/-- A line of a description without its margin. -/
def marginless (line : List Char) : List Char := trim ((trim line).dropWhile (· == '*'))

def isTag (line : List Char) : Bool :=
  match line with
  | '@' :: c :: _ => isWord c
  | _ => false

/-- The first paragraph of a description, which tags end as well. -/
def paragraph (ls : List (List Char)) : List (List Char) :=
  let ls := ls.takeWhile (!isTag ·)
  (ls.dropWhile List.isEmpty).takeWhile (!·.isEmpty)

/-- The short description that a comment gives, if it is one that documents. -/
def shortDescription (comment : String) : String :=
  if startsWith comment "/**" && endsWith comment "*/" then
    let inner := (comment.toList.drop 3).take (comment.length - 5)
    boundPurpose (String.ofList (join [' '] (paragraph ((lines inner).map marginless))))
  else ""

/-! ### Operations -/

variable (source : Array Char)

def collapsed (t : Tree) : String := String.ofList (collapse (t.text source).toList)

/-- What a signature says of the result. -/
def returned (t : Tree) : String :=
  match t.child? .returnType with
  | some r =>
    let text := String.ofList (collapse ((r.text source).toList.dropWhile (· == ':')))
    if text == "" then unspecified else text
  | none => unspecified

def operation (name : String) (t : Tree) : Operation where
  name := name
  parameters := (((t.child? .parameters).map Tree.parts).getD []).map (collapsed source)
  returns := returned source t

def Tree.nameText (t : Tree) : String := ((t.child? .name).map (Tree.text source)).getD ""

/-- Whether a method is meant for its class alone. -/
def isHidden (t : Tree) : Bool :=
  let name := t.nameText source
  name == "" || name == "constructor" || startsWith name "_" || startsWith name "#" ||
    t.children.any fun c =>
      c.kind = .accessibility && (c.text source == "private" || c.text source == "protected")

def operations (body : Tree) : List Operation :=
  (body.parts.filter fun m => m.kind = .method && !isHidden source m).map fun m =>
    operation source (m.nameText source) m

/-! ### Declarations -/

/-- A declaration and the statement that it is or is exported by, with what stands before that. -/
structure Declaration where
  before : Option Tree
  tree : Tree
  isExported : Bool

def declarationOf? (before : Option Tree) (t : Tree) : Option Declaration :=
  if t.kind = .comment then none
  else if t.kind = .exportStatement then (t.child? .declaration).map (⟨before, ·, true⟩)
  else some ⟨before, t, false⟩

def declarations (statements : List Tree) : List Declaration :=
  ((none :: statements.map some).zip statements).filterMap fun (before, t) =>
    declarationOf? before t

namespace Declaration

def isNamed (d : Declaration) : Bool := (d.tree.child? .name).isSome

def isClass (d : Declaration) : Bool :=
  (d.tree.kind = .classDeclaration || d.tree.kind = .abstractClass) && d.isNamed

/-- Whether it is a function that other modules can call. -/
def isOpenFunction (d : Declaration) : Bool :=
  d.isExported && (d.tree.kind = .functionDeclaration || d.tree.kind = .generatorDeclaration) &&
    d.isNamed

/-- What the comment before a declaration says of it. -/
def description (d : Declaration) : String :=
  match d.before with
  | some t => if t.kind = .comment then shortDescription (t.text source) else ""
  | none => ""

/-- The text of the class that a class extends. -/
def base? (d : Declaration) : Option String :=
  match (d.tree.parts.find? (·.kind = .heritage)).map Tree.parts with
  | some (clause :: _) =>
    let t := match clause.kind with
      | .extendsClause => clause.child? .value
      | .implementsClause => none
      | _ => some clause
    (t.map (Tree.text source)).filter (· != "")
  | _ => none

/-- A class as a component, and what it mentions: its base, then what its body refers to. -/
def yield (unit : SourceUnit) (scope : Scope) (d : Declaration) : Yield :=
  let name := d.tree.nameText source
  let scope := { scope with siblings := scope.siblings.filter (· != name) }
  let body := (d.tree.child? .body).toList
  let base := d.base? source
  let id := componentId unit.path name
  let component : Component := {
    id := id
    name := name
    role := Role.infer name unit.path base.toList
    purpose := d.description source
    operations := body.flatMap (operations source)
    settings := environment source body
    path := unit.path
    ecosystem := unit.ecosystem }
  let parents := (base.bind scope.qualify?).toList.filter (· != "")
  ⟨[component], parents.map (⟨id, ·, .inherits⟩) ++ mentionsOf id (references source scope body)⟩

end Declaration

/-! ### Sources -/

/-- What the comment that a source begins with says of it. -/
def sourceDescription (statements : List Tree) : String :=
  match statements.find? (·.kind ≠ .hashBang) with
  | some t => if t.kind = .comment then shortDescription (t.text source) else ""
  | none => ""

/-- A source without classes as a component, if it exports functions. -/
def sourceYield (unit : SourceUnit) (scope : Scope) (statements : List Tree) : Yield :=
  let functions := ((declarations statements).filter (·.isOpenFunction)).map (·.tree)
  if functions.isEmpty then {}
  else
    let name := sourceName unit.path
    let id := componentId unit.path name
    let component : Component := {
      id := id
      name := name
      role := Role.infer name unit.path []
      purpose := sourceDescription source statements
      operations := functions.map fun f => operation source (f.nameText source) f
      settings := environment source functions
      path := unit.path
      ecosystem := unit.ecosystem }
    ⟨[component], mentionsOf id (references source scope functions)⟩

def yieldOf (unit : SourceUnit) (statements : List Tree) : Yield :=
  let classes := (declarations statements).filter (·.isClass)
  let scope : Scope := {
    imports := importedNames source unit.path statements
    home := modulePath unit.path
    siblings := classes.map fun d => d.tree.nameText source }
  if classes.isEmpty then sourceYield source unit scope statements
  else
    let yields := classes.map (Declaration.yield source unit scope)
    ⟨yields.flatMap Yield.components, yields.flatMap Yield.mentions⟩

def typedSuffixes : List String := [".ts", ".mts", ".cts", ".tsx"]

/-- The suffix of a file tells which parts of the language it may use. -/
def sourceOf (path content : String) : Source :=
  let suffix := lowerText (Path.suffix path)
  ⟨content.toList.toArray, typedSuffixes.contains suffix,
    !typedSuffixes.contains suffix || suffix == ".tsx"⟩

def extract (unit : SourceUnit) (content : String) : Except Failure Yield :=
  if content.toList.contains (Char.ofNat 0) then
    .error (.error "AdapterError" (unit.path ++ " does not look like a text source"))
  else
    let source := sourceOf unit.path content
    match statements source with
    | .ok found => .ok (yieldOf source.chars unit found)
    | .error line =>
      .error (.error "AdapterError"
        ("Cannot parse " ++ unit.path ++ ": syntax error at line " ++ toString line))

end DocAtlas.Braced

namespace DocAtlas

def Adapter.javascript : Adapter := ⟨"javascript", ["javascript", "typescript"], Braced.extract⟩

end DocAtlas
