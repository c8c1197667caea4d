import DocAtlas.Braced.Import

/-!
What the names in a piece of code refer to, and the configuration that it reads.
-/
namespace DocAtlas.Braced

/-- What names can stand for: those bound by imports, and the classes beside them in the module
`home`. -/
structure Scope where
  imports : Keyed String
  home : String
  siblings : List String

/-- The dotted name that an expression refers to, if its first name is known. -/
def Scope.qualify? (scope : Scope) (expression : String) : Option String :=
  let root := (splitText '.' expression).headD ""
  match scope.imports.get? root with
  | some target =>
    let rest := String.ofList (expression.toList.drop (root.length + 1))
    some (if rest == "" then target else target ++ "." ++ rest)
  | none =>
    if scope.siblings.contains root then
      some (if scope.home == "" then expression else scope.home ++ "." ++ expression)
    else none

/-- Whether a node stands for the value or type of a name. -/
def Tree.isReference (t : Tree) : Bool :=
  t.kind = .identifier || t.kind = .typeIdentifier || t.kind = .shorthand

variable (source : Array Char)

/-- The targets that nodes refer to, each once, in the order of the source. -/
def references (scope : Scope) (nodes : List Tree) : List String :=
  let names := ((nodes.flatMap Tree.walk).filter Tree.isReference).map (Tree.text source)
  ((names.filterMap scope.qualify?).filter (· != "")).eraseDups

/-! ### Configuration keys -/

/-- The objects that hold the environment. -/
def environments : List String := ["process.env", "import.meta.env"]

def Tree.readsEnvironment (t : Tree) : Bool :=
  (t.child? .object).any fun o => environments.contains (o.text source)

/-- The key of the environment that a node reads. -/
def Tree.environmentKey? (t : Tree) : Option String :=
  if t.readsEnvironment source then
    match t.kind with
    | .member => (t.child? .property).map (Tree.text source)
    | .subscript => (t.child? .index).bind (Tree.quoted? source)
    | _ => none
  else none

/-- The keys of the environment that nodes read. -/
def environment (nodes : List Tree) : Keyed String :=
  (((nodes.flatMap Tree.walk).filterMap (Tree.environmentKey? source)).filter (· != "")).foldl
    (fun known key => known.putNew key "read from the environment") []

end DocAtlas.Braced
