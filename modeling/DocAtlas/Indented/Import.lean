import DocAtlas.Keyed
import DocAtlas.Naming
import DocAtlas.Indented.Library
import DocAtlas.Indented.Walk

/-!
The names that imports bind, and the dotted names of the project that they stand for.
-/
namespace DocAtlas.Indented

/-- The parts of a dotted name; the empty name has none. -/
def dottedParts (name : String) : List String := if name == "" then [] else splitText '.' name

/-- The parts of the dotted name of the package that a file belongs to; relative imports start from
it. -/
def packageOf (path : String) : List String :=
  let home := dottedParts (modulePath path)
  if endsWith path "__init__.py" then home else home.dropLast

/-- The parts of the dotted name that a relative import starts from; none if it leaves the project.
-/
def startOf? (package : List String) (level : Nat) : Option (List String) :=
  if level - 1 ≤ package.length then some (package.take (package.length - (level - 1))) else none

def dottedName (parts : List String) : String := String.intercalate "." parts

/-- The dotted name of the module `source` named in an import; none if it leaves the project or
comes with the language. -/
def sourceName? (package : List String) (level : Nat) (source : String) : Option String :=
  if level = 0 then
    if source != "" && isLibraryName source then none else some source
  else
    (startOf? package level).map fun start =>
      dottedName (if source == "" then start else start ++ [source])

def below (base name : String) : String := if base == "" then name else base ++ "." ++ name

/-- A module is bound to its new name, or else its first part to itself. -/
def bindModule (bound : Keyed String) (a : Alias) : Keyed String :=
  if isLibraryName a.name then bound
  else
    match a.bound with
    | some name => bound.put name a.name
    | none =>
      let root := (splitText '.' a.name).headD ""
      bound.putNew root root

def bindName (base : String) (bound : Keyed String) (a : Alias) : Keyed String :=
  if a.name == "*" then bound else bound.put (a.bound.getD a.name) (below base a.name)

def bindStatement (package : List String) (bound : Keyed String) : Statement → Keyed String
  | .importModules names => names.foldl bindModule bound
  | .importNames level source names =>
    match sourceName? package level source with
    | some base => names.foldl (bindName base) bound
    | none => bound
  | _ => bound

def bindNode (package : List String) (bound : Keyed String) : Node → Keyed String
  | .statement s => bindStatement package bound s
  | _ => bound

/-- The names bound by all imports of a source, of which those nested less deep come first; of two
imports of a name the later one counts. -/
def importedNames (path : String) (body : List Statement) : Keyed String :=
  (Node.walkBelow (Node.statements body)).foldl (bindNode (packageOf path)) []

end DocAtlas.Indented
