import DocAtlas.Naming
import DocAtlas.Path
import DocAtlas.Braced.Tree

/-!
The names that imports bind, and the dotted names of the project that they stand for.
-/
namespace DocAtlas.Braced

def sourceSuffixes : List (List Char) :=
  [".js", ".cjs", ".mjs", ".jsx", ".ts", ".cts", ".mts", ".tsx"].map String.toList

/-- A file name without a suffix of sources, which may stand before a final line feed. -/
def dropSourceSuffix (path : String) : String :=
  let s := path.toList
  let (body, tail) := if s.getLast? == some '\n' then (s.dropLast, ['\n']) else (s, [])
  match sourceSuffixes.find? (·.isSuffixOf body) with
  | some suffix => String.ofList (body.take (body.length - suffix.length) ++ tail)
  | none => path

/-- The dotted name of the module that a source in `directory` imports as `specifier`; none if it
does not belong to the project. -/
def moduleOf? (directory specifier : String) : Option String :=
  if startsWith specifier "." then
    some (modulePath (dropSourceSuffix (Path.normal (Path.join directory specifier))))
  else none

variable (source : Array Char)

/-- What stands between the quotes of a string. -/
def Tree.quoted? (t : Tree) : Option String :=
  if t.kind = .string then some (String.ofList (t.text source).toList.tail.dropLast) else none

/-- What a call of `require` names. -/
def Tree.required? (t : Tree) : Option String :=
  if t.kind = .call && (t.child? .function).any (fun f => f.text source == "require") then
    match (t.child? .arguments).map Tree.parts with
    | some [one] => one.quoted? source
    | _ => none
  else none

/-- Whether an import is one of types only. -/
def Tree.ofTypes (t : Tree) : Bool := t.children.any (·.kind = .typeMark)

def bindSpecifier (base : String) (bound : Keyed String) (t : Tree) : Keyed String :=
  if t.kind = .importSpecifier && !t.ofTypes then
    let imported := ((t.child? .name).map (Tree.text source)).getD ""
    let name := ((t.child? .localName).map (Tree.text source)).getD imported
    bound.put name (base ++ "." ++ imported)
  else bound

/-- Binds the names of one part of an import: the default, the module itself, or names from it. -/
def bindPart (base : String) (bound : Keyed String) (t : Tree) : Keyed String :=
  match t.kind with
  | .identifier => bound.put (t.text source) (base ++ "." ++ t.text source)
  | .namespaceImport =>
    match (t.parts.filter (·.kind = .identifier)).getLast? with
    | some n => bound.put (n.text source) base
    | none => bound
  | .namedImports => t.parts.foldl (bindSpecifier source base) bound
  | _ => bound

/-- Binds the names in a pattern that a module is matched with. -/
def bindField (base : String) (bound : Keyed String) (t : Tree) : Keyed String :=
  match t.kind with
  | .shorthandPattern => bound.put (t.text source) (base ++ "." ++ t.text source)
  | .pairPattern =>
    match t.child? .value with
    | some value =>
      if value.kind = .identifier then
        let key := ((t.child? .key).map (Tree.text source)).getD ""
        bound.put (value.text source) (base ++ "." ++ key)
      else bound
    | none => bound
  | _ => bound

def bindPattern (base : String) (bound : Keyed String) (t : Tree) : Keyed String :=
  match t.kind with
  | .identifier => bound.put (t.text source) base
  | .objectPattern => t.parts.foldl (bindField source base) bound
  | _ => bound

/-- Binds the names of an import, or of a variable for a module that is required. -/
def bindNode (directory : String) (bound : Keyed String) (t : Tree) : Keyed String :=
  match t.kind with
  | .importStatement =>
    let base := ((t.child? .source).bind (Tree.quoted? source)).bind (moduleOf? directory)
    match if t.ofTypes then none else base with
    | some base =>
      ((t.parts.filter (·.kind = .importClause)).flatMap Tree.parts).foldl
        (bindPart source base) bound
    | none => bound
  | .variableDeclarator =>
    match ((t.child? .value).bind (Tree.required? source)).bind (moduleOf? directory) with
    | some base => ((t.child? .name).map (bindPattern source base bound)).getD bound
    | none => bound
  | _ => bound

/-- The names bound anywhere in the source of the file `path`; of two that are equal the later one
counts. -/
def importedNames (path : String) (statements : List Tree) : Keyed String :=
  (statements.flatMap Tree.walk).foldl (bindNode source (Path.directory path)) []

end DocAtlas.Braced
