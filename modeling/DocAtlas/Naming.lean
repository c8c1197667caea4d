import DocAtlas.Component
import DocAtlas.Path
import DocAtlas.Text.Slug

/-!
Names of components: their ids, the dotted names of their modules, and their short descriptions.
-/
namespace DocAtlas

/-- The id of the component `name` of the file `path`: the slug of the path, and that of the name
unless the path ends with it. -/
def componentId (path name : String) : String :=
  let file := slug (String.ofList (Text.replaceChar '/' '-' (Path.stem path).toList))
  let own := slug name
  if own.isEmpty || file == own || endsWith file ("-" ++ own) then
    if file.isEmpty then own else file
  else if file.isEmpty then own
  else file ++ "-" ++ own

/-- Files that stand for the directory that holds them. -/
def isDirectoryFile (name : String) : Bool := name == "__init__" || name == "index"

/-- The segments of a path that name a module. -/
def moduleSegments (path : String) : List String :=
  let parts := (Path.segments (Path.stem path)).filter fun part => part != "" && part != "."
  if parts.getLast?.any isDirectoryFile then parts.dropLast else parts

def modulePath (path : String) : String := String.intercalate "." (moduleSegments path)

/-- The dotted names by which a component can be referred to. -/
def Component.qualifiedNames (c : Component) : List String :=
  let dotted := if c.path.isEmpty then "" else modulePath c.path
  if dotted.isEmpty then [c.name]
  else
    (dotted ++ "." ++ c.name) ::
      (if (splitText '.' dotted).getLast? == some c.name then [dotted] else [])

/-- The longest short description, in characters. -/
def purposeLimit : Int := 240

/-- The first `n` characters; a negative `n` counts from the end. -/
def takeSigned (n : Int) (s : List Char) : List Char :=
  if 0 ≤ n then s.take n.toNat else s.take (s.length - (-n).toNat)

/-- The words of a text on one line, cut with an ellipsis if they take more than `limit` characters.
-/
def boundWords (limit : Int) (s : List Char) : List Char :=
  let whole := Text.collapse s
  if (whole.length : Int) ≤ limit then whole
  else Text.trimEnd (takeSigned (limit - 3) whole) ++ ['.', '.', '.']

def boundPurpose (s : String) : String := String.ofList (boundWords purposeLimit s.toList)

end DocAtlas
