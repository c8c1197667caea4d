import DocAtlas.Path

/-!
File systems as values: directories with named entries, files with bytes, and symbolic links. Only so
many links are followed along a path. That a system may refuse names and paths for their length is
left out.
-/
namespace DocAtlas

inductive Disk.Node where
  | file (bytes : ByteArray)
  | link (target : String)
  | directory (entries : List (String × Disk.Node))

/-- A file system, given by the entries of its root directory. -/
structure Disk where
  entries : List (String × Disk.Node) := []

namespace Disk

/-- A real path: the names on the way from the root, none of which is a link. -/
abbrev Place := List String

def Place.text (p : Place) : String := "/" ++ Path.joinSegments p

def Node.child? (n : Node) (name : String) : Option Node :=
  match n with
  | .directory entries => (entries.find? (·.1 == name)).map (·.2)
  | _ => none

def node? (d : Disk) (p : Place) : Option Node :=
  p.foldl (fun n name => n.bind (·.child? name)) (some (.directory d.entries))

/-- How many links may be followed on the way along a path. -/
def maxLinks : Nat := 40

/-- How far names lead before a link is followed. -/
inductive Advance where
  | arrived (reversed : List String)
  /-- A link in the directory with the reversed names, and the names behind it. -/
  | link (target : String) (reversed rest : List String)
  | lost

/-- Goes along pending names below the reversed names `done` as far as there is no link. All names
but the last must lead to directories. -/
def advance (d : Disk) : List String → List String → Advance
  | done, [] => .arrived done
  | done, name :: rest =>
    if name == "" || name == "." then advance d done rest
    else if name == ".." then advance d done.tail rest
    else
      match d.node? (name :: done).reverse with
      | some (.link target) => .link target done rest
      | some (.directory _) => advance d (name :: done) rest
      | _ => if rest.isEmpty then .arrived (name :: done) else .lost

/-- Where the names of a link in a directory begin. -/
def linkStart (target : String) (done : List String) : List String :=
  if startsWith target "/" then [] else done

/-- The place that pending names below the reversed names `done` lead to, and how many of the links
that may be followed are left. -/
def follow (d : Disk) (left : Nat) (done pending : List String) : Option (Nat × Place) :=
  match d.advance done pending, left with
  | .arrived reversed, left => some (left, reversed.reverse)
  | .link target above rest, left + 1 =>
    follow d left (linkStart target above) (Path.segments target ++ rest)
  | _, _ => none

/-- What an absolute path leads to, if every name in it but the last leads to a directory. -/
def reach? (d : Disk) (path : String) : Option Node :=
  (d.follow maxLinks [] (Path.segments path)).bind fun reached => d.node? reached.2

mutual

/-- The number of links of a tree. -/
def Node.links : Node → Nat
  | .file _ => 0
  | .link _ => 1
  | .directory entries => linksOf entries

def linksOf : List (String × Node) → Nat
  | [] => 0
  | (_, n) :: rest => n.links + linksOf rest

end

/-- The reversed names that pending ones lead to, with every link replaced by what `through` gives
for it. A name may lead nowhere. -/
def realNames (d : Disk) (through : List String → List String → Option (List String)) :
    List String → List String → Option (List String)
  | done, [] => some done
  | done, name :: rest =>
    if name == "" || name == "." then realNames d through done rest
    else if name == ".." then realNames d through done.tail rest
    else
      match d.node? (name :: done).reverse with
      | some (.link target) => do
        realNames d through (← through (linkStart target done) (Path.segments target)) rest
      | _ => realNames d through (name :: done) rest

/-- As `realNames`, where links may lead through other links `depth` deep. -/
def realNamesWithin (d : Disk) : Nat → List String → List String → Option (List String)
  | 0 => d.realNames fun _ _ => none
  | depth + 1 => d.realNames (d.realNamesWithin depth)

/-- The real path of an absolute path, through however many links; `none` if they lead in a circle,
as they do if they lead through more of each other than there are. -/
def resolve? (d : Disk) (path : String) : Option Place :=
  (d.realNamesWithin (maxLinks + linksOf d.entries) [] (Path.segments path)).map List.reverse

/-- As `resolve?`, with the normal form of the path where links lead in a circle. -/
def resolve (d : Disk) (path : String) : Place :=
  (d.resolve? path).getD (Path.normalSegments path)

def isDirectory (d : Disk) (path : String) : Bool :=
  match d.reach? path with
  | some (.directory _) => true
  | _ => false

def exists? (d : Disk) (path : String) : Bool := (d.reach? path).isSome

def read? (d : Disk) (path : String) : Option ByteArray :=
  match d.reach? path with
  | some (.file bytes) => some bytes
  | _ => none

def putEntry (name : String) (n : Node) : List (String × Node) → List (String × Node)
  | [] => [(name, n)]
  | entry :: rest => if entry.1 == name then (name, n) :: rest else entry :: putEntry name n rest

/-- Puts a node at a real path; directories on the way are made, and nothing is put below a file. -/
def Node.put (new : Node) : Place → Node → Node
  | [], _ => new
  | name :: rest, .directory entries =>
    let below := ((entries.find? (·.1 == name)).map (·.2)).getD (.directory [])
    .directory (putEntry name (new.put rest below) entries)
  | _ :: _, n => n

def put (d : Disk) (p : Place) (n : Node) : Disk :=
  match n.put p (.directory d.entries) with
  | .directory entries => ⟨entries⟩
  | _ => d

def Node.erase : Place → Node → Node
  | [], n => n
  | [name], .directory entries => .directory (entries.filter (·.1 != name))
  | name :: rest, .directory entries =>
    .directory (entries.map fun entry =>
      if entry.1 == name then (entry.1, Node.erase rest entry.2) else entry)
  | _ :: _, n => n

def erase (d : Disk) (p : Place) : Disk :=
  match Node.erase p (.directory d.entries) with
  | .directory entries => ⟨entries⟩
  | _ => d

mutual

/-- The number of directories of a tree. -/
def Node.directories : Node → Nat
  | .file _ => 0
  | .link _ => 0
  | .directory entries => 1 + directoriesOf entries

def directoriesOf : List (String × Node) → Nat
  | [] => 0
  | (_, n) :: rest => n.directories + directoriesOf rest

end

mutual

/-- The files below a directory with their paths; links are read as what they lead to and not
entered. -/
def Node.files (path : String) : Node → List (String × Node)
  | .directory entries => filesOf path entries
  | n => [(path, n)]

def filesOf (path : String) : List (String × Node) → List (String × Node)
  | [] => []
  | (name, n) :: rest => n.files (Path.join path name) ++ filesOf path rest

end

end Disk

end DocAtlas
