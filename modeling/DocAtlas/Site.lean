import DocAtlas.Disk
import DocAtlas.Keyed
import DocAtlas.Log
import DocAtlas.Text.Quoted

/-!
Pages as files below a directory. Directories that are missing are made.
-/
namespace DocAtlas.Site

/-- Why a page cannot be written: something stands at a path or on the way to it. -/
inductive Fault where
  | taken (path : String)
  | notDirectory (path : String)
  | isDirectory (path : String)

def Fault.message : Fault → String
  | .taken path => "[Errno 17] File exists: " ++ quoted path
  | .notDirectory path => "[Errno 20] Not a directory: " ++ quoted path
  | .isDirectory path => "[Errno 21] Is a directory: " ++ quoted path

/-- The file of a page below `out`. -/
def filePath (out page : String) : String := Path.plain (Path.join out (page ++ ".md"))

/-- The directories on the way to an absolute path, itself not among them. -/
def waysTo (path : String) : List String :=
  let parts := Path.normalSegments path
  (List.range parts.length).map fun n => Disk.Place.text (parts.take n)

/-- Whether a path names an entry, even a link that leads nowhere. -/
def isTaken (d : Disk) (path : String) : Bool :=
  (d.node? (d.resolve (Path.directory path) ++ [Path.base path])).isSome

/-- Why the directory `shown` cannot be made at an absolute path, if it is not there. -/
def directoryFault? (d : Disk) (path shown : String) : Option Fault :=
  let onTheWay := (waysTo path).findSome? fun way =>
    match d.reach? way with
    | some (.directory _) => none
    | some _ => some (.notDirectory shown)
    | none => if isTaken d way then some (.taken way) else none
  match onTheWay with
  | some fault => some fault
  | none =>
    if d.isDirectory path then none else if isTaken d path then some (.taken shown) else none

/-- Writes a page to the path `shown`, as seen from the directory `cwd`. -/
def writePage (d : Disk) (cwd shown text : String) : Except Fault Disk :=
  let path := Path.absolute cwd shown
  match directoryFault? d (Path.directory path) (Path.directory shown) with
  | some fault => .error fault
  | none =>
    if d.isDirectory path then .error (.isDirectory shown)
    else .ok (d.put (d.resolve path) (.file text.toUTF8))

/-- Writes files in turn until one cannot be written. -/
def writeAll (cwd : String) : Disk → List (String × String) → Disk × Option Fault
  | d, [] => (d, none)
  | d, (path, text) :: rest =>
    match writePage d cwd path text with
    | .ok d => writeAll cwd d rest
    | .error fault => (d, some fault)

/-- The paths of pages below `out`, with their texts. -/
def files (out : String) (pages : Keyed String) : List (String × String) :=
  pages.map fun p => (filePath out p.1, p.2)

/-- The record for pages that were written below `out`, or would be if this is only planned. -/
def record (planned : Bool) (count : Nat) (out : String) : Log.Record :=
  ⟨.info, "writer", (if planned then "Planned " else "Wrote ") ++ toString count ++
    " page(s) under " ++ Path.plain out⟩

end DocAtlas.Site
