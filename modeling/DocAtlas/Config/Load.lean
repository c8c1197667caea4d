import DocAtlas.Config.Reading
import DocAtlas.Text.Lines
import DocAtlas.Yaml.Load

/-!
The configuration of a repository on a disk.
-/
namespace DocAtlas.Config

/-- Where the settings for a path are sought: within a directory, or else beside what the path
names. -/
def soughtPath (d : Disk) (path : String) : String :=
  if d.isDirectory path then Path.join path fileName
  else if Path.base path == fileName then path
  else Path.join (Path.directory path) fileName

/-- The value of a text of settings; a text without content has no entries. -/
def valueOfText (room : Nat) (s : String) : Except Fault Yaml.Value :=
  if s.toList.all Text.isBlank then .ok (.mapping [])
  else
    match Yaml.load room s with
    | .ok .null => .ok (.mapping [])
    | .ok v => .ok v
    | .error .malformed => complain .malformed
    | .error (.scalar fault) => .error (.scalar fault)
    | .error .tooDeep => .error .tooDeep

def ofText (room : Nat) (root : Disk.Place) (s : String) : Except Fault Config := do
  ofValue room root (← valueOfText room s)

/-- The configuration by the settings for a path, the usual one if there are none. Calls may be
nested `room` deep. -/
def load (d : Disk) (room : Nat) (path : String) : Except Fault Config :=
  let sought := soughtPath d path
  match d.resolve? sought with
  | none => .error (.linkCircle (d.resolve (Path.directory sought) ++ [fileName]))
  | some place =>
    let root := place.dropLast
    match d.node? place with
    | some (.file bytes) =>
      match Text.Utf8.decode bytes with
      | .ok s => ofText room root (String.ofList (Text.unifyBreaks s.toList))
      | .error fault => .error (.notText fault)
    | some (.directory _) => .error (.isDirectory place)
    | _ => .ok { root := root }

end DocAtlas.Config
