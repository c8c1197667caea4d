import DocAtlas.Text.Blank

/-!
Paths whose segments are separated by slashes.
-/
namespace DocAtlas.Path

def segments (path : String) : List String := splitText '/' path

def joinSegments (parts : List String) : String := String.intercalate "/" parts

/-- The last segment. -/
def base (path : String) : String := String.ofList (Text.afterLast '/' path.toList)

/-- What stands before the last slash, without slashes at its end unless it has nothing else. -/
def directory (path : String) : String :=
  match Text.beforeLast? '/' path.toList with
  | none => ""
  | some head =>
    let head := head ++ ['/']
    if head.all (· == '/') then String.ofList head
    else String.ofList (head.reverse.dropWhile (· == '/')).reverse

def join (dir path : String) : String :=
  if startsWith path "/" then path
  else if dir.isEmpty || endsWith dir "/" then dir ++ path
  else dir ++ "/" ++ path

/-- One more segment: `.` and the empty one change nothing, `..` takes the last one back if it can.
-/
def push (rooted : Bool) (reversed : List String) (part : String) : List String :=
  if part == "" || part == "." then reversed
  else if part == ".." then
    match reversed with
    | [] => if rooted then [] else [".."]
    | last :: rest => if last == ".." then ".." :: reversed else rest
  else part :: reversed

def normalSegments (path : String) : List String :=
  ((segments path).foldl (push (startsWith path "/")) []).reverse

/-- The leading slashes that count: one, or exactly two. -/
def rootSlashes (path : String) : String :=
  match path.toList.takeWhile (· == '/') |>.length with
  | 0 => ""
  | 2 => "//"
  | _ => "/"

def normal (path : String) : String :=
  let text := rootSlashes path ++ joinSegments (normalSegments path)
  if text.isEmpty then "." else text

/-- The path without its empty segments and those that stand for where they are. -/
def plain (path : String) : String :=
  let text := rootSlashes path ++
    joinSegments ((segments path).filter fun s => s != "" && s != ".")
  if text.isEmpty then "." else text

/-- The path as seen from a directory. -/
def absolute (dir path : String) : String :=
  if startsWith path "/" then path else dir ++ "/" ++ path

def dropCommon : List String → List String → List String × List String
  | a :: as, b :: bs => if a == b then dropCommon as bs else (a :: as, b :: bs)
  | as, bs => (as, bs)

/-- The way from the directory `start` to `path`. -/
def relative (path start : String) : String :=
  let (down, up) := dropCommon (normalSegments path) (normalSegments start)
  let parts := up.map (fun _ => "..") ++ down
  if parts.isEmpty then "." else joinSegments parts

/-- The name of the last segment and its suffix from the last dot on; dots at its beginning belong
to the name. -/
def splitSuffix (path : String) : String × String :=
  let name := (base path).toList
  let dots := name.takeWhile (· == '.')
  match Text.beforeLast? '.' (name.drop dots.length) with
  | none => (path, "")
  | some stem =>
    let suffix := name.drop (dots.length + stem.length)
    (String.ofList (path.toList.take (path.length - suffix.length)), String.ofList suffix)

def suffix (path : String) : String := (splitSuffix path).2

/-- The path without the suffix of its last segment: all from its last dot on. -/
def stem (path : String) : String :=
  if (base path).toList.contains '.' then
    String.ofList ((Text.beforeLast? '.' path.toList).getD path.toList)
  else path

end DocAtlas.Path
