import DocAtlas.Cli.Execute

/-!
The program. It carries out its command line over the files that are named on standard input, one
path a line.
-/
namespace DocAtlas

/-- The disk that holds the given files and the working directory. -/
def readDisk (cwd : String) (paths : Array String) : IO Disk :=
  paths.foldlM (fun d (path : String) => do
    let bytes ← IO.FS.readBinFile path
    return d.put (Path.normalSegments (Path.absolute cwd path)) (.file bytes))
    (({} : Disk).put (Path.normalSegments cwd) (.directory []))

def writeFile (d : Disk) (cwd path : String) : IO Unit := do
  match d.read? (Path.absolute cwd path) with
  | some bytes =>
    IO.FS.createDirAll (Path.directory path)
    IO.FS.writeBinFile path bytes
  | none => pure ()

def Cli.Ending.exitCode : Cli.Ending → UInt32
  | .exit code => code.toUInt32
  | .failed _ => 1

def Cli.Ending.lastWords : Cli.Ending → String
  | .exit _ => ""
  | .failed f => f.message ++ "\n"

/-- Carries out a command line: writes the pages and shows what is to be shown. -/
def program (arguments : List String) : IO UInt32 := do
  let cwd := (← IO.getEnv "PWD").getD "/"
  let d ← readDisk cwd (← (← IO.getStdin).lines)
  let o := Cli.execute d cwd .still arguments
  for path in o.written do
    writeFile o.disk cwd path
  IO.eprint (Cli.lines o.logLines ++ o.err ++ o.ending.lastWords)
  IO.print o.out
  return o.ending.exitCode

end DocAtlas

def main (arguments : List String) : IO UInt32 := DocAtlas.program arguments
