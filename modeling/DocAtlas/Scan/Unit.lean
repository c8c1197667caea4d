import DocAtlas.Keyed
import DocAtlas.Path
import DocAtlas.Text.Case

/-!
Source units: the files that a scan delivers.
-/
namespace DocAtlas

/-- A scanned file; `path` is relative to the root of the scan. -/
structure SourceUnit where
  path : String
  ecosystem : Option String
  size : Nat := 0
  digest : String := ""
deriving DecidableEq

def ecosystemOfSuffix : Keyed String :=
  [(".py", "python"), (".pyi", "python"), (".js", "javascript"), (".jsx", "javascript"),
    (".mjs", "javascript"), (".cjs", "javascript"), (".ts", "typescript"), (".tsx", "typescript"),
    (".java", "java"), (".kt", "kotlin"), (".kts", "kotlin"), (".go", "go"), (".rs", "rust"),
    (".rb", "ruby"), (".php", "php"), (".cs", "csharp"), (".c", "c"), (".h", "c"), (".cpp", "cpp"),
    (".hpp", "cpp"), (".cc", "cpp"), (".hh", "cpp"), (".swift", "swift"), (".scala", "scala"),
    (".sh", "shell")]

def ecosystemOf (path : String) : Option String :=
  ecosystemOfSuffix.get? (lowerText (Path.suffix path))

end DocAtlas
