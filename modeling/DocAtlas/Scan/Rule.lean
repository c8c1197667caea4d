import DocAtlas.Path
import DocAtlas.Scan.Glob
import DocAtlas.Text.Lines

/-!
Scan rules: patterns that exclude paths from a scan or include them again. The last rule that
matches a path decides. An ignore file has one pattern a line, comments behind a hash and inclusions
behind an exclamation mark.
-/
namespace DocAtlas.Scan

inductive Effect where
  | include
  | exclude
deriving DecidableEq

def Effect.label : Effect → String
  | .include => "include"
  | .exclude => "exclude"

def Effect.ofLabel? (s : String) : Option Effect :=
  if s == "include" then some .include else if s == "exclude" then some .exclude else none

def unknownEffectMessage (pattern effect : String) : String :=
  "Unknown rule effect '" ++ effect ++ "' for pattern '" ++ pattern ++ "'"

structure Rule where
  pattern : String
  effect : Effect := .exclude
deriving DecidableEq

structure CompiledRule where
  pattern : List Char
  effect : Effect
  directoryOnly : Bool
  /-- An anchored rule matches leading parts of a path, any other one single segments. -/
  anchored : Bool
  items : List Glob.Item
  /-- The pattern up to its first wildcard. -/
  literal : List Char

def isWildcard (c : Char) : Bool := c == '*' || c == '?' || c == '['

/-- A fault in a pattern, with the expansion in which it was found. -/
structure PatternFault where
  expansion : List Char
  fault : Glob.Fault

def PatternFault.message (f : PatternFault) : String := f.fault.message f.expansion

def dropEndSlashes (s : List Char) : List Char := (s.reverse.dropWhile (· == '/')).reverse

def Rule.compile (r : Rule) : Except PatternFault CompiledRule :=
  let trimmed := Text.replaceChar '\\' '/' (Text.trim r.pattern.toList)
  let directoryOnly := trimmed.getLast? == some '/'
  let bare := if directoryOnly then dropEndSlashes trimmed else trimmed
  let rooted := bare.head? == some '/'
  let body := bare.dropWhile (· == '/')
  match Glob.compile body with
  | .error fault => .error ⟨Glob.expand body, fault⟩
  | .ok items => .ok {
      pattern := body
      effect := r.effect
      directoryOnly := directoryOnly
      anchored := rooted || body.contains '/'
      items := items
      literal := body.takeWhile (!isWildcard ·) }

namespace CompiledRule

/-- The texts that a rule is tried on: the leading parts of a path, or its segments. -/
def candidates (r : CompiledRule) (segments : List (List Char)) : List (List Char) :=
  if r.anchored then
    (List.range segments.length).map fun n => Text.join ['/'] (segments.take (n + 1))
  else segments

/-- Whether the rule matches a candidate; only a directory may match with a slash after it. -/
def accepts (r : CompiledRule) (candidate : List Char) (isDirectory : Bool) : Bool :=
  (isDirectory || !r.directoryOnly) &&
    (Glob.accepts r.items candidate ||
      (r.anchored && isDirectory && Glob.accepts r.items (candidate ++ ['/'])))

/-- Tries the candidates in turn; all but the last stand for directories. -/
def acceptsAny (r : CompiledRule) (isDirectory : Bool) : List (List Char) → Bool
  | [] => false
  | [last] => r.accepts last isDirectory
  | candidate :: rest => r.accepts candidate true || acceptsAny r isDirectory rest

def isMatch (r : CompiledRule) (path : String) (isDirectory : Bool) : Bool :=
  r.acceptsAny isDirectory (r.candidates (Text.splitAt '/' path.toList))

/-- Whether the rule may match a path beneath a directory that it does not match itself. -/
def mayApplyBeneath (r : CompiledRule) (directory : String) : Bool :=
  let start := directory.toList ++ ['/']
  r.anchored && (start.isPrefixOf r.literal || r.literal.isPrefixOf start)

end CompiledRule

/-- Compiled rules in the order in which they were given. -/
abbrev RuleSet := List CompiledRule

/-- Rules with a blank pattern are left out. -/
def RuleSet.ofRules (rules : List Rule) : Except PatternFault RuleSet :=
  (rules.filter fun r => !(Text.trim r.pattern.toList).isEmpty).mapM Rule.compile

namespace RuleSet

def excludes (rules : RuleSet) (path : String) (isDirectory : Bool) : Bool :=
  rules.foldl (fun verdict r =>
    if r.isMatch path isDirectory then r.effect = .exclude else verdict) false

/-- A directory is not entered if it is excluded and nothing beneath it can be included again. -/
def prunes (rules : RuleSet) (directory : String) : Bool :=
  rules.excludes directory true &&
    !(rules.any fun r => r.effect = .include && r.mayApplyBeneath directory)

end RuleSet

/-- Version control, dependencies, build output, tests and temporary files. -/
def defaultPatterns : List String :=
  [".git", ".hg", ".svn", "node_modules", ".venv", "venv", "vendor", "__pycache__", ".tox",
    ".mypy_cache", ".pytest_cache", ".ruff_cache", "build/", "dist/", "target/", "*.egg-info",
    "*.pyc", "tests", "test", "test_*.py", "*_test.py", "*_test.go", "conftest.py", "*.test.*",
    "*.spec.*", "*.tmp", "*.swp", "*.bak", "*~", ".DS_Store", "Thumbs.db"]

def defaultRules : List Rule := defaultPatterns.map fun p => { pattern := p }

end DocAtlas.Scan

namespace DocAtlas.Scan.Ignore

def readLine (line : List Char) : Option Rule :=
  match Text.trim line with
  | [] => none
  | '#' :: _ => none
  | '!' :: rest =>
    let pattern := Text.trim rest
    if pattern.isEmpty then none else some ⟨String.ofList pattern, .include⟩
  | pattern => some ⟨String.ofList pattern, .exclude⟩

def readRules (text : String) : List Rule := (Text.lines text.toList).filterMap readLine

end DocAtlas.Scan.Ignore
