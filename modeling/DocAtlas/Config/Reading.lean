import DocAtlas.Config.Setting
import DocAtlas.Extract.Builtin

/-!
The configuration that a value stands for. Its parts are read and checked one after the other, so
the first part that something is wrong with decides what is said.
-/
namespace DocAtlas.Config
open Yaml (Value)

/-! ### Scanning -/

/-- A pattern by itself excludes, one behind an exclamation mark includes; a blank one is no rule.
-/
def ruleOfText (s : String) : Option Scan.Rule :=
  match Text.trim s.toList with
  | [] => none
  | '!' :: rest => some ⟨String.ofList rest, .include⟩
  | pattern => some ⟨String.ofList pattern, .exclude⟩

/-- A rule given by its pattern and its effect. -/
def ruleOfMapping (v : Value) : Except Fault Scan.Rule := do
  let pattern ← textOr "" (v.entry "pattern")
  let effect := lowerText (← textOr Scan.Effect.exclude.label (v.entry "effect"))
  demand (!pattern.isEmpty) .ruleWithoutPattern
  match Scan.Effect.ofLabel? effect with
  | some e => return ⟨pattern, e⟩
  | none => complain (.unknownEffect pattern effect)

/-- A value of any other type is complained of and shown, where showing may go `room` values deep. -/
def ruleOf (room : Nat) (v : Value) : Except Fault (Option Scan.Rule) :=
  match v with
  | .text s => .ok (ruleOfText s)
  | .mapping entries => some <$> ruleOfMapping (.mapping entries)
  | v => do complain (.unsupportedRule (← (v.shown room).mapError .hidden))

def rulesOf (room : Nat) (v : Value) : Except Fault (List Scan.Rule) :=
  match v with
  | .null => .ok []
  | .list items => do return (← items.mapM (ruleOf room)).filterMap id
  | _ => complain .rulesNotList

def checkWorkers (key : String) (workers : Option Int) : Except Fault Unit :=
  demand (workers.all (1 ≤ ·)) (.tooFewWorkers key)

def readScan (room : Nat) (v : Value) : Except Fault Scan.Settings := do
  let usual : Scan.Settings := {}
  let rules ← rulesOf room (v.entry "rules")
  let timeout ← realOr usual.readTimeout.toFloat (v.entry "read_timeout")
  let settings : Scan.Settings := {
    rules := rules
    respectIgnore := (truth? (v.entry "respect_gitignore")).getD usual.respectIgnore
    maxBytes := wholeOr usual.maxBytes (v.entry "max_file_bytes")
    readTimeout := .real timeout
    workers := whole? (v.entry "workers") }
  checkWorkers "scan.workers" settings.workers
  return settings

/-! ### Extraction -/

def readLimits (v : Value) : Except Fault Extract.Limits := do
  let usual : Extract.Limits := {}
  let limits : Extract.Limits := {
    most := wholeOr usual.most (v.entry "max_abstractions")
    fewest := (whole? (v.entry "min_abstractions")).getD usual.fewest
    workers := whole? (v.entry "workers") }
  demand (1 ≤ limits.most) .noComponents
  demand (0 ≤ limits.fewest) .negativeMinimum
  checkWorkers "extract.workers" limits.workers
  return limits

/-- The names in small letters that are no adapter's, each once and sorted. -/
def unknownNames (known names : List String) : List String :=
  Order.sortTexts ((names.map lowerText).filter fun n => !known.contains n).eraseDups

def checkAdapters (known names : List String) : Except Fault Unit :=
  let unknown := unknownNames known names
  demand unknown.isEmpty (.unknownAdapters unknown known)

/-! ### Review -/

def readThreshold (v : Value) : Except Fault Float := do
  let threshold := (← real? (v.entry "repair_threshold")).getD Review.defaultThreshold
  demand (Review.Policy.of? false threshold).isSome .thresholdOutOfRange
  return threshold

/-! ### The whole -/

def isMapping : Value → Bool
  | .mapping _ => true
  | _ => false

/-- The configuration of the repository at `root` by the value of its settings. -/
def ofValue (room : Nat) (root : Disk.Place) (v : Value) : Except Fault Config := do
  demand (isMapping v) .notMapping
  let scan ← readScan room (v.entry "scan")
  let adapters ← texts ((v.entry "extract").entry "adapters")
  let limits ← readLimits (v.entry "extract")
  checkAdapters (builtinAdapters.map (·.name)) adapters
  let threshold ← readThreshold (v.entry "validate")
  let output ← textOr ({ root := root : Config }).output ((v.entry "output").entry "directory")
  let projectName ← text? ((v.entry "output").entry "project_name")
  let deadline ← real? (v.entry "deadline")
  return {
    root := root
    scan := scan
    adapters := adapters
    limits := limits
    repair := (truth? ((v.entry "validate").entry "auto_repair")).getD false
    threshold := threshold
    output := output
    projectName := projectName
    deadline := deadline }

end DocAtlas.Config
