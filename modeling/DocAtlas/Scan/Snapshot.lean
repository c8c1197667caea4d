import DocAtlas.Deadline
import DocAtlas.Digest
import DocAtlas.Scan.Unit
import DocAtlas.Scan.Walk
import DocAtlas.Text.Utf8

/-!
The snapshot that a scan takes of a repository: its source units and what was left out.
-/
namespace DocAtlas.Scan

structure Settings where
  rules : List Rule := []
  respectIgnore : Bool := true
  maxBytes : Int := 1024 * 1024
  readTimeout : Seconds := .real 5
  workers : Option Int := none

/-- Why a file is left out. -/
inductive Skip where
  | tooLarge (size : Nat) (limit : Int)
  | tooSlow (timeout : Seconds)
  | unreadable

def Skip.reason : Skip → String
  | .tooLarge _ _ => "exceeds size bound"
  | .tooSlow _ => "exceeds read time bound"
  | .unreadable => "unreadable"

def Skip.details : Skip → Keyed Json
  | .tooLarge size limit => [("size", .int size), ("limit", .int limit)]
  | .tooSlow timeout => [("timeout", timeout.toJson)]
  | .unreadable => []

/-- A file that is left out. -/
structure Omission where
  path : String
  skip : Skip

def Omission.finding (o : Omission) : Finding where
  kind := .unitSkipped
  stage := stage
  subject := o.path
  message := o.path ++ " skipped: " ++ o.skip.reason
  details := o.skip.details

structure Snapshot where
  root : Disk.Place
  units : List SourceUnit
  omitted : List Omission
  findings : List Finding
  excluded : Nat

inductive Error where
  | notFound (root : String)
  | notDirectory (root : String)
  | pattern (fault : PatternFault)
  | noWorkers
  /-- The deadline has passed, with the files that had been left out by then. -/
  | expired (omitted : List Omission)

def Error.message : Error → String
  | .notFound root => "Repository path not found: " ++ root
  | .notDirectory root => "Repository path is not a directory: " ++ root
  | .pattern fault => fault.message
  | .noWorkers => "max_workers must be greater than 0"
  | .expired _ => Deadline.message stage

/-- Files are read in parts of so many bytes. -/
def partSize : Nat := 64 * 1024

/-- How many parts a file of a size is read in. -/
def partsOf (size : Nat) : Nat := (size + partSize - 1) / partSize

/-- Whether the time allowed for a file is over after one of its parts; `moments` are those before
the first one and after each. -/
def isSlow (timeout : Seconds) (moments : Nat → Float) (parts : Nat) : Bool :=
  (List.range parts).any fun k => timeout.areOver (moments (k + 1) - moments 0)

def skip? (settings : Settings) (moments : Nat → Float) (size : Nat) : Option Skip :=
  if settings.maxBytes < size then some (.tooLarge size settings.maxBytes)
  else if isSlow settings.readTimeout moments (partsOf size) then
    some (.tooSlow settings.readTimeout)
  else none

def load (d : Disk) (settings : Settings) (clock : Clock) (c : Candidate) :
    Except Omission SourceUnit :=
  match d.node? c.place with
  | some (.file bytes) =>
    match skip? settings (clock.file c.place) bytes.size with
    | some s => .error ⟨c.path, s⟩
    | none => .ok ⟨c.path, ecosystemOf c.path, bytes.size, Digest.sha256 bytes⟩
  | _ => .error ⟨c.path, .unreadable⟩

def findingOrder : Finding → Finding → Ordering :=
  Order.andThen (Order.byText (·.kind.label)) (Order.byText Finding.subject)

def exclusionsFinding (count : Nat) : Finding where
  kind := .scanExclusions
  stage := stage
  subject := "."
  message := toString count ++ " path(s) excluded by scan rules"
  details := [("count", .int count)]

def unitsOf (outcomes : List (Except Omission SourceUnit)) : List SourceUnit :=
  outcomes.filterMap fun
    | .ok unit => some unit
    | .error _ => none

def omissionsOf (outcomes : List (Except Omission SourceUnit)) : List Omission :=
  outcomes.filterMap fun
    | .ok _ => none
    | .error o => some o

/-- The snapshot made of the harvests of a walk. -/
def snapshotOf (load : Candidate → Except Omission SourceUnit) (root : Disk.Place)
    (harvests : List Harvest) : Snapshot :=
  let whole := Harvest.all harvests
  let outcomes := (deduplicate whole.candidates).map load
  let omitted := omissionsOf outcomes
  let findings := Order.sort findingOrder (whole.findings ++ omitted.map (·.finding))
  { root := root
    units := unitsOf outcomes
    omitted := omitted
    findings :=
      if whole.excluded = 0 then findings else exclusionsFinding whole.excluded :: findings
    excluded := whole.excluded }

/-- The rules of the repository's ignore file. -/
def ignoreRules (d : Disk) (root : Disk.Place) : List Rule :=
  match d.read? (Disk.Place.text (root ++ [".gitignore"])) with
  | some bytes => Ignore.readRules (Text.Utf8.decodeReplacing bytes)
  | none => []

/-- All rules of a scan; later ones decide over earlier ones. -/
def orderedRules (d : Disk) (root : Disk.Place) (settings : Settings) (callRules : List Rule) :
    List Rule :=
  defaultRules ++ (if settings.respectIgnore then ignoreRules d root else []) ++ settings.rules ++
    callRules

def checked (w : Watch) (n : Nat) : Except Error Watch :=
  match w.check? n with
  | some w => .ok w
  | none => .error (.expired [])

/-- A negative number of workers is refused once the entries of the root have been looked at. -/
def checkWorkers (settings : Settings) : Except Error Unit :=
  match settings.workers with
  | none => .ok ()
  | some n => if n < 0 then .error .noWorkers else .ok ()

/-- Scans the directory `path`, which messages call `shown`. The deadline is checked for every entry
looked at and every file loaded. -/
def scan (d : Disk) (settings : Settings) (path shown : String) (callRules : List Rule)
    (w : Watch) : Except Error (Snapshot × Watch) := do
  if !d.exists? path then .error (.notFound shown)
  else if !d.isDirectory path then .error (.notDirectory shown)
  else
    let root := d.resolve path
    let load := load d settings w.clock
    match RuleSet.ofRules (orderedRules d root settings callRules) with
    | .error fault => .error (.pattern fault)
    | .ok rules =>
      let ss := steps d rules (rootVisit root)
      let top := topHarvest ss
      let w ← checked w top.looked
      checkWorkers settings
      let below := subtrees d rules ss
      let w ← checked w (Harvest.all below).looked
      let harvests := top :: below
      let chosen := deduplicate (Harvest.all harvests).candidates
      match w.check? chosen.length with
      | some w => return (snapshotOf load root harvests, w)
      | none =>
        let loaded := (chosen.take (w.passed chosen.length)).map load
        .error (.expired (omissionsOf loaded))

end DocAtlas.Scan
