import DocAtlas.Disk
import DocAtlas.Finding
import DocAtlas.Order
import DocAtlas.Scan.Rule

/-!
The walk over the directories below a root. Links are followed, but no directory is entered from
within itself.
-/
namespace DocAtlas.Scan

def stage : String := "scan"

/-- A file that no rule excludes. -/
structure Candidate where
  path : String
  place : Disk.Place
  /-- Whether a link was followed on the way to it. -/
  viaLink : Bool
deriving DecidableEq

/-- What an entry of a directory leads to. -/
inductive Target where
  | directory (place : Disk.Place)
  | file (place : Disk.Place)
  | other
deriving DecidableEq

structure Entry where
  name : String
  isLink : Bool
  /-- How many links lead from its directory to its target. -/
  links : Nat
  target : Target
deriving DecidableEq

/-- What there is at a place. -/
def targetAt (d : Disk) (place : Disk.Place) : Target :=
  match d.node? place with
  | some (.directory _) => .directory place
  | some (.file _) => .file place
  | _ => .other

def entryOf (d : Disk) (dir : Disk.Place) (name : String) (n : Disk.Node) : Entry :=
  let reached := d.follow Disk.maxLinks dir.reverse [name]
  { name := name
    isLink := match n with
      | .link _ => true
      | _ => false
    links := reached.elim 0 (Disk.maxLinks - ·.1)
    target := reached.elim .other (targetAt d ·.2) }

/-- The entries of a directory by name. -/
def entriesOf (d : Disk) (dir : Disk.Place) : List Entry :=
  match d.node? dir with
  | some (.directory entries) =>
    Order.sort (Order.byText Entry.name) (entries.map fun (name, n) => entryOf d dir name n)
  | _ => []

/-- What a part of the walk has brought in, and the number of entries it has looked at. -/
structure Harvest where
  candidates : List Candidate := []
  findings : List Finding := []
  excluded : Nat := 0
  looked : Nat := 0

def Harvest.append (a b : Harvest) : Harvest where
  candidates := a.candidates ++ b.candidates
  findings := a.findings ++ b.findings
  excluded := a.excluded + b.excluded
  looked := a.looked + b.looked

def Harvest.all (hs : List Harvest) : Harvest := hs.foldl Harvest.append {}

def cycleFinding (path : String) : Finding where
  kind := .symlinkCycle
  stage := stage
  subject := path
  message := "Symlink cycle at " ++ path ++ "; not followed"

/-- A directory that is to be walked: its place, its path below the root, the places above it and
its own, and how many links the path leads through. -/
structure Visit where
  place : Disk.Place
  path : String
  ancestors : List Disk.Place
  viaLink : Bool
  links : Nat

def Visit.below (v : Visit) (name : String) : String :=
  if v.path.isEmpty then name else v.path ++ "/" ++ name

/-- What the path to an entry leads to. All of its links count, from the root on. -/
def Visit.target (v : Visit) (e : Entry) : Target :=
  if v.links + e.links ≤ Disk.maxLinks then e.target else .other

/-- What becomes of an entry: a harvest at once, or a directory to walk. -/
inductive Step where
  | done (h : Harvest)
  | enter (v : Visit)

def step (rules : RuleSet) (v : Visit) (e : Entry) : Step :=
  let path := v.below e.name
  match v.target e with
  | .directory place =>
    if rules.prunes path then .done { excluded := 1, looked := 1 }
    else if v.ancestors.contains place then .done { findings := [cycleFinding path], looked := 1 }
    else .enter ⟨place, path, v.ancestors ++ [place], v.viaLink || e.isLink, v.links + e.links⟩
  | .file place =>
    if rules.excludes path false then .done { excluded := 1, looked := 1 }
    else .done { candidates := [⟨path, place, v.viaLink || e.isLink⟩], looked := 1 }
  | .other => .done { looked := 1 }

def steps (d : Disk) (rules : RuleSet) (v : Visit) : List Step :=
  (entriesOf d v.place).map (step rules v)

/-- Walks a directory; the ancestors are distinct directories, so their number bounds the depth. -/
def walk (d : Disk) (rules : RuleSet) : Nat → Visit → Harvest
  | 0, _ => {}
  | fuel + 1, v => Harvest.all ((steps d rules v).map fun
    | .done h => h
    | .enter v => ({ looked := 1 } : Harvest).append (walk d rules fuel v))

/-- The number of directories, which no chain of ancestors exceeds. -/
def depthBound (d : Disk) : Nat := (Disk.Node.directory d.entries).directories

def rootVisit (root : Disk.Place) : Visit := ⟨root, "", [root], false, 0⟩

/-- What the entries of the root come to before any directory is entered. -/
def topHarvest (ss : List Step) : Harvest :=
  Harvest.all (ss.map fun
    | .done h => h
    | .enter _ => { looked := 1 })

/-- The harvests of the directories of the root. -/
def subtrees (d : Disk) (rules : RuleSet) (ss : List Step) : List Harvest :=
  ss.filterMap fun
    | .done _ => none
    | .enter v => some (walk d rules (depthBound d) v)

def candidateOrder : Candidate → Candidate → Ordering :=
  Order.andThen (Order.byNat fun c => c.viaLink.toNat) (Order.byText Candidate.path)

/-- The first candidate of each real file. -/
def firstOfEach : List Disk.Place → List Candidate → List Candidate
  | _, [] => []
  | seen, c :: rest =>
    if seen.contains c.place then firstOfEach seen rest else c :: firstOfEach (c.place :: seen) rest

/-- One candidate for each real file, by path; one that was reached without a link comes before
others. -/
def deduplicate (candidates : List Candidate) : List Candidate :=
  Order.sort (Order.byText Candidate.path)
    (firstOfEach [] (Order.sort candidateOrder candidates))

end DocAtlas.Scan
