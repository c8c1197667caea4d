import DocAtlas.Extract.Adapter
import DocAtlas.Extract.Surface
import DocAtlas.Finding

/-!
Extraction: the components of all units under distinct ids, and the mentions that go with them.
-/
namespace DocAtlas.Extract

def stage : String := "extract"

/-- What came of a unit. -/
inductive Outcome where
  | unsupported
  | failed (finding : Finding)
  | read (yield : Yield)

structure Extraction where
  components : List Component := []
  mentions : List Mention := []
  unanalyzed : List String := []
  findings : List Finding := []
  candidates : Nat := 0

def failureFinding (adapter path kind message : String) : Finding where
  kind := .adapterError
  stage := stage
  subject := path
  message := adapter ++ " adapter could not analyse " ++ path ++ ": " ++ message
  details := [("adapter", .text adapter), ("error", .text kind)]

/-- Reads a unit; only an expired deadline is passed on as an error. -/
def outcomeOf (registry : Registry) (content : SourceUnit → String) (u : SourceUnit) :
    Except String Outcome :=
  match registry.forEcosystem u.ecosystem with
  | none => .ok .unsupported
  | some a =>
    match a.extract u (content u) with
    | .ok yield => .ok (.read yield)
    | .error (.expired stage) => .error stage
    | .error (.error kind message) => .ok (.failed (failureFinding a.name u.path kind message))

/-- The components gathered so far, by id. -/
structure Gathered where
  known : List Component := []
  mentions : List Mention := []
  unanalyzed : List String := []
  findings : List Finding := []

def Gathered.get? (g : Gathered) (id : String) : Option Component := g.known.find? (·.id == id)

/-- The first of the names `id-2`, `id-3`, … that is free; there are more of them than taken ids. -/
def freeId (taken : List String) (id : String) : Nat → Nat → String
  | 0, n => id ++ "-" ++ toString n
  | fuel + 1, n =>
    let name := id ++ "-" ++ toString n
    if taken.contains name then freeId taken id fuel (n + 1) else name

def collisionFinding (c kept : Component) (id : String) : Finding where
  kind := .idCollision
  stage := stage
  subject := id
  message := c.path ++ " and " ++ kept.path ++ " both derive id " ++ c.id ++ "; " ++ c.name ++
    " from " ++ c.path ++ " is documented as " ++ id
  details := [("derived", .text c.id), ("kept_source", .text kept.path)]

def conflictFinding (kept discarded : Component) : Finding where
  kind := .kindConflict
  stage := stage
  subject := kept.id
  message := "Abstraction " ++ kept.id ++ " declared as " ++ kept.role.label ++ " and " ++
    discarded.role.label ++ "; keeping " ++ kept.role.label
  details := [("kept", .text kept.role.label), ("discarded", .text discarded.role.label)]

/-- The components gathered, and the new ids that the unit at hand gave to its own. -/
structure Claiming where
  gathered : Gathered
  renamed : Keyed String := []

/-- Enters a component under its id; the first one stays. -/
def Claiming.enter (s : Claiming) (c : Component) : Claiming :=
  match s.gathered.get? c.id with
  | none => { s with gathered := { s.gathered with known := s.gathered.known ++ [c] } }
  | some kept =>
    if kept.role = c.role then s
    else { s with gathered :=
      { s.gathered with findings := s.gathered.findings ++ [conflictFinding kept c] } }

/-- Enters a component; one whose id belongs to another file gets a numbered id. -/
def Claiming.claim (s : Claiming) (c : Component) : Claiming :=
  match s.renamed.get? c.id with
  | some id => s.enter { c with id := id }
  | none =>
    match s.gathered.get? c.id with
    | none => s.enter c
    | some kept =>
      if kept.path == c.path then s.enter c
      else
        let taken := s.gathered.known.map (·.id)
        let id := freeId taken c.id taken.length 2
        let s : Claiming := {
          gathered :=
            { s.gathered with findings := s.gathered.findings ++ [collisionFinding c kept id] }
          renamed := s.renamed ++ [(c.id, id)] }
        s.enter { c with id := id }

/-- The mention under the new id of its source. -/
def follow (renamed : Keyed String) (m : Mention) : Mention :=
  { m with source := (renamed.get? m.source).getD m.source }

def Gathered.addYield (g : Gathered) (y : Yield) : Gathered :=
  let s := y.components.foldl Claiming.claim { gathered := g }
  { s.gathered with mentions := s.gathered.mentions ++ y.mentions.map (follow s.renamed) }

def Gathered.add (g : Gathered) (unit : SourceUnit × Outcome) : Gathered :=
  match unit.2 with
  | .unsupported => { g with unanalyzed := g.unanalyzed ++ [unit.1.path] }
  | .failed finding =>
    { g with unanalyzed := g.unanalyzed ++ [unit.1.path], findings := g.findings ++ [finding] }
  | .read yield => g.addYield yield

def gather (units : List (SourceUnit × Outcome)) : Gathered := units.foldl Gathered.add {}

/-- The extraction of gathered components, of which at most `limit` are kept. -/
def Gathered.extraction (limit : Nat) (g : Gathered) : Extraction :=
  let kept := surface limit g.known g.mentions
  { components := kept
    mentions := g.mentions.filter fun m => (kept.map (·.id)).contains m.source
    unanalyzed := g.unanalyzed
    findings := g.findings
    candidates := g.known.length }

def sortUnits (units : List SourceUnit) : List SourceUnit :=
  Order.sort (Order.byText SourceUnit.path) units

/-- The outcomes of all units by path, or the stage in which the deadline passed. -/
def outcomes (registry : Registry) (content : SourceUnit → String) (units : List SourceUnit) :
    Except String (List (SourceUnit × Outcome)) :=
  (sortUnits units).mapM fun u => do return (u, ← outcomeOf registry content u)

structure Limits where
  most : Int := 15
  /-- Fewer components than this are worth a note. -/
  fewest : Int := 5
  workers : Option Int := none

inductive Error where
  | noComponents
  | noWorkers
  | expired (stage : String)

def Error.message : Error → String
  | .noComponents => "max_abstractions must be at least 1"
  | .noWorkers => "max_workers must be greater than 0"
  | .expired stage => "Deadline exceeded during " ++ stage

def Limits.check (l : Limits) : Except Error Unit :=
  if l.most < 1 then .error .noComponents else .ok ()

/-- Workers are needed as soon as there is a unit. -/
def Limits.checkWorkers (l : Limits) (units : List SourceUnit) : Except Error Unit :=
  match l.workers with
  | none => .ok ()
  | some n => if n < 1 && !units.isEmpty then .error .noWorkers else .ok ()

def extract (registry : Registry) (limits : Limits) (content : SourceUnit → String)
    (units : List SourceUnit) : Except Error Extraction := do
  limits.check
  limits.checkWorkers units
  match outcomes registry content units with
  | .error stage => .error (.expired stage)
  | .ok os => .ok ((gather os).extraction limits.most.toNat)

end DocAtlas.Extract
