import DocAtlas.Config.Load
import DocAtlas.Document.Tree
import DocAtlas.Graph.Build
import DocAtlas.Run.Records

/-!
The stages of a run one after the other: scan, extraction, graph, diagrams, documentation tree and
review. The clock is read before every stage; findings gathered until the deadline are kept.
-/
namespace DocAtlas.Run

/-! ### Preparation -/

/-- The settings of a run, checked. -/
structure Setup where
  scan : Scan.Settings
  registry : Registry
  limits : Extract.Limits
  policy : Review.Policy
  projectName : Option String

def unusable {α : Type} (reason : String) : Except Config.Fault α :=
  .error (.complaint (.unusable reason))

/-- The registry of the adapters that are asked for, of all if none is. -/
def registryOf (names : List String) : Except Config.Fault Registry :=
  match Registry.select builtinAdapters lowerText names with
  | .ok r => .ok r
  | .error fault => unusable fault.message

def limitsOf (c : Config) (most : Option Int) : Except Config.Fault Extract.Limits :=
  let limits := { c.limits with most := most.getD c.limits.most }
  match limits.check with
  | .ok () => .ok limits
  | .error e => unusable e.message

def policyOf (c : Config) (repair : Option Bool) : Except Config.Fault Review.Policy :=
  match Review.Policy.of? (repair.getD c.repair) c.threshold with
  | some policy => .ok policy
  | none => unusable Review.thresholdMessage

def Setup.of (c : Config) (request : Request) : Except Config.Fault Setup := do
  let registry ← registryOf c.adapters
  let limits ← limitsOf c request.most
  let policy ← policyOf c request.repair
  return ⟨c.scan, registry, limits, policy, c.projectName⟩

/-- The configuration of a repository. A path that is no directory has the usual one, so that the
scan reports it. -/
def configOf (d : Disk) (room : Nat) (path : String) : Except Config.Fault Config :=
  if d.isDirectory path then Config.load d room path else .ok { root := d.resolve path }

/-- The text of a unit: bytes that are no text are marked, line ends unified. What a scan has made a
unit can always be read. -/
def contentOf (d : Disk) (root : Disk.Place) (u : SourceUnit) : String :=
  let bytes := (d.read? (Path.join root.text u.path)).getD ByteArray.empty
  String.ofList (Text.unifyBreaks (Text.Utf8.decodeReplacing bytes).toList)

/-- The first name that is not empty. -/
def nameOf (names : List (Option String)) (root : Disk.Place) : String :=
  ((names.filterMap id).find? fun n => !n.isEmpty).getD (root.getLast?.getD "")

/-! ### Stages -/

def scanStage (d : Disk) (setup : Setup) (request : Request) : Stage Scan.Snapshot := do
  match Scan.scan d setup.scan request.path request.shown request.rules (← get).watch with
  | .ok (snapshot, watch) =>
    modify fun p => { p with watch := watch }
    Stage.note (Records.ofSnapshot snapshot)
    Stage.report snapshot.findings
    return snapshot
  | .error (.expired omitted) =>
    Stage.note (omitted.map Records.ofOmission)
    Stage.halt (.expired Scan.stage)
  | .error e => Stage.halt (.failed (.scan e))

def extractionHalt : Extract.Error → Halt
  | .expired stage => .expired stage
  | e => .failed (.extraction e)

/-- The clock is read once for the stage and once for every unit. -/
def extractionStage (d : Disk) (setup : Setup) (s : Scan.Snapshot) : Stage Extract.Extraction := do
  Stage.check Extract.stage 1
  Stage.check Extract.stage s.units.length
  let x ← Stage.settle extractionHalt
    (Extract.extract setup.registry setup.limits (contentOf d s.root) s.units)
  Stage.note (Records.ofExtraction setup.limits x)
  Stage.report x.findings
  return x

def graphStage (x : Extract.Extraction) : Stage Graph := do
  Stage.check Graph.stage 1
  let g ← Stage.settle (fun fault => .failed (.graph fault)) (Graph.build x.components x.mentions)
  Stage.note (Records.ofGraph g)
  Stage.report g.findings
  return g

def viewStage (g : Graph) : Stage (List Diagram × Tutorial) := do
  Stage.check "diagrams" 1
  let plan := Tutorial.ofGraph g
  Stage.note (Records.ofViews g :: Records.ofTutorial plan)
  return (g.views, plan)

def treeStage (g : Graph) (diagrams : List Diagram) (plan : Tutorial) (name : String) :
    Stage Page := do
  Stage.check "render" 1
  let tree := Document.render g diagrams plan (some name)
  Stage.note [Records.ofTree tree]
  return tree

def reviewStage (policy : Review.Policy) (tree : Page) : Stage (Page × Review.Report) := do
  Stage.check Review.stage 1
  let (tree, report) ← Stage.settle (fun path => .failed (.repeatedPage path))
    (Review.review policy Review.likeness tree)
  Stage.note [Records.ofReview report]
  Stage.report report.findings
  return (tree, report)

def stages (d : Disk) (setup : Setup) (request : Request) : Stage Result := do
  Stage.note [Records.start request]
  let snapshot ← scanStage d setup request
  let x ← extractionStage d setup snapshot
  let g ← graphStage x
  let (diagrams, plan) ← viewStage g
  let tree ← treeStage g diagrams plan
    (nameOf [request.projectName, setup.projectName] snapshot.root)
  let (tree, report) ← reviewStage setup.policy tree
  return {
    root := snapshot.root
    tree := tree
    diagrams := diagrams
    graph := g
    plan := plan
    review := report
    findings := (← get).findings
    unanalyzed := x.unanalyzed
    candidates := x.candidates }

/-! ### Runs -/

/-- What stages come to: their result, or their failure with the findings made until then. -/
def conclude (ended : Except Halt Result × Progress) : Outcome :=
  match ended with
  | (.ok result, p) =>
    ⟨p.log ++ Records.finished result :: Log.findingRecords Records.leader result.findings,
      .ok result⟩
  | (.error (.expired stage), p) =>
    ⟨p.log ++ Records.aborted stage :: Log.findingRecords Records.leader p.findings,
      .error (.expired stage (p.findings ++ [Deadline.marker stage]))⟩
  | (.error (.failed e), p) => ⟨p.log, .error e⟩

/-- The run with a given configuration. The time that a request allows comes before that of the
configuration. -/
def runWith (d : Disk) (clock : Clock) (c : Config) (request : Request) : Outcome :=
  match Setup.of c request with
  | .error fault => ⟨[], .error (.config fault)⟩
  | .ok setup =>
    let watch := Watch.start (request.seconds.or c.deadline) clock
    conclude ((stages d setup request).run.run { watch := watch })

/-- The run with the configuration of the repository. -/
def run (d : Disk) (host : Host) (request : Request) : Outcome :=
  match configOf d host.room request.path with
  | .error fault => ⟨[], .error (.config fault)⟩
  | .ok c => runWith d host.clock c request

end DocAtlas.Run
