import DocAtlas.Cli.Command
import DocAtlas.Json.Printer
import DocAtlas.Markdown.Page
import DocAtlas.Run.Pipeline
import DocAtlas.Run.Report
import DocAtlas.Site

/-!
Carrying out commands on a disk.
-/
namespace DocAtlas.Cli

/-- A failure that a command has no words for. -/
inductive Failure where
  | run (e : Run.Error)
  | contents (fault : Markdown.Contents.Fault)
  | site (fault : Site.Fault)

def Failure.message : Failure → String
  | .run e => e.message
  | .contents fault => fault.message
  | .site fault => fault.message

inductive Ending where
  | exit (code : Nat)
  | failed (f : Failure)

/-- What a command leaves behind: the disk, the files it wrote, its log and what it printed. -/
structure Outcome where
  disk : Disk
  ending : Ending
  written : List String := []
  log : List Log.Record := []
  verbose : Bool := false
  out : String := ""
  err : String := ""

/-! ### Output -/

/-- The directory that pages go to. -/
def outputPlace (d : Disk) (cwd : String) (c : Choices) (config : Config) : Disk.Place :=
  match c.output.filter (!·.isEmpty) with
  | some out => d.resolve (Path.absolute cwd out)
  | none =>
    d.resolve (Path.absolute (d.resolve (Path.absolute cwd c.path)).text config.output)

/-- What follows a place on the way to another one below it. -/
def below? (place inner : Disk.Place) : Option (List String) :=
  if place.isPrefixOf inner then some (inner.drop place.length) else none

/-- The rule that keeps the pages of earlier runs out of a scan, if they lie within the repository.
-/
def outputRules (root out : Disk.Place) : List Scan.Rule :=
  match below? root out with
  | none => []
  | some [] => []
  | some parts => [⟨"/" ++ Path.joinSegments parts ++ "/", .exclude⟩]

/-- A place as seen from the working directory if it lies below it. -/
def shownFrom (d : Disk) (cwd : String) (place : Disk.Place) : String :=
  match below? (d.resolve cwd) place with
  | none => place.text
  | some [] => "."
  | some parts => Path.joinSegments parts

def lines (ls : List String) : String := String.join (ls.map (· ++ "\n"))

def findingLine (f : Finding) : String :=
  "  [" ++ f.kind.label ++ "] " ++ f.subject ++ ": " ++ f.message

def summary (r : Run.Result) : List String :=
  ["Status: " ++ r.review.status,
    "Components documented: " ++ toString r.graph.components.length ++ " of " ++
      toString r.candidates ++ " candidate(s)"] ++
    (if r.findings.isEmpty then []
    else ("Findings (" ++ toString r.findings.length ++ "):") :: r.findings.map findingLine)

/-! ### Commands -/

def requestOf (d : Disk) (cwd : String) (c : Choices) (config : Config) : Run.Request where
  path := Path.absolute cwd c.path
  shown := Path.plain c.path
  rules := outputRules (d.resolve (Path.absolute cwd c.path)) (outputPlace d cwd c config)
  seconds := c.seconds
  most := c.most
  repair := if c.repair then some true else none

/-- How a command ends that a run fails; expiry has a code of its own. -/
def failedRun (verb : Verb) (e : Run.Error) : Ending × String :=
  match e with
  | .config (.complaint c) => (.exit 1, c.message ++ "\n")
  | .scan (.notFound root) => (.exit 1, (Scan.Error.notFound root).message ++ "\n")
  | .scan (.notDirectory root) => (.exit 1, (Scan.Error.notDirectory root).message ++ "\n")
  | .expired stage findings =>
    (.exit 2, verb.program ++ " aborted: " ++ Deadline.message stage ++ " (" ++
      toString findings.length ++ " finding(s) recorded)\n")
  | e => (.failed (.run e), "")

/-- Writes the pages of a run, or tells which would be written. -/
def generate (d : Disk) (cwd : String) (c : Choices) (out : Disk.Place) (r : Run.Result) :
    Outcome :=
  match Markdown.pageTexts r.diagrams r.tree with
  | .error fault => { disk := d, ending := .failed (.contents fault) }
  | .ok pages =>
    let files := Site.files out.text pages
    let record := Site.record c.dryRun files.length out.text
    if c.dryRun then
      { disk := d
        ending := .exit 0
        log := [record]
        out := lines ("Pages that would be written (dry-run):" ::
          files.map (fun f => "  " ++ shownFrom d cwd (Path.normalSegments f.1)) ++ summary r) }
    else
      match Site.writeAll cwd d files with
      | (d, some fault) => { disk := d, ending := .failed (.site fault) }
      | (d, none) =>
        { disk := d
          ending := .exit 0
          written := files.map Prod.fst
          log := [record]
          out :=
            let wrote := "Wrote " ++ toString files.length ++ " page(s) to " ++ shownFrom d cwd out
            lines (wrote :: summary r) }

def inspect (d : Disk) (r : Run.Result) : Outcome where
  disk := d
  ending := .exit 0
  out := (Json.indented 0 r.toJson) ++ "\n"

/-- Carries out a command that runs over a repository. -/
def perform (d : Disk) (cwd : String) (host : Run.Host) (call : Call) : Outcome :=
  let c := call.choices
  let failed (e : Run.Error) : Outcome :=
    let (ending, err) := failedRun call.verb e
    { disk := d, ending := ending, err := err }
  match Run.configOf d host.room (Path.absolute cwd c.path) with
  | .error fault => failed (.config fault)
  | .ok config =>
    let run := Run.runWith d host.clock config (requestOf d cwd c config)
    let outcome :=
      match run.result with
      | .error e => failed e
      | .ok r =>
        match call.verb with
        | .generate => generate d cwd c (outputPlace d cwd c config) r
        | _ => inspect d r
    { outcome with log := run.log ++ outcome.log, verbose := c.verbose }

/-- The service is not started from here. -/
def refuseService (d : Disk) (c : Choices) : Outcome where
  disk := d
  ending := .exit 1
  err := "cannot listen on " ++ c.host ++ ":" ++ toString c.port ++ "\n"

/-- Carries out a command line in the working directory `cwd`. -/
def execute (d : Disk) (cwd : String) (host : Run.Host) (arguments : List String) : Outcome :=
  match Call.ofArguments arguments with
  | .error (.help usage) => { disk := d, ending := .exit 0, out := usage ++ "\n" }
  | .error (.wrong usage program c) =>
    { disk := d
      ending := .exit 2
      err := usage ++ "\n" ++ program ++ ": error: " ++ c.message ++ "\n" }
  | .ok call =>
    match call.verb with
    | .serve => refuseService d call.choices
    | _ => perform d cwd host call

/-- The lines of the log that are shown. -/
def Outcome.logLines (o : Outcome) : List String :=
  (o.log.filter (Log.Record.isShown o.verbose)).map (·.consoleLine)

end DocAtlas.Cli
