import DocAtlas.Finding
import DocAtlas.Order

/-!
The log of a run: records with a level and the stage they come from.
-/
namespace DocAtlas.Log

inductive Level where
  | debug
  | info
  | warning
  | error
  | critical
deriving DecidableEq

def Level.label : Level → String
  | .debug => "DEBUG"
  | .info => "INFO"
  | .warning => "WARNING"
  | .error => "ERROR"
  | .critical => "CRITICAL"

def Level.all : List Level := [.debug, .info, .warning, .error, .critical]

structure Record where
  level : Level
  stage : String
  message : String

/-- The stage of records that come from no part of the program in particular. -/
def mainStage : String := "cli"

def partStage (part : String) : String := if part.isEmpty then mainStage else part

/-- The stage that a record shows: its own, or else the part of the program that wrote it. -/
def stageOf (part : String) (own : Option String) : String :=
  match own with
  | some s => if s.isEmpty then partStage part else s
  | none => partStage part

/-- Without `verbose`, records for troubleshooting are left out. -/
def Record.isShown (verbose : Bool) (r : Record) : Bool := verbose || r.level ≠ .debug

def Record.consoleLine (r : Record) : String :=
  "[repodoc:" ++ r.stage ++ "] " ++ r.level.label ++ " " ++ r.message

/-- A line of a log file, but for the time at its beginning. -/
def Record.fileLine (r : Record) : String :=
  r.level.label ++ " " ++ r.stage ++ ": " ++ r.message

/-- The findings that mean that part of the repository went undocumented. -/
def isWarning (k : Finding.Kind) : Bool :=
  k = .adapterError || k = .symlinkCycle || k = .inheritanceCycle || k = .danglingReference ||
    k = .deadlineExceeded

/-- How many findings there are of each kind, by the names of the kinds. -/
def tally (findings : List Finding) : List (String × Nat) :=
  let kinds := findings.map (·.kind.label)
  (Order.sortTexts kinds.eraseDups).map fun k => (k, kinds.count k)

def findingRecord (part : String) (f : Finding) : Record where
  level := if isWarning f.kind then .warning else .debug
  stage := stageOf part (some f.stage)
  message := f.kind.label ++ " " ++ f.subject ++ ": " ++ f.message

/-- The records for findings: their number by kind, then each of them. -/
def findingRecords (part : String) (findings : List Finding) : List Record :=
  if findings.isEmpty then []
  else
    ⟨.info, stageOf part none, "Findings: " ++ String.intercalate ", "
      ((tally findings).map fun entry => entry.1 ++ "=" ++ toString entry.2)⟩ ::
        findings.map (findingRecord part)

end DocAtlas.Log
