import DocAtlas.Config.Basic
import DocAtlas.Diagram.Basic
import DocAtlas.Extract.Builtin
import DocAtlas.Log
import DocAtlas.Tutorial

/-!
A run over a repository: what it is asked for, what it comes to, and how its stages share findings,
log and clock.
-/
namespace DocAtlas.Run

/-- What a run finds on the machine that it runs on. -/
structure Host where
  clock : Clock
  /-- How deep calls may be nested when settings are read and when one of them is shown. -/
  room : Nat

/-- A host for runs whose duration does not matter. -/
def Host.still : Host := ⟨stillClock, 1000⟩

/-- What a run is asked for. What is missing is taken from the configuration. -/
structure Request where
  /-- The repository's absolute path. -/
  path : String
  /-- The path as messages show it. -/
  shown : String
  rules : List Scan.Rule := []
  seconds : Option Float := none
  most : Option Int := none
  repair : Option Bool := none
  projectName : Option String := none

/-- A finished run. -/
structure Result where
  root : Disk.Place
  tree : Page
  diagrams : List Diagram
  graph : Graph
  plan : Tutorial
  review : Review.Report
  findings : List Finding
  unanalyzed : List String
  candidates : Nat

inductive Error where
  | config (fault : Config.Fault)
  | scan (e : Scan.Error)
  | extraction (e : Extract.Error)
  | graph (fault : Graph.Fault)
  | repeatedPage (path : String)
  /-- The deadline passed; the findings end with the one that says so. -/
  | expired (stage : String) (findings : List Finding)

def Error.message : Error → String
  | .config fault => fault.message
  | .scan e => e.message
  | .extraction e => e.message
  | .graph fault => fault.message
  | .repeatedPage path => Page.repeatedPathMessage path
  | .expired stage _ => Deadline.message stage

/-- How a run ended, and what it logged on the way. -/
structure Outcome where
  log : List Log.Record
  result : Except Error Result

/-! ### Stages -/

/-- How far a run has come. -/
structure Progress where
  watch : Watch
  findings : List Finding := []
  log : List Log.Record := []

/-- Why a run stops before its end. -/
inductive Halt where
  | expired (stage : String)
  | failed (e : Error)

abbrev Stage (α : Type) := ExceptT Halt (StateM Progress) α

namespace Stage

def note (records : List Log.Record) : Stage Unit :=
  modify fun p => { p with log := p.log ++ records }

def report (findings : List Finding) : Stage Unit :=
  modify fun p => { p with findings := p.findings ++ findings }

def halt {α : Type} (h : Halt) : Stage α := throw h

/-- Reads the clock `n` times for a stage. -/
def check (stage : String) (n : Nat) : Stage Unit := do
  match (← get).watch.check? n with
  | some w => modify fun p => { p with watch := w }
  | none => halt (.expired stage)

/-- What another part of the program came to, or else the run's failure. -/
def settle {ε α : Type} (fail : ε → Halt) (r : Except ε α) : Stage α :=
  match r with
  | .ok a => pure a
  | .error e => halt (fail e)

end Stage

end DocAtlas.Run
