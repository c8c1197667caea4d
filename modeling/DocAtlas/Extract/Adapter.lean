import DocAtlas.Component.Inference
import DocAtlas.Keyed
import DocAtlas.Naming
import DocAtlas.Order
import DocAtlas.Scan.Unit

/-!
Adapters read the sources of certain ecosystems; a registry says which one reads which.
-/
namespace DocAtlas

/-- The components and mentions of one source unit. -/
structure Yield where
  components : List Component := []
  mentions : List Mention := []

/-- Why an adapter gave up: the deadline passed, or some error of the named kind came up. -/
inductive Failure where
  | expired (stage : String)
  | error (kind message : String)

structure Adapter where
  name : String
  ecosystems : List String
  extract : SourceUnit → String → Except Failure Yield

/-- Mentions of what a component refers to, which configures it or is used by it. -/
def mentionsOf (id : String) (targets : List String) : List Mention :=
  targets.map fun target => ⟨id, target, .ofName (lastPart target)⟩

/-- The name of a source that is one component. -/
def sourceName (path : String) : String :=
  let home := modulePath path
  if home == "" then path else lastPart home

/-- Adapters in order of registration. -/
structure Registry where
  adapters : List Adapter := []

namespace Registry

inductive Fault where
  | notAdapter (shown : String)
  | noEcosystems (name : String)
  | taken (ecosystem name : String)
  | unknown (names : List String)

def Fault.message : Fault → String
  | .notAdapter shown => shown ++ " is not an Adapter instance"
  | .noEcosystems name => "Adapter '" ++ name ++ "' declares no ecosystems"
  | .taken ecosystem name =>
    "Ecosystem '" ++ ecosystem ++ "' is already handled by adapter '" ++ name ++ "'"
  | .unknown names => "Unknown adapters requested: " ++ String.intercalate ", " names

def lookup? (r : Registry) (ecosystem : String) : Option Adapter :=
  r.adapters.find? (·.ecosystems.contains ecosystem)

def forEcosystem (r : Registry) (ecosystem : Option String) : Option Adapter :=
  ecosystem.bind r.lookup?

/-- A registry of those of the given adapters whose names are asked for, of all if none is. -/
def select (available : List Adapter) (lower : String → String) (enabled : List String) :
    Except Fault Registry :=
  if enabled.isEmpty then .ok ⟨available⟩
  else
    let wanted := enabled.map lower
    let missing := (wanted.filter fun n => !(available.map (·.name)).contains n).eraseDups
    if missing.isEmpty then .ok ⟨available.filter fun a => wanted.contains a.name⟩
    else .error (.unknown (Order.sortTexts missing))

end Registry

/-! ### Registration -/

/-- What is handed over for registration: an adapter, or another value with the text that shows it.
-/
inductive Applicant where
  | adapter (a : Adapter)
  | other (shown : String)

/-- A registry that is being filled, with a table of the adapters by ecosystem. -/
structure Roster extends Registry where
  readers : Keyed Adapter := []

namespace Roster

def forEcosystem (r : Roster) (ecosystem : Option String) : Option Adapter :=
  ecosystem.bind r.readers.get?

/-- A step of a registration. What it has written stays, even if a later one fails. -/
abbrev Registration (α : Type) := ExceptT Registry.Fault (StateM Roster) α

def checkFree (ecosystem : String) : Registration Unit := do
  match (← get).readers.get? ecosystem with
  | some a => throw (.taken ecosystem a.name)
  | none => pure ()

def enterReader (a : Adapter) (ecosystem : String) : Registration Unit :=
  modify fun r => { r with readers := r.readers.put ecosystem a }

/-- Registers an adapter if all its ecosystems are free. -/
def register : Applicant → Registration Unit
  | .other shown => throw (.notAdapter shown)
  | .adapter a => do
    if a.ecosystems.isEmpty then throw (.noEcosystems a.name)
    a.ecosystems.forM checkFree
    a.ecosystems.forM (enterReader a)
    modify fun r => { r with adapters := r.adapters ++ [a] }

/-- The result of a registration and the roster after it. -/
def run {α : Type} (m : Registration α) (r : Roster) : Except Registry.Fault α × Roster :=
  (ExceptT.run m).run r

end Roster

namespace Registry

/-- The roster of a registry that has been filled. -/
def roster (r : Registry) : Roster where
  adapters := r.adapters
  readers := r.adapters.foldl (fun readers a => a.ecosystems.foldl (·.put · a) readers) []

def register (r : Registry) (a : Adapter) : Except Fault Registry :=
  let (result, after) := Roster.run (Roster.register (.adapter a)) r.roster
  result.map fun () => after.toRegistry

end Registry

end DocAtlas
