import DocAtlas.Cli.Arguments

/-!
The commands and their options.
-/
namespace DocAtlas.Cli

inductive Verb where
  | generate
  | inspect
  | serve
deriving DecidableEq

def Verb.word : Verb → String
  | .generate => "generate"
  | .inspect => "inspect"
  | .serve => "serve"

def Verb.all : List Verb := [.generate, .inspect, .serve]

/-- What a command line chooses. -/
structure Choices where
  verbose : Bool := false
  path : String := "."
  most : Option Int := none
  repair : Bool := false
  seconds : Option Float := none
  output : Option String := none
  dryRun : Bool := false
  host : String := "127.0.0.1"
  port : Int := 8000

/-- A command with its choices. -/
structure Call where
  verb : Verb
  choices : Choices

def helpFlag : Flag Choices := ⟨["-h", "--help"], .help⟩

def verboseFlag : Flag Choices := ⟨["-v", "--verbose"], .mark fun c => { c with verbose := true }⟩

def mainFlags : List (Flag Choices) := [helpFlag, verboseFlag]

def runFlags : List (Flag Choices) :=
  [⟨["--max-abstractions"], .value "int" fun c s =>
      (Decimal.readInt? s).map fun n => { c with most := some n }⟩,
    ⟨["--auto-repair"], .mark fun c => { c with repair := true }⟩,
    ⟨["--deadline"], .value "float" fun c s =>
      (Decimal.readFloat? s).map fun x => { c with seconds := some x }⟩]

def writeFlags : List (Flag Choices) :=
  [⟨["--output"], .value "str" fun c s => some { c with output := some s }⟩,
    ⟨["--dry-run"], .mark fun c => { c with dryRun := true }⟩]

def serveFlags : List (Flag Choices) :=
  [⟨["--host"], .value "str" fun c s => some { c with host := s }⟩,
    ⟨["--port"], .value "int" fun c s => (Decimal.readInt? s).map fun n => { c with port := n }⟩]

def Verb.flags : Verb → List (Flag Choices)
  | .generate => mainFlags ++ runFlags ++ writeFlags
  | .inspect => mainFlags ++ runFlags
  | .serve => mainFlags ++ serveFlags

def Verb.takesPath : Verb → Bool
  | .serve => false
  | _ => true

def Verb.slot (v : Verb) : Slot Choices :=
  if v.takesPath then .text fun c s => { c with path := s } else .closed

/-! ### Usage -/

def programName : String := "repodoc"

def Verb.program (v : Verb) : String := programName ++ " " ++ v.word

/-- The name that stands for the value of an option. -/
def placeholder (f : Flag Choices) : String :=
  String.ofList (((f.names.getLastD "").toList.dropWhile (· == '-')).map fun c =>
    if c == '-' then '_' else c.toUpper)

def flagUsage (f : Flag Choices) : String :=
  "[" ++ f.names.headD "" ++ (if f.takesValue then " " ++ placeholder f else "") ++ "]"

def mainUsage : String :=
  "usage: " ++ String.intercalate " " (programName :: mainFlags.map flagUsage) ++ " \x7b" ++
    String.intercalate "," (Verb.all.map (·.word)) ++ "\x7d ..."

def Verb.usage (v : Verb) : String :=
  "usage: " ++ String.intercalate " " (v.program :: v.flags.map flagUsage) ++
    (if v.takesPath then " [path]" else "")

/-! ### Reading a command line -/

/-- Why a command line is not carried out: its usage is asked for, or something is wrong with it. -/
inductive Refusal where
  | help (usage : String)
  | wrong (usage program : String) (complaint : Complaint)

def Refusal.ofStop (usage program : String) : Stop → Refusal
  | .help => .help usage
  | .wrong c => .wrong usage program c

def refuseMain {α : Type} (c : Complaint) : Except Refusal α :=
  .error (.wrong mainUsage programName c)

def readWith (usage program : String) (flags : List (Flag Choices)) (slot : Slot Choices)
    (choices : Choices) (arguments : List String) : Except Refusal (Reading Choices) :=
  match read flags slot choices arguments with
  | .ok r => .ok r
  | .error stop => .error (.ofStop usage program stop)

/-- The command that a command line names. Arguments that nothing takes are refused at the end. -/
def Call.ofArguments (arguments : List String) : Except Refusal Call := do
  let before ← readWith mainUsage programName mainFlags .command {} arguments
  match before.command with
  | none => refuseMain .noCommand
  | some [] => refuseMain .noCommand
  | some (word :: rest) =>
    match Verb.all.find? (·.word == word) with
    | none => refuseMain (.unknownCommand word (Verb.all.map (·.word)))
    | some verb =>
      let after ← readWith verb.usage verb.program verb.flags verb.slot before.choices rest
      let extras := before.extras ++ after.extras
      if extras.isEmpty then return ⟨verb, after.choices⟩ else refuseMain (.unrecognized extras)

end DocAtlas.Cli
