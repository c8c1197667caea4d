import DocAtlas.Indented.Printer
import DocAtlas.Indented.Reference

/-!
The environment variables that a piece of code reads.
-/
namespace DocAtlas.Indented

/-- A text constant; code points that are no characters are replaced. -/
def Term.text? : Term → Option String
  | .constant (.text value _) =>
    some (String.ofList (value.map fun n =>
      if n.isValidChar then Char.ofNat n else Char.ofNat 0xFFFD))
  | _ => none

/-- The functions that look up an environment variable, and the mappings that hold them. -/
def lookupFunctions : List String := ["os.getenv", "getenv", "os.environ.get", "environ.get"]

def lookupMappings : List String := ["os.environ", "environ"]

/-- The variable that a node reads, and the default it gives. -/
def Node.variable? : Node → Option (String × Option Term)
  | .term (.call function (first :: rest) _) =>
    if function.dotted?.any lookupFunctions.contains then first.text?.map (·, rest.head?) else none
  | .term (.subscript value index) =>
    if value.dotted?.any lookupMappings.contains then index.text?.map (·, none) else none
  | _ => none

/-- What is said of a variable, and of its default if it has one. -/
def withDefault (what : String) : Option Term → Except Printer.Fault String
  | some t => return what ++ ", defaults to " ++ (← t.text)
  | none => .ok what

/-- Enters the variable that a node reads unless it is known. -/
def enterVariable (known : Keyed String) (n : Node) : Except Printer.Fault (Keyed String) :=
  match n.variable? with
  | some (name, default) =>
    if name == "" || known.has name then .ok known
    else return known.put name (← withDefault "read from the environment" default)
  | none => .ok known

/-- The variables that statements read, statement by statement. -/
def environment (body : List Statement) : Except Printer.Fault (Keyed String) :=
  ((Node.statements body).flatMap Node.walk).foldlM enterVariable []

end DocAtlas.Indented
