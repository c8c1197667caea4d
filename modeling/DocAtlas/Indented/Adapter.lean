import DocAtlas.Component.Inference
import DocAtlas.Extract.Adapter
import DocAtlas.Indented.Environment
import DocAtlas.Indented.Lexer
import DocAtlas.Indented.Parser.Statement
import DocAtlas.Text.NormalForm

/-!
The components of Python sources: their public classes, or else the module itself if it has public
functions.
-/
namespace DocAtlas.Indented
open Text

/-! ### Descriptions -/

/-- Tabs become blanks up to the next multiple of eight columns. -/
def expandTabs : Nat → List Char → List Char
  | _, [] => []
  | column, c :: rest =>
    if c == '\t' then
      let width := 8 - column % 8
      List.replicate width ' ' ++ expandTabs (column + width) rest
    else if c == '\n' || c == '\r' then c :: expandTabs 0 rest
    else c :: expandTabs (column + 1) rest

/-- How far a line is indented, if it has anything on it. -/
def indentOf? (line : List Char) : Option Nat :=
  let content := trimStart line
  if content.isEmpty then none else some (line.length - content.length)

/-- The lines of a description without the indentation that they share but for the first. -/
def unindent (s : List Char) : List (List Char) :=
  match splitAt '\n' (expandTabs 0 s) with
  | [] => []
  | first :: rest =>
    let margin := (rest.filterMap indentOf?).min?.getD 0
    trimStart first :: rest.map (List.drop margin)

/-- Without empty lines at both ends. -/
def trimLines (ls : List (List Char)) : List (List Char) :=
  ((ls.dropWhile List.isEmpty).reverse.dropWhile List.isEmpty).reverse

def firstParagraph (s : List Char) : List Char :=
  match cut? ['\n', '\n'] s with
  | some (first, _) => first
  | none => s

/-- The short form of a description: its first paragraph. -/
def shortDescription (s : String) : String :=
  boundPurpose (String.ofList (firstParagraph (trim (join ['\n'] (trimLines (unindent s.toList))))))

/-- The text that a body begins with describes it. -/
def description (body : List Statement) : String :=
  match body with
  | .expression t :: _ => (t.text?.map shortDescription).getD ""
  | _ => ""

/-! ### Operations -/

def parameterText (p : Parameter) : Except Printer.Fault String :=
  match p.typed with
  | some t => return p.name ++ ": " ++ (← t.text)
  | none => .ok p.name

/-- The object that a method belongs to is not listed. -/
def withoutReceiver : List Parameter → List Parameter
  | p :: rest => if p.name == "self" || p.name == "cls" then rest else p :: rest
  | [] => []

/-- The parameters, with stars for further ones; a lone star stands before those given by name only.
-/
def Signature.texts (s : Signature) : Except Printer.Fault (List String) := do
  let plain ← (withoutReceiver (s.positionalOnly ++ s.positional)).mapM parameterText
  let rest ← match s.rest with
    | some p => do pure ["*" ++ (← parameterText p)]
    | none => pure (if s.namedOnly.isEmpty then [] else ["*"])
  let named ← s.namedOnly.mapM parameterText
  let last ← match s.namedRest with
    | some p => do pure ["**" ++ (← parameterText p)]
    | none => pure []
  return plain ++ rest ++ named ++ last

def isPublic (name : String) : Bool := !startsWith name "_"

/-- A public function as an operation. -/
def Statement.operation? : Statement → Option (Except Printer.Fault Operation)
  | .function name signature _ _ returns =>
    if isPublic name then
      some do
        let parameters ← signature.texts
        let returns ← match returns with
          | some t => t.text
          | none => pure unspecified
        return ⟨name, parameters, returns⟩
    else none
  | _ => none

def operations (body : List Statement) : Except Printer.Fault (List Operation) :=
  (body.filterMap Statement.operation?).mapM id

/-! ### Configuration keys -/

/-- Enters the fields that a statement of a configuration class declares: those with a type unless
they are private, and constants in capital letters. -/
def enterField (known : Keyed String) : Statement → Except Printer.Fault (Keyed String)
  | .annotate (.name _ id) type value => do
    if isPublic id then return known.put id (← withDefault (← type.text) value) else return known
  | .assign targets value =>
    targets.foldlM (fun known target => do
      match target with
      | .name _ id =>
        if Case.isUpperText id.toList then return known.put id ("defaults to " ++ (← value.text))
        else return known
      | _ => return known) known
  | _ => .ok known

def classSettings (role : Role) (body : List Statement) : Except Printer.Fault (Keyed String) := do
  let fields ← if role = .config then body.foldlM enterField [] else pure []
  return fields.putAll (← environment body)

/-! ### Components -/

/-- A public class of a source. -/
structure Class where
  name : String
  bases : List Term
  body : List Statement

def Statement.publicClass? : Statement → Option Class
  | .type name bases _ body _ => if isPublic name then some ⟨name, bases, body⟩ else none
  | _ => none

/-- A class as a component, and what it mentions: its bases, then what its body refers to. -/
def Class.yield (unit : SourceUnit) (scope : Scope) (c : Class) : Except Printer.Fault Yield := do
  let scope := { scope with siblings := scope.siblings.filter (· != c.name) }
  let bases ← c.bases.mapM Term.text
  let role := Role.infer c.name unit.path bases
  let id := componentId unit.path c.name
  let component : Component := {
    id := id
    name := c.name
    role := role
    purpose := description c.body
    operations := ← operations c.body
    settings := ← classSettings role c.body
    path := unit.path
    ecosystem := unit.ecosystem }
  let parents := (bases.filterMap scope.qualify?).filter (· != "")
  return ⟨[component], parents.map (⟨id, ·, .inherits⟩) ++
    mentionsOf id (references scope (Node.statements c.body))⟩

/-- A source without public classes as a component, if it has public functions. -/
def sourceYield (unit : SourceUnit) (scope : Scope) (body : List Statement) :
    Except Printer.Fault Yield := do
  let functions := body.filter fun s => s.operation?.isSome
  if functions.isEmpty then return {}
  else
    let name := sourceName unit.path
    let id := componentId unit.path name
    let component : Component := {
      id := id
      name := name
      role := Role.infer name unit.path []
      purpose := description body
      operations := ← operations functions
      settings := ← environment body
      path := unit.path
      ecosystem := unit.ecosystem }
    return ⟨[component], mentionsOf id (references scope (Node.statements functions))⟩

def yieldOf (unit : SourceUnit) (body : List Statement) : Except Printer.Fault Yield := do
  let classes := body.filterMap Statement.publicClass?
  let scope : Scope := {
    imports := importedNames unit.path body
    home := modulePath unit.path
    siblings := classes.map Class.name }
  if classes.isEmpty then sourceYield unit scope body
  else
    let yields ← classes.mapM (Class.yield unit scope)
    return ⟨yields.flatMap Yield.components, yields.flatMap Yield.mentions⟩

/-- Characters with names are not known; a literal that asks for one stands for a replacement. -/
def sourceNames : Lexer.Names where
  named := fun name => if name.isEmpty then none else some 0xFFFD
  normal := Text.NormalForm.normalForm

def statementsOf? (content : String) : Option (List Statement) :=
  (Lexer.lexemes? sourceNames content.toList).bind statements?

def extract (unit : SourceUnit) (content : String) : Except Failure Yield :=
  match statementsOf? content with
  | none => .error (.error "AdapterError" ("Cannot parse " ++ unit.path ++ ": invalid syntax"))
  | some body =>
    match yieldOf unit body with
    | .ok yield => .ok yield
    | .error fault => .error (.error "ValueError" fault.message)

end DocAtlas.Indented

namespace DocAtlas

def Adapter.python : Adapter := ⟨"python", ["python"], Indented.extract⟩

end DocAtlas
