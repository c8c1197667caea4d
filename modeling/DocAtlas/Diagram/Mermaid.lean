import DocAtlas.Diagram.Basic
import DocAtlas.Text.Identifier
import DocAtlas.Text.Blank

/-!
Diagrams written in the mermaid notation.
-/
namespace DocAtlas.Diagram.Mermaid

/-- Identifiers hold ASCII letters, digits and underscores; any other character becomes an
underscore. -/
def identifier (s : String) : String :=
  String.ofList (s.toList.map fun c =>
    if Text.isAsciiLetter c || Text.isAsciiDigit c then c else '_')

/-- Labels stand between double quotes, so theirs become single ones. -/
def caption (s : String) : String := String.ofList (Text.replaceChar '"' '\'' s.toList)

def box (id label : String) : String := identifier id ++ "[\"" ++ caption label ++ "\"]"

def arrow : Relation → String
  | .uses => "-->"
  | .configures => "-.->"
  | .inherits => "==>"

def edgeLine (e : Edge) : String :=
  "    " ++ identifier e.source ++ " " ++ arrow e.relation ++ "|" ++ e.relation.label ++ "| " ++
    identifier e.target

def memberLine? (d : Diagram) (id : String) : Option String :=
  (d.nodes.find? (·.id == id)).map fun n => "        " ++ box n.id n.label

def groupLines (d : Diagram) (g : Group) : List String :=
  ["    subgraph " ++ box g.id g.label] ++ g.members.filterMap (memberLine? d) ++ ["    end"]

def isGrouped (d : Diagram) (id : String) : Bool := d.groups.any (·.members.contains id)

def flowLines (d : Diagram) : List String :=
  ["flowchart LR"] ++ d.groups.flatMap (groupLines d) ++
    (d.nodes.filter fun n => !isGrouped d n.id).map (fun n => "    " ++ box n.id n.label) ++
    d.edges.map edgeLine

def participantLine (n : Node) : String :=
  "    participant " ++ identifier n.id ++ " as " ++ caption n.label

def stepLine (s : Step) : String :=
  "    " ++ identifier s.source ++ "->>" ++ identifier s.target ++ ": " ++ toString s.index ++
    ". " ++ caption s.label

def sequenceLines (d : Diagram) : List String :=
  ["sequenceDiagram"] ++ d.nodes.map participantLine ++ d.steps.map stepLine

def lines (d : Diagram) : List String :=
  if d.kind = .sequence then sequenceLines d else flowLines d

end DocAtlas.Diagram.Mermaid

def DocAtlas.Diagram.mermaid (d : DocAtlas.Diagram) : String :=
  String.intercalate "\n" (Mermaid.lines d)
