import DocAtlas.Component

/-!
Diagrams as data, free of any drawing notation.
-/
namespace DocAtlas

inductive Diagram.Kind where
  | system
  | interaction
  | sequence
deriving DecidableEq

def Diagram.Kind.label : Diagram.Kind → String
  | .system => "system"
  | .interaction => "interaction"
  | .sequence => "sequence"

structure Diagram.Node where
  id : String
  label : String
  boundary : Bool := false
  group : Option String := none
deriving DecidableEq

/-- One call in a sequence diagram. -/
structure Diagram.Step where
  index : Int
  source : String
  target : String
  label : String
deriving DecidableEq

structure Diagram.Group where
  id : String
  label : String
  members : List String
deriving DecidableEq

structure Diagram where
  name : String
  kind : Diagram.Kind
  title : String
  nodes : List Diagram.Node := []
  edges : List Edge := []
  steps : List Diagram.Step := []
  groups : List Diagram.Group := []
deriving DecidableEq

end DocAtlas
