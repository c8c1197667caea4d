import DocAtlas.Keyed

/-!
The components of a software project and the relations between them.
-/
namespace DocAtlas

inductive Role where
  | general
  | service
  | utility
  | store
  | config
deriving DecidableEq

def Role.label : Role → String
  | .general => "module"
  | .service => "service"
  | .utility => "utility"
  | .store => "store"
  | .config => "config"

/-- A public operation; `returns` says what it gives back. -/
structure Operation where
  name : String
  parameters : List String
  returns : String
deriving DecidableEq

/-- What is said to be returned where the source says nothing. -/
def unspecified : String := "unspecified"

def Operation.signature (o : Operation) : String :=
  o.name ++ "(" ++ String.intercalate ", " o.parameters ++ ") -> " ++ o.returns

structure Component where
  id : String
  name : String
  role : Role
  purpose : String := ""
  operations : List Operation := []
  /-- Configuration keys and their effects. -/
  settings : Keyed String := []
  path : String := ""
  ecosystem : Option String := none
deriving DecidableEq

/-- Equality in which the order of configuration keys does not count. -/
def Component.same (a b : Component) : Bool :=
  a.id == b.id && a.name == b.name && a.role == b.role && a.purpose == b.purpose &&
    a.operations == b.operations && a.path == b.path && a.ecosystem == b.ecosystem &&
    a.settings.length == b.settings.length &&
    a.settings.all fun entry => b.settings.get? entry.1 == some entry.2

inductive Relation where
  | uses
  | configures
  | inherits
deriving DecidableEq

def Relation.label : Relation → String
  | .uses => "uses"
  | .configures => "configures"
  | .inherits => "extends"

/-- A directed relation between two components, given by their ids. -/
structure Edge where
  source : String
  target : String
  relation : Relation
deriving DecidableEq

/-- A claim that the component `source` refers to something by the dotted name `target`. -/
structure Mention where
  source : String
  target : String
  relation : Relation := .uses
deriving DecidableEq

end DocAtlas
