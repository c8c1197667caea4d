import DocAtlas.Order
import DocAtlas.Indented.Import

/-!
What the names and attributes in a piece of code refer to.
-/
namespace DocAtlas.Indented

/-- What names can stand for: those bound by imports, and the types beside them in the module
`home`. -/
structure Scope where
  imports : Keyed String
  home : String
  siblings : List String

/-- The text before the first `sep`. -/
def beforeFirst (sep : Char) (s : String) : String := (splitText sep s).headD ""

/-- The dotted name that an expression refers to, if its first name is known; what follows a bracket
does not count. -/
def Scope.qualify? (scope : Scope) (expression : String) : Option String :=
  let dotted := beforeFirst '[' expression
  let root := beforeFirst '.' dotted
  match scope.imports.get? root with
  | some target =>
    let rest := String.ofList (dotted.toList.drop (root.length + 1))
    some (if rest == "" then target else target ++ "." ++ rest)
  | none =>
    if scope.siblings.contains root then some (below scope.home dotted) else none

/-- Attributes of attributes of a name, as a dotted name. -/
def Term.dotted? : Term → Option String
  | .name _ id => some id
  | .attribute _ value attr => value.dotted?.map (· ++ "." ++ attr)
  | _ => none

/-- A dotted name and where it stands. -/
structure Use where
  spot : Spot
  target : String

def Node.use? (scope : Scope) (n : Node) : Option Use :=
  let found := fun (spot : Spot) (dotted : Option String) =>
    ((dotted.bind scope.qualify?).filter (· != "")).map (Use.mk spot)
  match n with
  | .term (.name spot id) => found spot (some id)
  | .term (.attribute spot value attr) => found spot (Term.dotted? (.attribute spot value attr))
  | _ => none

/-- The order of the source; at one place by target. -/
def Use.order : Use → Use → Ordering :=
  Order.andThen (Order.byNat (·.spot.line))
    (Order.andThen (Order.byNat (·.spot.column)) (Order.byText Use.target))

def uses (scope : Scope) (nodes : List Node) : List Use :=
  Order.sort Use.order ((nodes.flatMap Node.walk).filterMap (Node.use? scope))

/-- Whether a dotted name goes on from another one. -/
def extendsName (base longer : String) : Bool := startsWith longer (base ++ ".")

/-- Enters a target unless a longer spelling of it is known; shorter ones give way. -/
def enterTarget (targets : List String) (target : String) : List String :=
  if targets.any fun known => known == target || extendsName target known then targets
  else targets.filter (fun known => !extendsName known target) ++ [target]

/-- The targets that nodes refer to, each in its longest spelling. -/
def references (scope : Scope) (nodes : List Node) : List String :=
  ((uses scope nodes).map Use.target).foldl enterTarget []

end DocAtlas.Indented
