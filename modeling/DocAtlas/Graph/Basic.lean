import DocAtlas.Component
import DocAtlas.Finding
import DocAtlas.Text.Quoted

/-!
Dependency graphs: components with distinct ids and edges between different ones of them, none
given twice.
-/
namespace DocAtlas

inductive Graph.Fault where
  | repeatedId
  | selfEdge (id : String)
  | unknownEnd (edge : Edge)
  | repeatedEdge (edge : Edge)

/-- The key by which an edge is shown and sorted. -/
def Edge.key (e : Edge) : List String := [e.source, e.target, e.relation.label]

def Graph.Fault.message : Graph.Fault → String
  | .repeatedId => "Abstraction ids must be unique within a graph"
  | .selfEdge id => "Self edge is not allowed: " ++ id
  | .unknownEnd edge => "Edge references unknown abstraction: " ++ quotedTuple edge.key
  | .repeatedEdge edge => "Duplicate edge: " ++ quotedTuple edge.key

namespace Graph

/-- The first fault among edges, those before being `seen`. -/
def edgeFault? (ids : List String) : List Edge → List Edge → Option Fault
  | _, [] => none
  | seen, e :: rest =>
    if e.source = e.target then some (.selfEdge e.source)
    else if !(ids.contains e.source && ids.contains e.target) then some (.unknownEnd e)
    else if seen.contains e then some (.repeatedEdge e)
    else edgeFault? ids (e :: seen) rest

def distinct : List String → Bool
  | [] => true
  | id :: rest => !rest.contains id && distinct rest

def fault? (components : List Component) (edges : List Edge) : Option Fault :=
  let ids := components.map (·.id)
  if distinct ids then edgeFault? ids [] edges else some .repeatedId

end Graph

structure Graph where
  components : List Component
  edges : List Edge
  cycles : List (List String)
  findings : List Finding
  valid : Graph.fault? components edges = none

namespace Graph

def of? (components : List Component) (edges : List Edge) (cycles : List (List String))
    (findings : List Finding) : Except Fault Graph :=
  match h : fault? components edges with
  | none => .ok ⟨components, edges, cycles, findings, h⟩
  | some fault => .error fault

def ids (g : Graph) : List String := g.components.map (·.id)

def get? (g : Graph) (id : String) : Option Component := g.components.find? (·.id == id)

/-- The name of a component, or the id itself if there is none. -/
def nameOf (g : Graph) (id : String) : String := ((g.get? id).map (·.name)).getD id

/-- The edges of the given relations; of all relations if none is given. -/
def edgesOf (g : Graph) (relations : List Relation) : List Edge :=
  if relations.isEmpty then g.edges else g.edges.filter (relations.contains ·.relation)

def successors (g : Graph) (id : String) (relations : List Relation) : List String :=
  ((g.edgesOf relations).filter (·.source == id)).map (·.target)

def predecessors (g : Graph) (id : String) (relations : List Relation) : List String :=
  ((g.edgesOf relations).filter (·.target == id)).map (·.source)

def inDegree (g : Graph) (id : String) (relations : List Relation) : Nat :=
  (g.predecessors id relations).length

def outDegree (g : Graph) (id : String) (relations : List Relation) : Nat :=
  (g.successors id relations).length

def describe (g : Graph) : String :=
  "DependencyGraph(abstractions=" ++ toString g.components.length ++ ", edges=" ++
    toString g.edges.length ++ ")"

def sameAll {α : Type} (same : α → α → Bool) : List α → List α → Bool
  | [], [] => true
  | a :: as, b :: bs => same a b && sameAll same as bs
  | _, _ => false

def same (a b : Graph) : Bool :=
  sameAll Component.same a.components b.components && a.edges == b.edges &&
    a.cycles == b.cycles && sameAll Finding.same a.findings b.findings

/-- The edges of the given relations by source, and from one source by target, each in order of
first occurrence. -/
def groupedEdges (g : Graph) (relations : List Relation) : List Edge :=
  let edges := g.edgesOf relations
  g.ids.flatMap fun id =>
    let out := edges.filter (·.source == id)
    (out.map (·.target)).eraseDups.flatMap fun target => out.filter (·.target == target)

end Graph

end DocAtlas
