import DocAtlas.Run.Basic

/-!
The report of a run.
-/
namespace DocAtlas.Run.Result

def pages (r : Result) : List String := r.tree.walk.map (·.path)

def ofComponent (c : Component) : Json :=
  .object [("id", .text c.id), ("name", .text c.name), ("kind", .text c.role.label),
    ("source_path", .text c.path), ("operations", Json.texts (c.operations.map (·.signature)))]

def ofEdge (e : Edge) : Json :=
  .object [("source", .text e.source), ("target", .text e.target),
    ("kind", .text e.relation.label)]

def toJson (r : Result) : Json :=
  .object [("root", .text r.root.text), ("status", .text r.review.status),
    ("pages", Json.texts r.pages), ("abstractions", .list (r.graph.components.map ofComponent)),
    ("candidates", .int r.candidates), ("edges", .list (r.graph.edges.map ofEdge)),
    ("extends_cycles", .list (r.graph.cycles.map Json.texts)),
    ("diagrams", Json.texts (r.diagrams.map (·.name))),
    ("tutorial",
      .object [("basic", Json.texts r.plan.basic), ("advanced", Json.texts r.plan.advanced)]),
    ("unanalyzed", Json.texts r.unanalyzed),
    ("findings", .list (r.findings.map (·.toJson)))]

end DocAtlas.Run.Result
