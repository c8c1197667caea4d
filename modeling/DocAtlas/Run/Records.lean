import DocAtlas.Diagram.Views
import DocAtlas.Run.Basic

/-!
What the stages of a run write to the log.
-/
namespace DocAtlas.Run.Records
open Log

/-- The part of the program that leads a run. -/
def leader : String := "orchestrator"

def info (part message : String) : Record := ⟨.info, part, message⟩

def warning (part message : String) : Record := ⟨.warning, part, message⟩

def start (request : Request) : Record :=
  info leader ("Starting documentation run for " ++ request.shown)

/-! ### Scanning -/

def ofOmission (o : Scan.Omission) : Record :=
  warning "scanner" ("Skipping " ++ o.path ++ ": " ++ o.skip.reason)

def ofSnapshot (s : Scan.Snapshot) : List Record :=
  s.omitted.map ofOmission ++
    [info "scanner" ("Scanned " ++ s.root.text ++ ": " ++ toString s.units.length ++ " units, " ++
        toString s.excluded ++ " excluded"),
      ⟨.debug, leader, "Scanner discovered " ++ toString s.units.length ++ " units"⟩]

/-! ### Extraction -/

def ofExtraction (limits : Extract.Limits) (x : Extract.Extraction) : List Record :=
  let kept := x.components.length
  (if (kept : Int) < limits.fewest then
    [info "extractor" ("Only " ++ toString kept ++
      " abstraction(s) found; fewer than the preferred minimum of " ++ toString limits.fewest)]
  else []) ++
    [info "extractor" ("Extracted " ++ toString x.candidates ++ " candidate(s), surfaced " ++
      toString kept ++ ", " ++ toString x.unanalyzed.length ++ " unit(s) unanalyzed")]

/-! ### The graph and what is made of it -/

def ofGraph (g : Graph) : List Record :=
  g.cycles.map (fun c =>
    warning "graph" ("Inheritance cycle detected: " ++ String.intercalate " -> " c)) ++
    [info "graph" ("Built graph with " ++ toString g.components.length ++ " abstractions, " ++
      toString g.edges.length ++ " edges (" ++
      toString (g.findings.countP (·.kind = .unresolvedReference)) ++ " unresolved references)")]

def ofViews (g : Graph) : Record :=
  info "diagrams" ("Synthesized diagrams: system=" ++ toString g.systemView.nodes.length ++
    " nodes, interaction=" ++ toString g.interactionView.nodes.length ++ " nodes, sequence=" ++
    toString g.sequenceView.steps.length ++ " steps")

/-- A graph without components has nothing to teach. -/
def ofTutorial (t : Tutorial) : List Record :=
  if t.ordered.isEmpty then []
  else
    [info "tutorial" ("Tutorial plan: " ++ toString t.basic.length ++ " basic, " ++
      toString t.advanced.length ++ " advanced subject(s)")]

def ofTree (tree : Page) : Record :=
  info "renderer" ("Rendered " ++ toString tree.walk.length ++ " documentation page(s)")

def ofReview (r : Review.Report) : Record :=
  info "validators.crossref" ("Checked " ++ toString r.checked ++ " cross-reference(s): " ++
    toString r.dropped ++ " dropped, " ++ toString r.repaired ++ " repaired")

/-! ### The end of a run -/

def finished (result : Result) : Record :=
  info leader ("Run finished with status " ++ result.review.status ++ ": " ++
    toString result.tree.walk.length ++ " page(s), " ++ toString result.findings.length ++
    " finding(s)")

def aborted (stage : String) : Record :=
  warning leader ("Run aborted: " ++ Deadline.message stage)

end DocAtlas.Run.Records
