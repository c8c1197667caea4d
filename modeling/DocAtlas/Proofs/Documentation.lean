import DocAtlas.Diagram.Views
import DocAtlas.Proofs.Claiming
import DocAtlas.Proofs.Cycles
import DocAtlas.Proofs.Edges
import DocAtlas.Proofs.Mapping
import DocAtlas.Proofs.Ranking
import DocAtlas.Proofs.Targets
import DocAtlas.Proofs.Teaching

/-!
From source units to reviewed documentation: every stage gives a result, and review finds nothing.
-/
namespace DocAtlas

/-! ### Extraction -/

namespace Extract

theorem extraction_nodup (limit : Nat) (units : List (SourceUnit × Outcome)) :
    (((gather units).extraction limit).components.map (·.id)).Nodup :=
  (gather_nodup units).sublist ((surface_sublist limit _ _).map _)

/-- No adapter that is asked sees the deadline pass. -/
def Patient (registry : Registry) (content : SourceUnit → String) (units : List SourceUnit) :
    Prop :=
  ∀ u ∈ units, ∀ a, registry.forEcosystem u.ecosystem = some a →
    ∀ stage, a.extract u (content u) ≠ .error (.expired stage)

theorem outcomeOf_ok {registry : Registry} {content : SourceUnit → String} {u : SourceUnit}
    (h : ∀ a, registry.forEcosystem u.ecosystem = some a →
      ∀ stage, a.extract u (content u) ≠ .error (.expired stage)) :
    ∃ o, outcomeOf registry content u = .ok o := by
  unfold outcomeOf
  cases ha : registry.forEcosystem u.ecosystem with
  | none => exact ⟨_, rfl⟩
  | some a =>
    dsimp only
    cases he : a.extract u (content u) with
    | ok y => exact ⟨_, rfl⟩
    | error failure =>
      cases failure with
      | expired stage => exact absurd he (h a ha stage)
      | error kind message => exact ⟨_, rfl⟩

theorem outcomes_ok {registry : Registry} {content : SourceUnit → String}
    {units : List SourceUnit} (h : Patient registry content units) :
    ∃ os, outcomes registry content units = .ok os := by
  apply exists_mapM_iff.mpr
  intro u hu
  obtain ⟨o, ho⟩ := outcomeOf_ok (h u (Order.mem_sort.mp hu))
  exact ⟨(u, o), by simp [ho, bind, Except.bind, pure, Except.pure]⟩

theorem extract_ok {registry : Registry} {limits : Limits} {content : SourceUnit → String}
    {units : List SourceUnit} (most : 1 ≤ limits.most)
    (workers : ∀ n, limits.workers = some n → 1 ≤ n) (patient : Patient registry content units) :
    ∃ os, extract registry limits content units =
      .ok ((gather os).extraction limits.most.toNat) := by
  obtain ⟨os, ho⟩ := outcomes_ok patient
  have hcheck : limits.check = .ok () := by
    rw [Limits.check, if_neg (by omega)]
  have hworkers : limits.checkWorkers units = .ok () := by
    unfold Limits.checkWorkers
    cases hw : limits.workers with
    | none => rfl
    | some n =>
      have hn := workers n hw
      simp [Int.not_lt.mpr hn]
  refine ⟨os, ?_⟩
  simp only [extract, hcheck, hworkers, ho, bind, Except.bind]

end Extract

/-! ### The documentation -/

/-- Components without a shared id have a graph, and its cycles go through these components only. -/
theorem Graph.exists_build {components : List Component} (mentions : List Mention)
    (hd : (components.map (·.id)).Nodup) :
    ∃ g, build components mentions = .ok g ∧ ∀ cycle ∈ g.cycles, cycle ⊆ g.ids := by
  obtain ⟨g, hg, hcomponents, -, hcycles⟩ := build_eq_ok mentions hd
  refine ⟨g, hg, fun cycle hc => ?_⟩
  rw [hcycles] at hc
  rw [ids, hcomponents]
  exact Inheritance.findCycles_subset hc

/-- For whatever units, and whatever adapters answer for them in time: extraction, the graph, the
diagrams, the tutorial and the pages all come out, and review leaves the pages as they are. The
tutorial measures distances from roots that exist. -/
theorem documentation_valid (registry : Registry) (limits : Extract.Limits)
    (content : SourceUnit → String) (units : List SourceUnit) (name : Option String)
    (policy : Review.Policy) (like : Review.Likeness) (most : 1 ≤ limits.most)
    (workers : ∀ n, limits.workers = some n → 1 ≤ n)
    (patient : Extract.Patient registry content units) :
    ∃ x g, Extract.extract registry limits content units = .ok x ∧
      Graph.build x.components x.mentions = .ok g ∧
      (g.ids ≠ [] → Tutorial.roots g ≠ [] ∧ Tutorial.roots g ⊆ g.ids) ∧
      let tree := Document.render g g.views (Tutorial.ofGraph g) name
      (tree.walk.map Page.path).Nodup ∧
        (∀ r ∈ tree.references, ∃ p ∈ tree.walk, p.path = r.target) ∧
        ∃ report, Review.review policy like tree = .ok (tree, report) ∧
          report.status = "valid" ∧ report.findings = [] ∧ report.dropped = 0 ∧
          report.repaired = 0 ∧ report.checked = tree.references.length := by
  obtain ⟨os, hx⟩ := Extract.extract_ok most workers patient
  obtain ⟨g, hg, hwithin⟩ :=
    Graph.exists_build ((Extract.gather os).extraction limits.most.toNat).mentions
      (Extract.extraction_nodup limits.most.toNat os)
  have hsound := Document.render_sound g.views (Tutorial.ofGraph g) name hwithin
  refine ⟨_, g, hx, hg, fun h => ⟨Tutorial.roots_ne_nil h, fun _ hid => (Tutorial.mem_roots.mp hid).1⟩,
    hsound.distinct, ?_, Review.soundReport _, Review.review_sound policy like hsound, rfl, rfl,
    rfl, rfl, rfl⟩
  intro r hr
  exact List.mem_map.mp (hsound.references r hr)

/-- Finds a component of one and the same id in every file, but fails on one of them. -/
def sharingAdapter : Adapter where
  name := "sharing"
  ecosystems := ["python"]
  extract := fun u _ =>
    if u.path = "broken.py" then .error (.error "ValueError" "unreadable")
    else .ok ⟨[{ id := "store", name := "Store", role := .store, path := u.path }],
      [⟨"store", "Store", .uses⟩]⟩

def sharingUnits : List SourceUnit :=
  [⟨"orders.py", some "python", 0, ""⟩, ⟨"orders/store.py", some "python", 0, ""⟩,
    ⟨"broken.py", some "python", 0, ""⟩, ⟨"notes.txt", none, 0, ""⟩]

theorem sharing_patient : Extract.Patient ⟨[sharingAdapter]⟩ (fun _ => "") sharingUnits := by
  intro u _ a ha stage he
  obtain ⟨ecosystem, -, hl⟩ := Option.bind_eq_some_iff.mp ha
  have hm := List.mem_of_find?_eq_some hl
  rw [List.mem_singleton.mp hm] at he
  simp only [sharingAdapter] at he
  split at he <;> cases he

/-- Components of one id, a failing adapter and a file that none reads. -/
theorem documentation_of_shared_ids :
    (1 : Int) ≤ 15 ∧ Extract.Patient ⟨[sharingAdapter]⟩ (fun _ => "") sharingUnits ∧
      ∃ x g, Extract.extract ⟨[sharingAdapter]⟩ {} (fun _ => "") sharingUnits = .ok x ∧
        Graph.build x.components x.mentions = .ok g ∧
        (g.ids ≠ [] → Tutorial.roots g ≠ [] ∧ Tutorial.roots g ⊆ g.ids) ∧
        let tree := Document.render g g.views (Tutorial.ofGraph g) (some "Orders")
        (tree.walk.map Page.path).Nodup ∧
          (∀ r ∈ tree.references, ∃ p ∈ tree.walk, p.path = r.target) ∧
          ∃ report, Review.review ⟨true, 1⟩ Review.likeness tree = .ok (tree, report) ∧
            report.status = "valid" ∧ report.findings = [] ∧ report.dropped = 0 ∧
            report.repaired = 0 ∧ report.checked = tree.references.length := by
  refine ⟨by decide, sharing_patient, ?_⟩
  apply documentation_valid
  · decide
  · intro n h
    cases h
  · exact sharing_patient

end DocAtlas
