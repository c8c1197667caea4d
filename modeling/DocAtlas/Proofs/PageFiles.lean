import DocAtlas.Diagram.Views
import DocAtlas.Document.Review
import DocAtlas.Markdown.Page
import DocAtlas.Proofs.Candidates
import DocAtlas.Proofs.Declaring
import DocAtlas.Proofs.Edges
import DocAtlas.Proofs.FilePaths
import DocAtlas.Proofs.Outline
import DocAtlas.Proofs.Ranking
import DocAtlas.Proofs.Slugs

/-!
Where the pages on the components of a repository are written: ids are made of small letters, digits
and hyphens, so that every page has a file of its own below the directory asked for.
-/
namespace DocAtlas

/-! ### Ids -/

/-- The ids of the components are derived from a path and a name. -/
def Derived (cs : List Component) : Prop := ∀ c ∈ cs, ∃ path name, c.id = componentId path name

namespace Extract

/-- All ids given so far are made of the characters of slugs. -/
structure Claiming.Clean (s : Claiming) : Prop where
  known : ∀ id ∈ s.gathered.ids, IsIdText id
  renamed : ∀ id new, s.renamed.get? id = some new → IsIdText new

theorem numbered_idText {id : String} (h : IsIdText id) (n : Nat) : IsIdText (numbered id n) :=
  (h.append idText_hyphen).append (idText_number n)

theorem Claiming.Clean.claim {s : Claiming} (h : s.Clean) {c : Component} (hc : IsIdText c.id) :
    (s.claim c).Clean := by
  obtain ⟨id, renamed, hnames, hr, -, hk⟩ := s.claim_spec c
  have hgiven : IsIdText id ∧ ∀ old new, renamed.get? old = some new → IsIdText new := by
    cases hnames with
    | renamed given => exact ⟨h.renamed c.id id given, h.renamed⟩
    | own new mine => exact ⟨hc, h.renamed⟩
    | numbered new known foreign least number free =>
      have hid : IsIdText id := number ▸ numbered_idText hc _
      refine ⟨hid, fun old new hg => ?_⟩
      rcases Keyed.eq_of_get?_concat hg with hold | ⟨-, rfl⟩
      · exact h.renamed old new hold
      · exact hid
  refine ⟨?_, hr ▸ hgiven.2⟩
  rw [Gathered.ids, hk]
  split
  · exact h.known
  · rw [List.map_append, List.map_singleton, List.forall_mem_append, List.forall_mem_singleton]
    exact ⟨h.known, hgiven.1⟩

theorem Gathered.add_clean {g : Gathered} (h : ∀ id ∈ g.ids, IsIdText id)
    {u : SourceUnit × Outcome} (hu : Derived u.2.components) :
    ∀ id ∈ (g.add u).ids, IsIdText id := by
  rw [Gathered.ids, Gathered.add_known]
  refine (List.foldlRecOn (motive := Claiming.Clean) _ _ ⟨h, ?_⟩ fun s hs c hc => ?_).known
  · intro id new hg
    cases hg
  · obtain ⟨path, name, he⟩ := hu c hc
    exact hs.claim (he ▸ componentId_idText path name)

theorem gather_clean {units : List (SourceUnit × Outcome)}
    (h : ∀ u ∈ units, Derived u.2.components) : ∀ id ∈ (gather units).ids, IsIdText id :=
  List.foldlRecOn (motive := fun g : Gathered => ∀ id ∈ g.ids, IsIdText id) _ _
    (List.forall_mem_nil _) fun _ hg u hu => Gathered.add_clean hg (h u hu)

end Extract

/-! ### The adapters that are always available -/

theorem derived_singleton {c : Component} (path name : String) (h : c.id = componentId path name) :
    Derived [c] := by
  intro d hd
  rw [List.mem_singleton.mp hd]
  exact ⟨path, name, h⟩

/-- A registry of such adapters reads derived ids only, whatever stands in the sources. -/
theorem derived_of_builtin {registry : Registry} (hr : registry.adapters ⊆ builtinAdapters)
    {content : SourceUnit → String} {u : SourceUnit} {y : Yield}
    (h : Extract.outcomeOf registry content u = .ok (.read y)) : Derived y.components :=
  fun c hc => ⟨u.path, c.name, (declaredIn_of_builtin hr h c hc).2⟩

/-! ### Files -/

namespace Document

theorem downward_fixed : ∀ path ∈ opening ++ closing, Path.IsDownward (path ++ ".md") := by
  unfold Path.IsDownward
  decide +kernel

theorem downward_componentPath {id : String} (h : IsIdText id) :
    Path.IsDownward (Outline.componentPath id ++ ".md") := by
  have hpath : Outline.componentPath id ++ ".md" =
      "technical/components" ++ "/" ++ (id ++ ".md") := by
    have hdirectory : "technical/components" ++ "/" = "technical/components/" := rfl
    rw [hdirectory]
    exact String.append_assoc
  have hslash : '/' ∉ (id ++ ".md").toList := by
    intro hm
    rw [String.toList_append] at hm
    rcases List.mem_append.mp hm with hid | hmd
    · exact absurd (h '/' hid) (by simp [Text.Slug.IsMark, Text.Slug.isPlain])
    · exact absurd hmd (by decide)
  have hlength : 3 ≤ (id ++ ".md").length := by
    have hsuffix : (".md" : String).length = 3 := rfl
    rw [String.length_append]
    omega
  rw [Path.IsDownward, hpath, Path.segments_append, Path.segments_of_no_slash hslash,
    List.forall_mem_append, List.forall_mem_singleton]
  refine ⟨by decide +kernel, ?_, ?_, ?_⟩
  all_goals
    intro he
    rw [he] at hlength
    exact absurd hlength (by decide)

theorem downward_paths {g : Graph} (h : ∀ id ∈ g.ids, IsIdText id) {path : String}
    (hp : path ∈ paths g) : Path.IsDownward (path ++ ".md") := by
  rcases mem_paths.mp hp with hf | ⟨id, hid, rfl⟩
  · exact downward_fixed path hf
  · exact downward_componentPath (h id hid)

end Document

/-! ### Planning -/

theorem Markdown.paths_of_mapM {diagrams : List Diagram} {pages : List Page} {texts : Keyed String}
    (h : (pages.mapM fun p => do return (p.path, ← Markdown.pageText diagrams p)) = .ok texts) :
    texts.map (·.1) = pages.map Page.path := by
  induction pages generalizing texts with
  | nil =>
    cases h
    rfl
  | cons p rest ih =>
    obtain ⟨entry, entries, hp, hrest, rfl⟩ := mapM_cons_ok.mp h
    obtain ⟨text, -, hp⟩ := bind_ok.mp hp
    cases hp
    rw [List.map_cons, List.map_cons, ih hrest]

/-- The texts of pages with distinct paths stand under these, in the order of the walk. -/
theorem Markdown.paths_of_pageTexts {diagrams : List Diagram} {tree : Page}
    (hd : (tree.walk.map Page.path).Nodup) {pages : Keyed String}
    (h : Markdown.pageTexts diagrams tree = .ok pages) :
    pages.map (·.1) = tree.walk.map Page.path := by
  obtain ⟨texts, htexts, h⟩ := bind_ok.mp h
  have hpaths := Markdown.paths_of_mapM htexts
  cases h
  have hkept : Keyed.ofList texts = texts := Keyed.putAll_of_nodup (k := []) (hpaths ▸ hd)
  rw [hkept, hpaths]

/-- Every page of a tree has a file of its own beneath `out`, and these are the files planned. -/
structure Site.Planned (out : String) (tree : Page) : Prop where
  distinct : ((tree.walk.map Page.path).map (Site.filePath out)).Nodup
  beneath : ∀ p ∈ tree.walk, Site.Beneath out p.path
  planned : ∀ diagrams pages, Markdown.pageTexts diagrams tree = .ok pages →
    (Site.files out pages).map (·.1) = (tree.walk.map Page.path).map (Site.filePath out)

theorem Site.planned_of_paths {g : Graph} (hg : ∀ id ∈ g.ids, IsIdText id) {tree : Page}
    (ht : tree.walk.map Page.path = Document.paths g) (out : String) : Site.Planned out tree := by
  have hnodup : (tree.walk.map Page.path).Nodup := ht ▸ Document.paths_nodup g
  have hbeneath : ∀ path ∈ tree.walk.map Page.path, Site.Beneath out path := fun path hp =>
    Site.beneath out (Document.downward_paths hg (ht ▸ hp))
  refine ⟨?_, fun p hp => hbeneath _ (List.mem_map_of_mem hp), ?_⟩
  · exact hnodup.map_on fun a ha b hb he => (hbeneath a ha).inj (hbeneath b hb) he
  · intro diagrams pages hpages
    rw [← Markdown.paths_of_pageTexts hnodup hpages, Site.files]
    simp only [List.map_map, Function.comp_def]

/-- The documentation of a graph as it is rendered, before or after its review. -/
def Document.Documents (g : Graph) (tree : Page) : Prop :=
  ∃ diagrams plan name, tree = Document.render g diagrams plan name ∨
    ∃ policy like report,
      Review.review policy like (Document.render g diagrams plan name) = .ok (tree, report)

theorem Document.Documents.paths {g : Graph} {tree : Page} (h : Document.Documents g tree) :
    tree.walk.map Page.path = Document.paths g := by
  obtain ⟨diagrams, plan, name, rfl | ⟨policy, like, report, hr⟩⟩ := h
  · exact Document.walk_paths g diagrams plan name
  · unfold Review.review at hr
    split at hr
    · cases hr
    · cases hr
      rw [Page.paths_mapBlocks, Document.walk_paths]

/-- Slugs are their own slugs, and ids are empty or runs of small letters and digits joined by
single hyphens. Wherever all ids are derived, those given in the end are distinct texts of such
characters, so every page of the documentation has a file of its own below the directory asked for.
-/
theorem planned_of_extract :
    (∀ s, slug (slug s) = slug s) ∧
      (∀ path name, componentId path name = "" ∨ IsKebab (componentId path name)) ∧
      ∀ registry limits content units x, Extract.extract registry limits content units = .ok x →
        (∀ u ∈ units, ∀ y, Extract.outcomeOf registry content u = .ok (.read y) →
          Derived y.components) →
        ∃ os g, Extract.outcomes registry content units = .ok os ∧
          (Extract.gather os).ids.Nodup ∧ (∀ id ∈ (Extract.gather os).ids, IsIdText id) ∧
          Graph.build x.components x.mentions = .ok g ∧
          g.ids.Sublist (Extract.gather os).ids ∧
          ∀ tree, Document.Documents g tree → ∀ out, Site.Planned out tree := by
  refine ⟨slug_slug, componentId_kebab, fun registry limits content units x hx derived => ?_⟩
  obtain ⟨os, hos, rfl⟩ := Extract.extract_eq_ok hx
  obtain ⟨hunits, hread⟩ := Extract.outcomes_units hos
  have hderived : ∀ u ∈ os, Derived u.2.components := by
    intro u hu
    have hunit : u.1 ∈ units := by
      apply Order.mem_sort.mp
      exact hunits ▸ List.mem_map_of_mem hu
    cases ho : u.2 with
    | unsupported => exact List.forall_mem_nil _
    | failed finding => exact List.forall_mem_nil _
    | read y => exact derived u.1 hunit y (ho ▸ hread u hu)
  have hnodup := Extract.gather_nodup os
  have hclean := Extract.gather_clean hderived
  have hsub : (((Extract.gather os).extraction limits.most.toNat).components.map (·.id)).Sublist
      (Extract.gather os).ids :=
    (Extract.surface_sublist _ _ _).map _
  obtain ⟨g, hg, hcomponents, -⟩ := Graph.build_eq_ok
    ((Extract.gather os).extraction limits.most.toNat).mentions (hnodup.sublist hsub)
  have hids : g.ids.Sublist (Extract.gather os).ids := by
    rw [Graph.ids, hcomponents]
    exact hsub
  exact ⟨os, g, hos, hnodup, hclean, hg, hids, fun tree ht out =>
    Site.planned_of_paths (fun id hid => hclean id (hids.subset hid)) ht.paths out⟩

/-- Two files whose classes derive one id. -/
def twinFiles : Keyed Yield :=
  ["orders.py", "orders/store.py"].map fun path =>
    (path, ⟨[Extract.plainComponent path (componentId path "Store")], []⟩)

theorem derived_twin (path : String) :
    Derived [Extract.plainComponent path (componentId path "Store")] := by
  refine derived_singleton path "Store" ?_
  dsimp only [Extract.plainComponent]

def twinUnits : List SourceUnit := ["orders/store.py", "orders.py"].map Extract.pythonUnit

def twinOutcomes : List (SourceUnit × Extract.Outcome) :=
  twinFiles.map fun file => (Extract.pythonUnit file.1, .read file.2)

theorem outcomes_twin :
    Extract.outcomes ⟨[Extract.scriptedAdapter twinFiles]⟩ (fun _ => "") twinUnits =
      .ok twinOutcomes := by
  have hsort : Extract.sortUnits twinUnits =
      [Extract.pythonUnit "orders.py", Extract.pythonUnit "orders/store.py"] :=
    Order.sort_eq_of_perm (List.Perm.swap _ _ _) (by decide)
  rw [Extract.outcomes, hsort]
  rfl

theorem extract_twin :
    Extract.extract ⟨[Extract.scriptedAdapter twinFiles]⟩ {} (fun _ => "") twinUnits =
      .ok ((Extract.gather twinOutcomes).extraction 15) := by
  simp only [Extract.extract, outcomes_twin]
  rfl

theorem planned_of_extract_twin :
    ∃ x os g, Extract.extract ⟨[Extract.scriptedAdapter twinFiles]⟩ {} (fun _ => "") twinUnits =
        .ok x ∧
      Extract.outcomes ⟨[Extract.scriptedAdapter twinFiles]⟩ (fun _ => "") twinUnits = .ok os ∧
      (Extract.gather os).ids = ["orders-store", "orders-store-2"] ∧
      (∀ id ∈ (Extract.gather os).ids, IsIdText id) ∧
      Graph.build x.components x.mentions = .ok g ∧
      Site.Planned "docs" (Document.render g g.views (Tutorial.ofGraph g) none) := by
  have hderived : ∀ u ∈ twinUnits, ∀ y,
      Extract.outcomeOf ⟨[Extract.scriptedAdapter twinFiles]⟩ (fun _ => "") u = .ok (.read y) →
        Derived y.components := by
    intro u hu y hy
    rcases List.mem_cons.mp hu with rfl | hu
    · cases hy
      exact derived_twin "orders/store.py"
    · rw [List.mem_singleton.mp hu] at hy
      cases hy
      exact derived_twin "orders.py"
  obtain ⟨os, g, hos, -, hclean, hg, -, hplanned⟩ :=
    planned_of_extract.2.2 _ _ _ _ _ extract_twin hderived
  refine ⟨_, os, g, extract_twin, hos, ?_, hclean, hg, hplanned _ ⟨_, _, _, .inl rfl⟩ _⟩
  rw [outcomes_twin] at hos
  cases hos
  decide +kernel

end DocAtlas
