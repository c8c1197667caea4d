import DocAtlas.Document.Tree
import DocAtlas.Proofs.PageTree
import DocAtlas.Proofs.Validity

/-!
The pages of the documentation and their paths.
-/
namespace DocAtlas.Document
open Outline

/-! ### The pages -/

def subjectPages (g : Graph) (plan : Tutorial) : List Page :=
  [Guide.gettingStartedPage g plan,
    Guide.subjectsPage g basicUsage plan.basic "Start with these foundational components."
      "No foundational components were discovered.",
    Guide.subjectsPage g advancedFeatures plan.advanced "These components build on the basics."
      "Every discovered component is covered in Basic Usage.",
    Guide.troubleshootingPage g, Guide.faqPage g]

def technicalPages (g : Graph) (diagrams : List Diagram) : List Page :=
  [Technical.architecturePage g diagrams, Technical.configurationPage g,
    Technical.deploymentPage g] ++ g.components.map (Technical.componentPage g)

theorem technicalPages_leaves {g : Graph} {diagrams : List Diagram} {p : Page}
    (hp : p ∈ technicalPages g diagrams) : p.children = [] := by
  simp only [technicalPages, List.mem_append, List.mem_cons, List.not_mem_nil, or_false,
    List.mem_map] at hp
  rcases hp with (rfl | rfl | rfl) | ⟨c, -, rfl⟩ <;> rfl

theorem subjectPages_leaves {g : Graph} {plan : Tutorial} {p : Page}
    (hp : p ∈ subjectPages g plan) : p.children = [] := by
  simp only [subjectPages, List.mem_cons, List.not_mem_nil, or_false] at hp
  rcases hp with rfl | rfl | rfl | rfl | rfl <;> rfl

theorem walk_render (g : Graph) (diagrams : List Diagram) (plan : Tutorial)
    (name : Option String) :
    (render g diagrams plan name).walk =
      render g diagrams plan name ::
        (Technical.chapter g diagrams :: technicalPages g diagrams ++
          Guide.chapter g plan :: subjectPages g plan) := by
  have htechnical : (technicalPages g diagrams).flatMap Page.walk = technicalPages g diagrams :=
    Page.walk_leaves fun _ hp => technicalPages_leaves hp
  have hsubject : (subjectPages g plan).flatMap Page.walk = subjectPages g plan :=
    Page.walk_leaves fun _ hp => subjectPages_leaves hp
  rw [Page.walk_eq]
  change _ :: [Technical.chapter g diagrams, Guide.chapter g plan].flatMap Page.walk = _
  rw [List.flatMap_cons, List.flatMap_cons, List.flatMap_nil, Page.walk_eq, Page.walk_eq]
  change _ :: (Technical.chapter g diagrams :: (technicalPages g diagrams).flatMap Page.walk ++
    (Guide.chapter g plan :: (subjectPages g plan).flatMap Page.walk ++ [])) = _
  rw [htechnical, hsubject, List.append_nil]

/-- The fixed pages before those of the components. -/
def opening : List String :=
  [hubPath, technical.path, architecture.path, configuration.path, deployment.path]

/-- The fixed pages after those of the components. -/
def closing : List String :=
  [tutorial.path, gettingStarted.path, basicUsage.path, advancedFeatures.path,
    troubleshooting.path, faq.path]

/-- The paths of all pages, in the order of the walk. -/
def paths (g : Graph) : List String := opening ++ g.ids.map componentPath ++ closing

theorem walk_paths (g : Graph) (diagrams : List Diagram) (plan : Tutorial) (name : Option String) :
    (render g diagrams plan name).walk.map Page.path = paths g := by
  have hcomponents : (g.components.map (Technical.componentPage g)).map Page.path =
      g.ids.map componentPath := by
    rw [Graph.ids, List.map_map, List.map_map]
    rfl
  rw [walk_render, technicalPages, List.map_cons, List.map_append, List.map_cons, List.map_append,
    hcomponents, paths, List.append_assoc]
  rfl

theorem mem_paths {g : Graph} {path : String} :
    path ∈ paths g ↔ path ∈ opening ++ closing ∨ ∃ id ∈ g.ids, componentPath id = path := by
  simp only [paths, List.mem_append, List.mem_map]
  exact or_right_comm

theorem componentPath_mem {g : Graph} {id : String} (h : id ∈ g.ids) :
    componentPath id ∈ paths g :=
  mem_paths.mpr (.inr ⟨id, h, rfl⟩)

theorem componentPath_injective : Function.Injective componentPath := by
  intro a b h
  exact (String.append_right_inj _).mp h

theorem componentPath_not_fixed (id : String) : componentPath id ∉ opening ++ closing := by
  have hfixed : ∀ path ∈ opening ++ closing,
      ¬"technical/components/".toList <+: path.toList := by
    simp [opening, closing, hubPath, technical, architecture, configuration, deployment, tutorial,
      gettingStarted, basicUsage, advancedFeatures, troubleshooting, faq]
  intro h
  exact hfixed _ h ⟨id.toList, String.toList_append.symm⟩

theorem paths_nodup (g : Graph) : (paths g).Nodup := by
  have hp : (paths g).Perm (g.ids.map componentPath ++ (opening ++ closing)) := by
    rw [paths, ← List.append_assoc]
    exact List.perm_append_comm.append_right closing
  rw [hp.nodup_iff]
  apply List.Nodup.append
  · exact g.ids_nodup.map componentPath_injective
  · decide
  · intro path hc hf
    obtain ⟨id, -, rfl⟩ := List.mem_map.mp hc
    exact componentPath_not_fixed id hf

end DocAtlas.Document
