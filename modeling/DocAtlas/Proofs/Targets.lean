import DocAtlas.Proofs.Outline
import DocAtlas.Proofs.Reviewing

/-!
What the pages of the documentation point at: none but its pages.
-/
namespace DocAtlas
open Outline

/-! ### Blocks and what they point at -/

namespace Block

variable {paths : List String}

@[simp] theorem within_prose (text : String) (heading : Option String) :
    (prose text heading).Within paths := by
  intro r hr
  cases hr

@[simp] theorem within_code (text : String) (language heading : Option String) :
    (code text language heading).Within paths := by
  intro r hr
  cases hr

@[simp] theorem within_ofDiagram (name heading : String) :
    (ofDiagram name heading).Within paths := by
  intro r hr
  cases hr

@[simp] theorem within_link {target label relation text : String} {heading : Option String} :
    (link target label relation text heading).Within paths ↔ target ∈ paths := by
  constructor
  · intro h
    exact h _ rfl
  · intro h r hr
    cases hr
    exact h

@[simp] theorem within_entryLink {e : Entry} {relation text : String} {heading : Option String} :
    (e.link relation text heading).Within paths ↔ e.path ∈ paths :=
  within_link

/-- None of the blocks points at any but the given paths. -/
def AllWithin (paths : List String) (blocks : List Block) : Prop := ∀ b ∈ blocks, b.Within paths

@[simp] theorem allWithin_nil : AllWithin paths [] := List.forall_mem_nil _

@[simp] theorem allWithin_cons {b : Block} {rest : List Block} :
    AllWithin paths (b :: rest) ↔ b.Within paths ∧ AllWithin paths rest :=
  List.forall_mem_cons

@[simp] theorem allWithin_append {as bs : List Block} :
    AllWithin paths (as ++ bs) ↔ AllWithin paths as ∧ AllWithin paths bs :=
  List.forall_mem_append

@[simp] theorem allWithin_ite {c : Prop} [Decidable c] {as bs : List Block} :
    AllWithin paths (if c then as else bs) ↔
      (c → AllWithin paths as) ∧ (¬c → AllWithin paths bs) := by
  split <;> simp_all

theorem allWithin_map {α : Type} {items : List α} {f : α → Block} :
    AllWithin paths (items.map f) ↔ ∀ a ∈ items, (f a).Within paths :=
  List.forall_mem_map

theorem allWithin_mapIdx {α : Type} {items : List α} {f : Nat → α → Block}
    (h : ∀ a ∈ items, ∀ i, (f i a).Within paths) : AllWithin paths (items.mapIdx f) := by
  intro b hb
  obtain ⟨i, hi, rfl⟩ := List.mem_mapIdx.mp hb
  exact h _ (List.getElem_mem hi) i

theorem allWithin_flatMap {α : Type} {items : List α} {f : α → List Block}
    (h : ∀ a ∈ items, AllWithin paths (f a)) : AllWithin paths (items.flatMap f) := by
  intro b hb
  obtain ⟨a, ha, hf⟩ := List.mem_flatMap.mp hb
  exact h a ha b hf

end Block

namespace Document
open Block

variable {g : Graph}

theorem mem_opening {path : String} (h : path ∈ opening) : path ∈ paths g :=
  mem_paths.mpr (.inl (List.mem_append_left _ h))

theorem mem_closing {path : String} (h : path ∈ closing) : path ∈ paths g :=
  mem_paths.mpr (.inl (List.mem_append_right _ h))

theorem linkTo_within {c : Component} (h : c ∈ g.components) :
    (Technical.linkTo c).Within (paths g) :=
  within_link.mpr (componentPath_mem (List.mem_map_of_mem h))

theorem linkToId_within {id : String} (h : id ∈ g.ids) :
    (Technical.linkToId g id).Within (paths g) :=
  within_link.mpr (componentPath_mem h)

theorem backLink_within : Technical.backLink.Within (paths g) :=
  within_entryLink.mpr (mem_opening (by simp [opening]))

theorem mem_of_get? {id : String} {c : Component} (h : g.get? id = some c) :
    c ∈ g.components ∧ id ∈ g.ids := by
  have hm := List.mem_of_find?_eq_some h
  have hi := List.find?_some h
  refine ⟨hm, ?_⟩
  rw [← beq_iff_eq.mp hi]
  exact List.mem_map_of_mem hm

theorem architecturePage_within (diagrams : List Diagram) (hc : ∀ cycle ∈ g.cycles, cycle ⊆ g.ids) :
    AllWithin (paths g) (Technical.architecturePage g diagrams).blocks := by
  simp only [Technical.architecturePage, Page.blocks, allWithin_append, allWithin_cons,
    allWithin_nil, and_true]
  refine ⟨⟨?_, ?_⟩, backLink_within⟩
  · apply allWithin_flatMap
    intro d _
    simp [Technical.diagramBlocks]
  · intro b hb
    obtain ⟨blocks, hm, hb⟩ := List.mem_flatten.mp hb
    obtain ⟨i, hi, rfl⟩ := List.mem_mapIdx.mp hm
    have hcycle := hc _ (List.getElem_mem hi)
    rcases List.mem_cons.mp hb with rfl | hb
    · exact within_prose _ _
    · obtain ⟨id, hid, rfl⟩ := List.mem_map.mp hb
      exact linkToId_within (hcycle (List.mem_eraseDups.mp hid))

theorem configurationPage_within :
    AllWithin (paths g) (Technical.configurationPage g).blocks := by
  simp only [Technical.configurationPage, Page.blocks, allWithin_append, allWithin_cons,
    allWithin_nil, and_true]
  refine ⟨⟨by simp, ?_⟩, backLink_within⟩
  apply allWithin_flatMap
  intro c hc
  simp [Technical.ownerBlocks, linkTo_within (List.mem_filter.mp hc).1]

theorem deploymentPage_within : AllWithin (paths g) (Technical.deploymentPage g).blocks := by
  simp only [Technical.deploymentPage, Page.blocks, allWithin_append, allWithin_cons,
    allWithin_nil, and_true]
  refine ⟨⟨?_, by simp [Technical.environmentBlocks]⟩, backLink_within⟩
  simp only [allWithin_ite, allWithin_cons, within_prose, allWithin_nil, and_self, implies_true,
    true_and, allWithin_map]
  intro _ c hc
  exact within_link.mpr (componentPath_mem (List.mem_map_of_mem (List.mem_filter.mp hc).1))

theorem edgeBlocks_within {heading : String} {ends : List (String × Relation)}
    (h : ∀ other ∈ ends, other.1 ∈ g.ids) :
    AllWithin (paths g) (Technical.edgeBlocks g heading ends) := by
  apply allWithin_mapIdx
  intro other ho i
  exact within_link.mpr (componentPath_mem (h other ho))

theorem componentPage_within (c : Component) :
    AllWithin (paths g) (Technical.componentPage g c).blocks := by
  simp only [Technical.componentPage, Page.blocks, allWithin_append, allWithin_cons,
    allWithin_nil, and_true]
  refine ⟨⟨⟨⟨⟨⟨⟨by simp, by simp⟩, by simp⟩, by simp⟩, ?_⟩, ?_⟩, ?_⟩, backLink_within⟩
  · apply edgeBlocks_within
    intro other ho
    obtain ⟨e, he, rfl⟩ := List.mem_map.mp ho
    exact (g.joins_of_mem (List.mem_filter.mp he).1).target
  · apply edgeBlocks_within
    intro other ho
    obtain ⟨e, he, rfl⟩ := List.mem_map.mp ho
    exact (g.joins_of_mem (List.mem_filter.mp he).1).source
  · apply allWithin_mapIdx
    intro cycle _ i
    exact within_prose _ _

theorem technicalChapter_within (diagrams : List Diagram) :
    AllWithin (paths g) (Technical.chapter g diagrams).blocks := by
  simp only [Technical.chapter, Page.blocks, allWithin_append, allWithin_cons, allWithin_nil,
    within_prose, true_and, and_true]
  constructor
  · apply allWithin_mapIdx
    intro e he i
    apply within_entryLink.mpr (mem_opening _)
    simp only [Outline.technicalPages, List.mem_cons, List.not_mem_nil, or_false] at he
    rcases he with rfl | rfl | rfl <;> simp [opening]
  · apply allWithin_mapIdx
    intro c hc i
    exact within_link.mpr (componentPath_mem (List.mem_map_of_mem hc))

theorem firstBlocks_within {c : Component} (h : c ∈ g.components) (count : Nat) :
    AllWithin (paths g) (Guide.firstBlocks c count) := by
  simp only [Guide.firstBlocks, allWithin_append, allWithin_cons, allWithin_nil, and_true,
    linkTo_within h]
  refine ⟨⟨by simp, by simp⟩, ?_⟩
  split <;> simp

theorem gettingStartedPage_within (plan : Tutorial) :
    AllWithin (paths g) (Guide.gettingStartedPage g plan).blocks := by
  simp only [Guide.gettingStartedPage, Guide.page, Page.blocks, allWithin_append, allWithin_cons,
    allWithin_nil, and_true, within_entryLink]
  refine ⟨?_, mem_closing (by simp [closing])⟩
  split
  · simp
  · rename_i c hc
    obtain ⟨id, -, hg⟩ := Option.bind_eq_some_iff.mp hc
    exact firstBlocks_within (mem_of_get? hg).1 _

theorem subjectsPage_within (e : Entry) (subjects : List String) (intro empty : String) :
    AllWithin (paths g) (Guide.subjectsPage g e subjects intro empty).blocks := by
  simp only [Guide.subjectsPage, Guide.page, Page.blocks, allWithin_append, allWithin_cons,
    allWithin_nil, and_true, within_entryLink, within_prose, true_and]
  refine ⟨?_, mem_closing (by simp [closing])⟩
  apply allWithin_flatMap
  intro c hc
  obtain ⟨id, -, hg⟩ := List.mem_filterMap.mp hc
  simp [Guide.subjectBlocks, componentPath_mem (List.mem_map_of_mem (mem_of_get? hg).1)]

theorem troubleshootingPage_within :
    AllWithin (paths g) (Guide.troubleshootingPage g).blocks := by
  simp only [Guide.troubleshootingPage, Guide.page, Page.blocks, allWithin_append, allWithin_cons,
    allWithin_nil, and_true, within_entryLink]
  refine ⟨⟨by simp, ?_⟩, mem_opening (by simp [opening])⟩
  apply allWithin_flatMap
  intro f _
  simp only [Guide.findingBlocks, allWithin_cons, within_prose, true_and, allWithin_ite,
    allWithin_nil, implies_true, and_true]
  intro hs
  obtain ⟨c, hg⟩ := Option.isSome_iff_exists.mp hs
  exact linkToId_within (mem_of_get? hg).2

theorem faqPage_within : AllWithin (paths g) (Guide.faqPage g).blocks := by
  simp only [Guide.faqPage, Guide.page, Page.blocks, allWithin_cons, allWithin_nil, and_true,
    within_entryLink]
  exact ⟨mem_opening (by simp [opening]), mem_opening (by simp [opening]),
    mem_closing (by simp [closing])⟩

theorem guideChapter_within (plan : Tutorial) :
    AllWithin (paths g) (Guide.chapter g plan).blocks := by
  simp only [Guide.chapter, Page.blocks, List.singleton_append, allWithin_cons, within_prose,
    true_and, allWithin_map, within_entryLink]
  intro e he
  apply mem_closing
  simp only [Outline.tutorialPages, List.mem_cons, List.not_mem_nil, or_false] at he
  rcases he with rfl | rfl | rfl | rfl | rfl <;> simp [closing]

theorem hub_within (diagrams : List Diagram) (plan : Tutorial) (name : Option String) :
    AllWithin (paths g) (render g diagrams plan name).blocks := by
  simp only [render, Page.blocks, allWithin_cons, allWithin_nil, within_prose, true_and, and_true,
    within_entryLink]
  exact ⟨mem_opening (by simp [opening]), mem_closing (by simp [closing])⟩

/-! ### The whole tree -/

/-- The documentation of a graph whose cycles run through its components is sound. -/
theorem render_sound (diagrams : List Diagram) (plan : Tutorial) (name : Option String)
    (hc : ∀ cycle ∈ g.cycles, cycle ⊆ g.ids) : (render g diagrams plan name).Sound := by
  refine ⟨walk_paths g diagrams plan name ▸ paths_nodup g, ?_⟩
  intro r hr
  obtain ⟨p, hp, b, hb, hr⟩ := Page.mem_references.mp hr
  rw [walk_paths]
  have hwithin : AllWithin (paths g) p.blocks := by
    rw [walk_render, List.mem_cons, List.mem_append, List.mem_cons, List.mem_cons] at hp
    rcases hp with rfl | (rfl | ht) | rfl | hs
    · exact hub_within diagrams plan name
    · exact technicalChapter_within diagrams
    · simp only [technicalPages, List.mem_append, List.mem_cons, List.not_mem_nil, or_false,
        List.mem_map] at ht
      rcases ht with (rfl | rfl | rfl) | ⟨c, -, rfl⟩
      · exact architecturePage_within diagrams hc
      · exact configurationPage_within
      · exact deploymentPage_within
      · exact componentPage_within c
    · exact guideChapter_within plan
    · simp only [subjectPages, List.mem_cons, List.not_mem_nil, or_false] at hs
      rcases hs with rfl | rfl | rfl | rfl | rfl
      · exact gettingStartedPage_within plan
      · exact subjectsPage_within _ _ _ _
      · exact subjectsPage_within _ _ _ _
      · exact troubleshootingPage_within
      · exact faqPage_within
  exact hwithin b hb r hr

end Document

end DocAtlas
