import DocAtlas.Proofs.Outline
import DocAtlas.Proofs.Preorder
import Mathlib.Logic.Relation

/-!
Finding one's way through the documentation: every page is reached from the hub by references, since
each page refers to the pages right below it.
-/
namespace DocAtlas

/-- Where the reference of a block points. -/
def Block.target? (b : Block) : Option String := b.reference?.map (·.target)

theorem Block.targets_mapIdx {α : Type} {link : Nat → α → Block} {path : α → String}
    (h : ∀ index a, (link index a).target? = some (path a)) (items : List α) :
    (items.mapIdx link).filterMap Block.target? = items.map path := by
  induction items generalizing link with
  | nil => rfl
  | cons a rest ih =>
    rw [List.mapIdx_cons, List.filterMap_cons_some (h 0 a), List.map_cons,
      ih fun index b => h (index + 1) b]

namespace Page

/-! ### References between pages -/

/-- Where the references of a page point. -/
def targets (p : Page) : List String := p.blocks.filterMap Block.target?

/-- A reference of `p` opens the page `q` of the tree. -/
def RefersTo (tree p q : Page) : Prop := ∃ path ∈ p.targets, tree.find? path = some q

/-- Every page of the tree refers to those right below it. -/
def ListsChildren (tree : Page) : Prop :=
  ∀ p ∈ tree.preorder, ∀ child ∈ p.children, child.path ∈ p.targets

theorem listsChildren_of {p : Page} (own : p.targets = p.children.map path)
    (below : ∀ child ∈ p.children, child.ListsChildren) : p.ListsChildren := by
  intro q hq
  rw [preorder_eq, List.mem_cons, mem_preorders] at hq
  rcases hq with rfl | ⟨child, hchild, hq⟩
  · intro child hchild
    rw [own]
    exact List.mem_map_of_mem hchild
  · exact below child hchild q hq

theorem listsChildren_leaf {p : Page} (leaf : p.children = []) : p.ListsChildren := by
  intro q hq
  rw [preorder_eq, leaf, preorders, List.mem_singleton] at hq
  rw [hq, leaf]
  simp

/-- The references on the way down to a page lead to it. -/
theorem ListsChildren.reaches {tree : Page} (h : tree.ListsChildren)
    (distinct : (tree.preorder.map path).Nodup) {q : Page} (hq : q ∈ tree.preorder) :
    Relation.ReflTransGen tree.RefersTo tree q := by
  obtain ⟨a, ha⟩ := mem_preorder_iff.mp hq
  clear hq
  induction a using List.reverseRecOn generalizing q with
  | nil =>
    rw [at?_nil] at ha
    cases ha
    exact .refl
  | append_singleton a n ih =>
    rw [at?_concat, Option.bind_eq_some_iff] at ha
    obtain ⟨p, hp, hchild⟩ := ha
    have hlisted := h p (mem_preorder_iff.mpr ⟨a, hp⟩) q (List.mem_of_getElem? hchild)
    have hq : q ∈ tree.preorder := by
      apply mem_preorder_iff.mpr
      exact ⟨a ++ [n], by rw [at?_concat, hp, Option.bind_some, hchild]⟩
    exact (ih hp).tail ⟨q.path, hlisted, find?_of_mem distinct hq⟩

end Page

namespace Document
open Outline

/-! ### Pages and the references to them -/

theorem targets_technical (g : Graph) (diagrams : List Diagram) :
    (Technical.chapter g diagrams).targets =
      (Technical.chapter g diagrams).children.map Page.path := by
  have hguides : (Outline.technicalPages.mapIdx fun index e =>
      e.link "navigation" "" (Technical.headingAt index "Guides")).filterMap Block.target? =
        Outline.technicalPages.map Entry.path :=
    Block.targets_mapIdx (fun _ _ => rfl) _
  have hcomponents : (g.components.mapIdx fun index c =>
      Block.link (componentPath c.id) c.name "component" c.purpose
        (Technical.headingAt index "Components")).filterMap Block.target? =
        (g.components.map (Technical.componentPage g)).map Page.path := by
    rw [Block.targets_mapIdx (fun _ _ => rfl), List.map_map]
    rfl
  rw [Page.targets, Technical.chapter, Page.blocks, Page.children, List.filterMap_append,
    List.filterMap_append, hguides, hcomponents, List.map_append]
  rfl

theorem targets_guide (g : Graph) (plan : Tutorial) :
    (Guide.chapter g plan).targets = (Guide.chapter g plan).children.map Page.path := rfl

theorem targets_render (g : Graph) (diagrams : List Diagram) (plan : Tutorial)
    (name : Option String) :
    (render g diagrams plan name).targets =
      (render g diagrams plan name).children.map Page.path := rfl

theorem listsChildren_render (g : Graph) (diagrams : List Diagram) (plan : Tutorial)
    (name : Option String) : (render g diagrams plan name).ListsChildren := by
  apply Page.listsChildren_of (targets_render g diagrams plan name)
  intro chapter hchapter
  rcases List.mem_pair.mp hchapter with rfl | rfl
  · apply Page.listsChildren_of (targets_technical g diagrams)
    intro p hp
    exact Page.listsChildren_leaf (technicalPages_leaves hp)
  · apply Page.listsChildren_of (targets_guide g plan)
    intro p hp
    exact Page.listsChildren_leaf (subjectPages_leaves hp)

/-! ### The whole documentation -/

theorem filter_components (g : Graph) (diagrams : List Diagram) (plan : Tutorial)
    (name : Option String) :
    (render g diagrams plan name).walk.filter (·.kind = .component) =
      g.components.map (Technical.componentPage g) := by
  have htechnical : (technicalPages g diagrams).filter (·.kind = .component) =
      g.components.map (Technical.componentPage g) := by
    rw [technicalPages, List.filter_append]
    apply List.filter_eq_self.mpr
    intro p hp
    obtain ⟨c, -, rfl⟩ := List.mem_map.mp hp
    rfl
  have hsubject : (subjectPages g plan).filter (·.kind = .component) = [] := rfl
  rw [walk_render, List.filter_cons_of_neg (by exact Bool.false_ne_true), List.filter_append,
    List.filter_cons_of_neg (by exact Bool.false_ne_true), htechnical,
    List.filter_cons_of_neg (by exact Bool.false_ne_true), hsubject, List.append_nil]

/-- What a reader of the documentation of a graph finds. -/
structure IsNavigable (g : Graph) (tree : Page) : Prop where
  distinct : (tree.walk.map Page.path).Nodup
  /-- Each component has one page of its own, and these pages are in the order of the graph. -/
  components : (tree.walk.filter (·.kind = .component)).map (fun p => (p.path, p.title)) =
    g.components.map fun c => (componentPath c.id, c.name)
  reached : ∀ p ∈ tree.walk, Relation.ReflTransGen tree.RefersTo tree p

/-- Each page stands for itself, each component for one page, and from the hub references lead to
all of them. -/
theorem render_navigable (g : Graph) (diagrams : List Diagram) (plan : Tutorial)
    (name : Option String) : IsNavigable g (render g diagrams plan name) := by
  have hdistinct : ((render g diagrams plan name).walk.map Page.path).Nodup := by
    rw [walk_paths]
    exact paths_nodup g
  constructor
  · exact hdistinct
  · rw [filter_components, List.map_map]
    rfl
  · intro p hp
    rw [Page.walk_eq_preorder] at hdistinct hp
    exact (listsChildren_render g diagrams plan name).reaches hdistinct hp

end Document

end DocAtlas
