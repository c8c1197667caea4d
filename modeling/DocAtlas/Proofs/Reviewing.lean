import DocAtlas.Document.Review
import DocAtlas.Proofs.PageTree

/-!
A tree whose references all lead to its pages passes review as it is.
-/
namespace DocAtlas

/-- The block points at none but the given paths. -/
def Block.Within (paths : List String) (b : Block) : Prop :=
  ∀ r, b.reference? = some r → r.target ∈ paths

/-- No two pages share a path, and every reference leads to a page. -/
structure Page.Sound (tree : Page) : Prop where
  distinct : (tree.walk.map Page.path).Nodup
  references : ∀ r ∈ tree.references, r.target ∈ tree.walk.map Page.path

theorem Page.Sound.within {tree : Page} (h : tree.Sound) {p : Page} (hp : p ∈ tree.walk) {b : Block}
    (hb : b ∈ p.blocks) : b.Within (tree.walk.map Page.path) := by
  intro r hr
  exact h.references r (Page.mem_references.mpr ⟨p, hp, b, hb, hr⟩)

namespace Review

/-- What is said of a block that points at none but paths of the pages. -/
def settled (b : Block) : Verdict := if b.reference?.isSome then .intact else .plain

theorem judge_eq_settled (policy : Policy) (like : Likeness) {pages : List Page} {b : Block}
    (h : b.Within (pages.map Page.path)) : judge policy like pages b = settled b := by
  unfold judge settled
  cases hr : b.reference? with
  | none => rfl
  | some r =>
    obtain ⟨p, hp, he⟩ := List.mem_map.mp (h r hr)
    have hknown : pages.any (·.path == r.target) = true :=
      List.any_eq_true.mpr ⟨p, hp, beq_iff_eq.mpr he⟩
    simp [hknown]

theorem settled_apply (b : Block) : (settled b).apply b = some b := by
  unfold settled
  split <;> rfl

theorem settled_finding? (path : String) (b : Block) : (settled b).finding? path = none := by
  unfold settled
  split <;> rfl

theorem settled_isDropped (b : Block) : (settled b).isDropped = false := by
  unfold settled
  split <;> rfl

theorem settled_isRepaired (b : Block) : (settled b).isRepaired = false := by
  unfold settled
  split <;> rfl

theorem settled_isReference (b : Block) : (settled b).isReference = b.reference?.isSome := by
  unfold settled
  split <;> simp_all [Verdict.isReference]

theorem verdicts_eq (policy : Policy) (like : Likeness) {tree : Page} (h : tree.Sound) :
    verdicts policy like tree.walk =
      tree.walk.flatMap fun p => p.blocks.map fun b => (p.path, settled b) := by
  unfold verdicts
  apply List.flatMap_congr
  intro p hp
  apply List.map_congr_left
  intro b hb
  rw [judge_eq_settled policy like (h.within hp hb)]

/-- The report on a sound tree. -/
def soundReport (tree : Page) : Report := ⟨tree.references.length, 0, 0, []⟩

theorem reportOf_verdicts (policy : Policy) (like : Likeness) {tree : Page} (h : tree.Sound) :
    reportOf (verdicts policy like tree.walk) = soundReport tree := by
  rw [verdicts_eq policy like h]
  have hsettled : ∀ v ∈ tree.walk.flatMap fun p => p.blocks.map fun b => (p.path, settled b),
      ∃ b, v.2 = settled b := by
    intro v hv
    obtain ⟨p, -, hp⟩ := List.mem_flatMap.mp hv
    obtain ⟨b, -, rfl⟩ := List.mem_map.mp hp
    exact ⟨b, rfl⟩
  unfold reportOf soundReport
  congr 1
  · rw [Page.references, List.length_flatMap, List.countP_flatMap]
    congr 1
    apply List.map_congr_left
    intro p _
    rw [List.length_filterMap_eq_countP]
    simp only [Function.comp_apply, List.countP_map, Function.comp_def, settled_isReference]
  · apply List.countP_eq_zero.mpr
    intro v hv
    obtain ⟨b, hb⟩ := hsettled v hv
    simp [hb, settled_isDropped]
  · apply List.countP_eq_zero.mpr
    intro v hv
    obtain ⟨b, hb⟩ := hsettled v hv
    simp [hb, settled_isRepaired]
  · apply List.filterMap_eq_nil_iff.mpr
    intro v hv
    obtain ⟨b, hb⟩ := hsettled v hv
    rw [hb, settled_finding?]

theorem review_sound (policy : Policy) (like : Likeness) {tree : Page} (h : tree.Sound) :
    review policy like tree = .ok (tree, soundReport tree) := by
  unfold review
  rw [Page.index_eq_ok h.distinct]
  simp only [reportOf_verdicts policy like h]
  rw [Page.mapBlocks_eq_self]
  intro p hp
  have hkept : ∀ b ∈ p.blocks, (judge policy like tree.walk b).apply b = some b := by
    intro b hb
    rw [judge_eq_settled policy like (h.within hp hb), settled_apply]
  rw [List.filterMap_congr hkept, List.filterMap_some]

end Review

end DocAtlas
