import DocAtlas.Proofs.Entries
import DocAtlas.Proofs.Teaching

/-!
Graphs that list the same components and edges in other orders. The main statement is that their
components are taught alike.
-/
namespace DocAtlas

theorem Keyed.get?_map_pair {α : Type} (f : String → α) (keys : List String) (key : String) :
    Keyed.get? (keys.map fun k => (k, f k)) key = if key ∈ keys then some (f key) else none := by
  induction keys with
  | nil => rfl
  | cons k keys ih =>
    unfold get? at ih ⊢
    rw [List.map_cons, List.find?_cons]
    by_cases hk : k = key
    · simp [hk]
    · simp only [beq_eq_false_iff_ne.mpr hk, ih, List.mem_cons, Ne.symm hk, false_or]

namespace Graph

/-- `g` and `h` have the same components and the same edges. -/
structure Relists (g h : Graph) : Prop where
  components : ∀ c, c ∈ g.components ↔ c ∈ h.components
  edges : ∀ e, e ∈ g.edges ↔ e ∈ h.edges

namespace Relists

variable {g h : Graph}

theorem symm (same : Relists g h) : Relists h g where
  components := fun c => (same.components c).symm
  edges := fun e => (same.edges e).symm

theorem mem_ids (same : Relists g h) (id : String) : id ∈ g.ids ↔ id ∈ h.ids := by
  simp only [ids, List.mem_map, same.components]

theorem edges_perm (same : Relists g h) : g.edges.Perm h.edges :=
  (List.perm_ext_iff_of_nodup g.edges_nodup h.edges_nodup).mpr same.edges

theorem inDegree_eq (same : Relists g h) (id : String) : g.inDegree id [] = h.inDegree id [] :=
  ((same.edges_perm.filter _).map _).length_eq

theorem outDegree_eq (same : Relists g h) (id : String) : g.outDegree id [] = h.outDegree id [] :=
  ((same.edges_perm.filter _).map _).length_eq

theorem hops (same : Relists g h) {start id : String} {n : Nat} (way : g.Hops start n id) :
    h.Hops start n id := by
  induction way with
  | here => exact .here
  | along _ known ih => exact .along ih ((same.edges _).mp known)

theorem hopsFrom_eq (same : Relists g h) (starts : String → Prop) (id : String) :
    g.hopsFrom starts id = h.hopsFrom starts id := by
  apply Set.Subset.antisymm
  · intro n ⟨start, hs, way⟩
    exact ⟨start, hs, same.hops way⟩
  · intro n ⟨start, hs, way⟩
    exact ⟨start, hs, same.symm.hops way⟩

end Relists

end Graph

namespace Tutorial
open DocAtlas.Graph

variable {g h : Graph}

/-! ### Depths -/

section Measures

variable {starts starts' : String → Prop} {ls ls' : List (List String)}

theorem Measures.length_le (m : Measures g starts 0 ls) (m' : Measures h starts' 0 ls')
    (same : ∀ id, g.hopsFrom starts id = h.hopsFrom starts' id) : ls.length ≤ ls'.length := by
  by_contra hlt
  have hi : ls'.length < ls.length := by omega
  obtain ⟨id, hid⟩ := List.exists_mem_of_ne_nil _ (m.inhabited _ (List.getElem_mem hi))
  rw [m.level _ hi, IsDistance, same] at hid
  have := m'.reaches id _ hid (Nat.zero_le _)
  omega

/-- The depths that levels give are determined by what is reached along how many edges. -/
theorem Measures.depthOf_congr (m : Measures g starts 0 ls) (m' : Measures h starts' 0 ls')
    (same : ∀ id, g.hopsFrom starts id = h.hopsFrom starts' id) : depthOf ls = depthOf ls' := by
  funext id
  rcases Set.eq_empty_or_nonempty (g.hopsFrom starts id) with hnone | ⟨n, hn⟩
  · have hle := m.length_le m' same
    have hge := m'.length_le m fun id => (same id).symm
    rw [m.depthOf_eq_length hnone, m'.depthOf_eq_length (same id ▸ hnone)]
    omega
  · obtain ⟨k, -, hk⟩ := exists_isDistance hn
    have hk' : h.IsDistance starts' id k := by
      rw [IsDistance, ← same]
      exact hk
    rw [m.depthOf_eq hk, m'.depthOf_eq hk']

end Measures

theorem isRoot_eq (same : Relists g h) : IsRoot g = IsRoot h := by
  funext id
  simp only [IsRoot, IsRootLike, same.mem_ids, same.inDegree_eq, same.outDegree_eq]

theorem depthOf_levelsOf (same : Relists g h) : depthOf (levelsOf g) = depthOf (levelsOf h) := by
  apply (levelsOf_measures g).depthOf_congr (levelsOf_measures h)
  intro id
  rw [isRoot_eq same, same.hopsFrom_eq]

theorem usageOf_eq (same : Relists g h) : usageOf g = usageOf h := by
  funext id
  exact same.inDegree_eq id

/-! ### The plan -/

theorem ordered_eq (same : Relists g h) : (ofGraph g).ordered = (ofGraph h).ordered := by
  have hg := ordered_increasing g
  rw [depthOf_levelsOf same, usageOf_eq same] at hg
  apply Order.eq_of_increasing hg (ordered_increasing h)
  intro id
  rw [(ordered_perm g).mem_iff, (ordered_perm h).mem_iff, same.mem_ids]

/-- Graphs with the same components and edges, in whatever orders these are listed, have the same
plan: the same components in the same order, split at the same place, each with the same depth and
usage. -/
theorem ofGraph_relisted (same : Relists g h) :
    (ofGraph g).ordered = (ofGraph h).ordered ∧ (ofGraph g).basic = (ofGraph h).basic ∧
      (ofGraph g).advanced = (ofGraph h).advanced ∧
        ∀ id, (ofGraph g).depths.get? id = (ofGraph h).depths.get? id ∧
          (ofGraph g).usage.get? id = (ofGraph h).usage.get? id := by
  have hordered := ordered_eq same
  refine ⟨hordered, ?_, ?_, ?_⟩
  · change (ofGraph g).ordered.take (max 1 ((ofGraph g).ordered.length / 3)) = _
    rw [hordered]
    rfl
  · change (ofGraph g).ordered.drop (max 1 ((ofGraph g).ordered.length / 3)) = _
    rw [hordered]
    rfl
  · intro id
    change Keyed.get? (g.ids.map fun id => (id, depthOf (levelsOf g) id)) id =
        Keyed.get? (h.ids.map fun id => (id, depthOf (levelsOf h) id)) id ∧
      Keyed.get? (g.ids.map fun id => (id, usageOf g id)) id =
        Keyed.get? (h.ids.map fun id => (id, usageOf h id)) id
    simp only [Keyed.get?_map_pair, same.mem_ids, depthOf_levelsOf same, usageOf_eq same, and_self]

/-- Three components in a circle, so that the ids alone tell the root. -/
def circleGraph : Graph where
  components := ["p", "q", "r"].map fun id => { id := id, name := id, role := .general }
  edges := [⟨"p", "q", .uses⟩, ⟨"q", "r", .uses⟩, ⟨"r", "p", .uses⟩]
  cycles := []
  findings := []
  valid := by decide

def relistedCircle : Graph where
  components := circleGraph.components.reverse
  edges := circleGraph.edges.reverse
  cycles := []
  findings := []
  valid := by decide

theorem ofGraph_relisted_circle :
    Relists circleGraph relistedCircle ∧
      (ofGraph circleGraph).ordered = (ofGraph relistedCircle).ordered ∧
      (ofGraph circleGraph).basic = (ofGraph relistedCircle).basic ∧
      (ofGraph circleGraph).advanced = (ofGraph relistedCircle).advanced ∧
        ∀ id, (ofGraph circleGraph).depths.get? id = (ofGraph relistedCircle).depths.get? id ∧
          (ofGraph circleGraph).usage.get? id = (ofGraph relistedCircle).usage.get? id := by
  have same : Relists circleGraph relistedCircle :=
    ⟨fun _ => List.mem_reverse.symm, fun _ => List.mem_reverse.symm⟩
  exact ⟨same, ofGraph_relisted same⟩

end Tutorial

end DocAtlas
