import DocAtlas.Proofs.Distances
import DocAtlas.Proofs.Ordering

/-!
The order in which components are taught. The main statement is that it is that of their distances
from the roots, then of how much they are depended on, and at last of their ids.
-/
namespace DocAtlas.Tutorial
open DocAtlas.Graph

/-- `a` has fewer edges to it than `b`, or as many and more edges from it, or as many of both and
the lesser id. -/
def IsRootLike (g : Graph) (a b : String) : Prop :=
  g.inDegree a [] < g.inDegree b [] ∨ g.inDegree a [] = g.inDegree b [] ∧
    (g.outDegree b [] < g.outDegree a [] ∨ g.outDegree b [] = g.outDegree a [] ∧ a < b)

/-- A component without edges to it. Where there is none, the component that comes before all
others. -/
def IsRoot (g : Graph) (id : String) : Prop :=
  id ∈ g.ids ∧ (g.inDegree id [] = 0 ∨
    (∀ other ∈ g.ids, g.inDegree other [] ≠ 0) ∧
      ∀ other ∈ g.ids, other ≠ id → IsRootLike g id other)

/-- `a` is nearer to the roots than `b`, or as near and more used, or as near and as much used and
has the lesser id. -/
def IsTaughtBefore (depth usage : String → Nat) (a b : String) : Prop :=
  depth a < depth b ∨ depth a = depth b ∧ (usage b < usage a ∨ usage b = usage a ∧ a < b)

/-- The plan of a graph whose components have the given depths. -/
structure Teaches (g : Graph) (plan : Tutorial) (depth : String → Nat) : Prop where
  depths : plan.depths = g.ids.map fun id => (id, depth id)
  usage : plan.usage = g.ids.map fun id => (id, g.inDegree id [])
  counted : ∀ id, g.inDegree id [] = g.edges.countP (·.target == id)
  reached : ∀ id ∈ g.ids, (g.hopsFrom (IsRoot g) id).Nonempty →
    IsLeast (g.hopsFrom (IsRoot g) id) (depth id)
  unreached : ∀ id ∈ g.ids, g.hopsFrom (IsRoot g) id = ∅ → ∃ deepest,
    IsGreatest { n | ∃ other, IsLeast (g.hopsFrom (IsRoot g) other) n } deepest ∧
      depth id = deepest + 1
  perm : plan.ordered.Perm g.ids
  sorted : plan.ordered.Pairwise (IsTaughtBefore depth fun id => g.inDegree id [])
  parts : plan.basic ++ plan.advanced = plan.ordered
  basic : plan.basic.length = max 1 (g.ids.length / 3)
  edge : ∀ e ∈ g.edges, depth e.target ≤ depth e.source + 1

/-! ### Roots -/

theorem mem_roots {g : Graph} {id : String} : id ∈ roots g ↔ IsRoot g id := by
  unfold roots
  dsimp only
  split
  · rename_i hnone
    rw [List.isEmpty_iff, List.filter_eq_nil_iff] at hnone
    have hsome : ∀ other ∈ g.ids, g.inDegree other [] ≠ 0 := fun other ho h =>
      hnone other ho (decide_eq_true h)
    rw [Option.mem_toList, Order.least?_eq_some_iff_lt]
    · simp only [Order.andThen_eq_lt, Order.byNat_eq_lt, Order.byNat_eq_eq, Order.byNatDown,
        Order.byText_eq_lt]
      exact and_congr_right fun hid => ⟨fun h => .inr ⟨hsome, h⟩,
        fun h => h.elim (fun h0 => absurd h0 (hsome id hid)) And.right⟩
    · intro a b h
      exact Order.byText_eq_eq.mp (Order.andThen_eq_eq.mp (Order.andThen_eq_eq.mp h).2).2
  · rename_i hfree
    rw [List.mem_filter, decide_eq_true_iff]
    refine and_congr_right fun _ => ⟨.inl, fun h => h.elim (fun h0 => h0) fun h => ?_⟩
    refine absurd (List.isEmpty_iff.mpr (List.filter_eq_nil_iff.mpr fun other ho h0 => ?_)) hfree
    exact h.1 other ho (of_decide_eq_true h0)

theorem roots_ne_nil {g : Graph} (h : g.ids ≠ []) : roots g ≠ [] := by
  unfold roots
  dsimp only
  split
  · rw [ne_eq, Option.toList_eq_nil_iff, Order.least?_eq_none]
    exact h
  · rename_i hfree
    simpa using hfree

theorem roots_nodup (g : Graph) : (roots g).Nodup := by
  unfold roots
  dsimp only
  split
  · cases Order.least? _ g.ids with
    | none => exact List.nodup_nil
    | some root => exact List.nodup_singleton root
  · exact g.ids_nodup.filter _

theorem inDegree_eq_countP (g : Graph) (id : String) :
    g.inDegree id [] = g.edges.countP (·.target == id) := by
  rw [inDegree, predecessors, List.length_map, List.countP_eq_length_filter]
  rfl

/-! ### The plan -/

/-- The levels that the depths of a graph are read from. -/
def levelsOf (g : Graph) : List (List String) := levels g (g.ids.length + 1) (roots g) (roots g)

theorem levelsOf_measures (g : Graph) : Measures g (IsRoot g) 0 (levelsOf g) := by
  have hfirst := Layer.first (roots_nodup g) (fun id hid => (mem_roots.mp hid).1) fun _ => mem_roots
  exact hfirst.measures fun _ => by omega

/-- The order in which components of given depths and usage are taught. -/
def teachingOrder (depth usage : String → Nat) : String → String → Ordering :=
  Order.andThen (Order.byNat depth) (Order.andThen (Order.byNatDown usage) (Order.byText id))

instance (depth usage : String → Nat) : Std.TransCmp (teachingOrder depth usage) :=
  inferInstanceAs (Std.TransCmp (Order.andThen _ _))

theorem eq_of_teachingOrder {depth usage : String → Nat} {a b : String}
    (he : teachingOrder depth usage a b = .eq) : a = b :=
  Order.byText_eq_eq.mp (Order.andThen_eq_eq.mp (Order.andThen_eq_eq.mp he).2).2

theorem teachingOrder_eq_lt {depth usage : String → Nat} {a b : String} :
    teachingOrder depth usage a b = .lt ↔ IsTaughtBefore depth usage a b := by
  simp only [teachingOrder, IsTaughtBefore, Order.andThen_eq_lt, Order.byNat_eq_lt,
    Order.byNat_eq_eq, Order.byNatDown, Order.byText_eq_lt, id]

theorem ordered_perm (g : Graph) : (ofGraph g).ordered.Perm g.ids := Order.sort_perm _ _

theorem ordered_increasing (g : Graph) : (ofGraph g).ordered.Pairwise fun a b =>
    teachingOrder (depthOf (levelsOf g)) (usageOf g) a b = .lt :=
  Order.sort_increasing _ (g.ids_nodup.imp fun hne he => hne (eq_of_teachingOrder he))

theorem depthOf_reached (g : Graph) {id : String} (reached : (g.hopsFrom (IsRoot g) id).Nonempty) :
    g.IsDistance (IsRoot g) id (depthOf (levelsOf g) id) := by
  obtain ⟨n, hn⟩ := reached
  obtain ⟨k, -, hd⟩ := exists_isDistance hn
  rwa [(levelsOf_measures g).depthOf_eq hd]

theorem exists_deepest {g : Graph} (nonempty : g.ids ≠ []) {id : String}
    (unreached : g.hopsFrom (IsRoot g) id = ∅) :
    ∃ deepest, IsGreatest { n | ∃ other, g.IsDistance (IsRoot g) other n } deepest ∧
      depthOf (levelsOf g) id = deepest + 1 := by
  obtain ⟨root, hr⟩ := List.exists_mem_of_ne_nil _ (roots_ne_nil nonempty)
  exact (levelsOf_measures g).depthOf_unreached ⟨root, mem_roots.mp hr⟩ unreached

/-- No edge leads more than one level down. -/
theorem depthOf_target {g : Graph} (nonempty : g.ids ≠ []) {e : Edge} (he : e ∈ g.edges) :
    depthOf (levelsOf g) e.target ≤ depthOf (levelsOf g) e.source + 1 := by
  rcases Set.eq_empty_or_nonempty (g.hopsFrom (IsRoot g) e.source) with hs | hs
  · obtain ⟨deepest, hdeepest, hdepth⟩ := exists_deepest nonempty hs
    rcases Set.eq_empty_or_nonempty (g.hopsFrom (IsRoot g) e.target) with ht | ht
    · obtain ⟨deepest', hdeepest', hdepth'⟩ := exists_deepest nonempty ht
      have := hdeepest.unique hdeepest'
      omega
    · have := hdeepest.2 ⟨_, depthOf_reached g ht⟩
      omega
  · obtain ⟨k, hk, hd⟩ := (depthOf_reached g hs).target he
    rw [(levelsOf_measures g).depthOf_eq hd]
    exact hk

/-- The plan of a graph teaches its components by their least distances from the roots, those that
no root reaches after all others, of equally distant ones the more used first, and at last by id.
The first third of them is basic. No edge leads more than one level down. -/
theorem ofGraph_teaches (g : Graph) (nonempty : g.ids ≠ []) :
    ∃ depth, Teaches g (ofGraph g) depth := by
  refine ⟨depthOf (levelsOf g), rfl, rfl, inDegree_eq_countP g, fun id _ => depthOf_reached g,
    fun id _ => exists_deepest nonempty, ordered_perm g, ?_, List.take_append_drop _ _, ?_,
    fun e => depthOf_target nonempty⟩
  · exact (ordered_increasing g).imp teachingOrder_eq_lt.mp
  · have hlength := (ordered_perm g).length_eq
    have hpos := List.length_pos_iff.mpr nonempty
    change ((ofGraph g).ordered.take (max 1 ((ofGraph g).ordered.length / 3))).length = _
    rw [List.length_take, hlength]
    omega

/-- Two components that use each other, one of them by two relations, and one that stands apart. -/
def pairGraph : Graph where
  components := [{ id := "x", name := "X", role := .general },
    { id := "y", name := "Y", role := .config }, { id := "solo", name := "Solo", role := .store }]
  edges := [⟨"x", "y", .uses⟩, ⟨"y", "x", .uses⟩, ⟨"y", "x", .configures⟩]
  cycles := []
  findings := []
  valid := by decide

theorem ofGraph_teaches_pair :
    pairGraph.ids ≠ [] ∧ ∃ depth, Teaches pairGraph (ofGraph pairGraph) depth :=
  ⟨by decide, ofGraph_teaches pairGraph (by decide)⟩

/-- What no root reaches is as deep as what the deepest component leads to. -/
example : (ofGraph pairGraph).depths = [("x", 1), ("y", 1), ("solo", 0)] := by decide

end DocAtlas.Tutorial
