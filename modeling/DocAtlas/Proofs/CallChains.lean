import DocAtlas.Proofs.DepthFirst
import DocAtlas.Proofs.Entries
import DocAtlas.Proofs.Ordering
import DocAtlas.Proofs.Validity
import Mathlib.Algebra.BigOperators.Group.List.Basic
import Mathlib.Algebra.GroupWithZero.Nat
import Mathlib.Data.List.Perm.Subperm

/-!
The chain of calls that is shown of a graph. The main statement is that it is the recursive search
from the component that uses the most others, with all components that it reaches.
-/
namespace DocAtlas.Graph

/-- `a` uses `b`. -/
def Uses (g : Graph) (a b : String) : Prop := ⟨a, b, .uses⟩ ∈ g.edges

/-- `a` uses more components than `b`, or as many and has the lesser id. -/
def IsBusier (g : Graph) (a b : String) : Prop :=
  g.outDegree b [.uses] < g.outDegree a [.uses] ∨
    g.outDegree b [.uses] = g.outDegree a [.uses] ∧ a < b

/-- A diagram of the calls that `start` sets off, in the order in which they are discovered. -/
structure Traces (g : Graph) (d : Diagram) (start : String) (calls : List (String × String)) :
    Prop where
  known : start ∈ g.ids
  busiest : ∀ id ∈ g.ids, id ≠ start → g.IsBusier start id
  neighbours : ∀ a, (g.usedBy a).Pairwise (· < ·) ∧ ∀ b, b ∈ g.usedBy a ↔ g.Uses a b
  searched : Searches g.usedBy [start] start (g.usedBy start) calls
  participants : d.nodes =
    (start :: calls.map Prod.snd).map fun id => { id := id, label := g.nameOf id }
  steps : d.steps = calls.mapIdx fun i c => ⟨i + 1, c.1, c.2, c.1 ++ " calls " ++ c.2⟩
  distinct : (d.nodes.map (·.id)).Nodup
  reached : ∀ id, id ∈ d.nodes.map (·.id) ↔ Relation.ReflTransGen g.Uses start id
  entered : ∀ id ∈ d.nodes.map (·.id), id ≠ start → ∃ s,
    d.steps.filter (·.target == id) = [s] ∧ [s.source, id].Sublist (d.nodes.map (·.id))

/-! ### Neighbours -/

variable {g : Graph} {a b start : String} {calls : List (String × String)}

theorem mem_edgesOf_uses {e : Edge} :
    e ∈ g.edgesOf [.uses] ↔ e ∈ g.edges ∧ e.relation = .uses := by
  rw [mem_edgesOf (List.cons_ne_nil _ _), List.mem_singleton]

theorem mem_successors_uses : b ∈ g.successors a [.uses] ↔ g.Uses a b := by
  simp only [successors, List.mem_map, List.mem_filter, mem_edgesOf_uses, beq_iff_eq]
  constructor
  · rintro ⟨⟨source, target, relation⟩, ⟨⟨he, rfl⟩, rfl⟩, rfl⟩
    exact he
  · exact fun he => ⟨_, ⟨⟨he, rfl⟩, rfl⟩, rfl⟩

theorem mem_usedBy : b ∈ g.usedBy a ↔ g.Uses a b := by
  rw [usedBy, Order.sortTexts, Order.mem_sort, mem_successors_uses]

theorem usedBy_subset (g : Graph) (a : String) : g.usedBy a ⊆ g.ids :=
  fun _ h => (g.joins_of_mem (mem_usedBy.mp h)).target

theorem successors_uses_nodup (g : Graph) (a : String) : (g.successors a [.uses]).Nodup := by
  refine List.Nodup.map_on ?_ ((g.edgesOf_nodup _).filter _)
  rintro ⟨source, target, relation⟩ he ⟨source', target', relation'⟩ he' rfl
  simp only [List.mem_filter, mem_edgesOf_uses, beq_iff_eq] at he he'
  obtain ⟨⟨-, rfl⟩, rfl⟩ := he
  obtain ⟨⟨-, rfl⟩, rfl⟩ := he'
  rfl

theorem usedBy_increasing (g : Graph) (a : String) : (g.usedBy a).Pairwise (· < ·) := by
  have hdiffer : (g.successors a [.uses]).Pairwise fun b c => Order.byText id b c ≠ .eq :=
    (successors_uses_nodup g a).imp fun hne he => hne (Order.byText_eq_eq.mp he)
  exact (Order.sort_increasing _ hdiffer).imp Order.byText_eq_lt.mp

theorem length_usedBy (g : Graph) (a : String) : (g.usedBy a).length = g.outDegree a [.uses] :=
  (Order.sort_perm _ _).length_eq

/-! ### The start -/

theorem busiest?_eq_none : g.busiest? = none ↔ ∀ e ∈ g.edges, e.relation ≠ .uses := by
  rw [busiest?, Order.least?_eq_none, List.map_eq_nil_iff, List.eq_nil_iff_forall_not_mem]
  simp only [mem_edgesOf_uses, not_and]

theorem outDegree_pos : 0 < g.outDegree a [.uses] ↔ ∃ b, g.Uses a b := by
  rw [outDegree, List.length_pos_iff_exists_mem]
  exact exists_congr fun _ => mem_successors_uses

theorem isBusier_of_busiest? (h : g.busiest? = some start) :
    start ∈ g.ids ∧ ∀ other ∈ g.ids, other ≠ start → g.IsBusier start other := by
  have hdiffer : ∀ a b, Order.andThen (Order.byNatDown fun id => (g.successors id [.uses]).length)
      (Order.byText id) a b = .eq → a = b := fun a b he =>
    Order.byText_eq_eq.mp (Order.andThen_eq_eq.mp he).2
  rw [busiest?, Order.least?_eq_some_iff_lt hdiffer] at h
  obtain ⟨hstart, hleast⟩ := h
  obtain ⟨e, he, rfl⟩ := List.mem_map.mp hstart
  obtain ⟨hedge, huses⟩ := mem_edgesOf_uses.mp he
  refine ⟨(g.joins_of_mem hedge).source, fun other _ hne => ?_⟩
  by_cases hcalls : ∃ b, g.Uses other b
  · obtain ⟨b, hb⟩ := hcalls
    have hsource := List.mem_map_of_mem (f := Edge.source) (mem_edgesOf_uses.mpr ⟨hb, rfl⟩)
    have hlt := hleast other hsource hne
    simp only [Order.andThen_eq_lt, Order.byNatDown, Order.byNat_eq_lt, Order.byNat_eq_eq,
      Order.byText_eq_lt] at hlt
    exact hlt
  · -- A component that uses nothing is no caller, but has fewer calls than any caller.
    left
    rw [Nat.eq_zero_of_not_pos fun hpos => hcalls (outDegree_pos.mp hpos)]
    refine outDegree_pos.mpr ⟨e.target, ?_⟩
    rwa [Uses, ← huses]

/-! ### The fuel -/

theorem sum_outDegree_le (g : Graph) {ids : List String} (distinct : ids.Nodup) :
    (ids.map fun a => g.outDegree a [.uses]).sum ≤ (g.edgesOf [.uses]).length := by
  have hsum : (ids.map fun a => g.outDegree a [.uses]).sum =
      (ids.flatMap fun a => (g.edgesOf [.uses]).filter (·.source == a)).length := by
    rw [List.length_flatMap]
    congr 1
    refine List.map_congr_left fun a _ => ?_
    rw [outDegree, successors, List.length_map]
  rw [hsum]
  refine (List.subperm_of_subset (List.nodup_flatMap.mpr ⟨fun a _ => ?_, ?_⟩) ?_).length_le
  · exact (g.edgesOf_nodup _).filter _
  · refine distinct.imp fun {a b} hne e ha hb => hne ?_
    simp only [List.mem_filter, beq_iff_eq] at ha hb
    exact ha.2.symm.trans hb.2
  · intro e he
    obtain ⟨a, -, he⟩ := List.mem_flatMap.mp he
    exact (List.mem_filter.mp he).1

/-- Every component is left at most once, and every edge looked at at most once. -/
theorem effort_le (known : start ∈ g.ids)
    (searched : Searches g.usedBy [start] start (g.usedBy start) calls) :
    effort g.usedBy (g.usedBy start) calls ≤ g.components.length + (g.edgesOf [.uses]).length := by
  have hnodup : (start :: calls.map Prod.snd).Nodup := searched.nodup (List.nodup_singleton start)
  have hsub : start :: calls.map Prod.snd ⊆ g.ids := by
    refine List.cons_subset.mpr ⟨known, fun a ha => ?_⟩
    obtain ⟨c, hc, rfl⟩ := List.mem_map.mp ha
    exact g.usedBy_subset _ (searched.calls_follow (List.Subset.refl _) c hc).1
  have hids := (List.subperm_of_subset hnodup hsub).length_le
  have hedges := g.sum_outDegree_le hnodup
  simp only [List.map_cons, List.map_map, List.sum_cons, List.length_cons, List.length_map, ids,
    Function.comp_def] at hids hedges
  simp only [effort, List.sum_map_add, List.map_const', List.sum_replicate_nat, Nat.mul_one,
    length_usedBy]
  omega

/-! ### The view -/

theorem callChain_eq (known : start ∈ g.ids)
    (searched : Searches g.usedBy [start] start (g.usedBy start) calls) :
    g.callChain start = ({ entered := [start] } : Walk).after calls :=
  follow_eq searched (effort_le known searched)

theorem target_callSteps (calls : List (String × String)) :
    (callSteps calls).map (·.target) = calls.map Prod.snd := by
  refine List.ext_getElem ?_ fun i _ _ => ?_
  · simp [callSteps]
  · simp [callSteps]

/-- A component that a search enters is entered by one step, from one that was entered before. -/
theorem entered_once (searched : Searches g.usedBy [start] start (g.usedBy start) calls)
    {target : String} (ht : target ∈ start :: calls.map Prod.snd) (hne : target ≠ start) :
    ∃ s, (callSteps calls).filter (·.target == target) = [s] ∧
      [s.source, target].Sublist (start :: calls.map Prod.snd) := by
  have hnodup : (start :: calls.map Prod.snd).Nodup := searched.nodup (List.nodup_singleton start)
  have htargets : ((callSteps calls).map (·.target)).Nodup := by
    rw [target_callSteps]
    exact hnodup.tail
  rw [List.mem_cons, or_iff_right hne, ← target_callSteps] at ht
  obtain ⟨s, hs, rfl⟩ := List.mem_map.mp ht
  refine ⟨s, Keyed.filter_key htargets hs, ?_⟩
  obtain ⟨i, hi, rfl⟩ := List.mem_mapIdx.mp hs
  exact (searched.calls_follow (List.Subset.refl _) _ (List.getElem_mem hi)).2

theorem traces_of_searches (known : start ∈ g.ids)
    (busiest : ∀ id ∈ g.ids, id ≠ start → g.IsBusier start id) (chosen : g.busiest? = some start)
    (searched : Searches g.usedBy [start] start (g.usedBy start) calls) :
    g.Traces g.sequenceView start calls := by
  have hnodes : g.sequenceView.nodes =
      (start :: calls.map Prod.snd).map fun id => { id := id, label := g.nameOf id } := by
    simp [sequenceView, chosen, callChain_eq known searched, Walk.after]
  have hsteps : g.sequenceView.steps = callSteps calls := by
    simp [sequenceView, chosen, callChain_eq known searched, Walk.after]
  have hids : g.sequenceView.nodes.map (·.id) = start :: calls.map Prod.snd := by
    rw [hnodes, List.map_map]
    exact List.map_id _
  have hreached : ∀ target, target ∈ start :: calls.map Prod.snd ↔
      Relation.ReflTransGen g.Uses start target := by
    intro target
    rw [searched.mem_iff_reached, funext₂ fun a b => propext (mem_usedBy (g := g))]
  refine ⟨known, busiest, fun a => ⟨g.usedBy_increasing a, fun b => mem_usedBy⟩, searched, hnodes,
    hsteps, ?_, ?_, ?_⟩
  · rw [hids]
    exact searched.nodup (List.nodup_singleton start)
  · rw [hids]
    exact hreached
  · rw [hids, hsteps]
    exact fun target ht hne => entered_once searched ht hne

/-- The sequence view of a graph in which something is used traces the calls of the recursive
search from the component that uses the most others; that of any other graph is empty. -/
theorem sequenceView_traces (g : Graph) :
    ((∃ e ∈ g.edges, e.relation = .uses) → ∃ start calls, g.Traces g.sequenceView start calls) ∧
      ((∀ e ∈ g.edges, e.relation ≠ .uses) →
        g.sequenceView.nodes = [] ∧ g.sequenceView.steps = []) := by
  constructor
  · rintro ⟨e, he, huses⟩
    cases hchosen : g.busiest? with
    | none => exact absurd huses (busiest?_eq_none.mp hchosen e he)
    | some start =>
      obtain ⟨known, hbusiest⟩ := isBusier_of_busiest? hchosen
      obtain ⟨calls, hsearched⟩ := exists_searches (fun a _ => g.usedBy_subset a) [start] start
        (g.usedBy_subset start)
      exact ⟨start, calls, traces_of_searches known hbusiest hchosen hsearched⟩
  · intro hnone
    simp [sequenceView, busiest?_eq_none.mpr hnone, callSteps]

/-- Components that use each other in a circle, one of them reached in two ways and one not at all.
-/
def ringGraph : Graph where
  components := ["a", "b", "c", "d", "e"].map fun id => { id := id, name := id, role := .general }
  edges := [⟨"b", "d", .uses⟩, ⟨"b", "c", .uses⟩, ⟨"c", "a", .uses⟩, ⟨"a", "b", .uses⟩,
    ⟨"a", "d", .uses⟩, ⟨"e", "a", .uses⟩, ⟨"c", "e", .inherits⟩]
  cycles := []
  findings := []
  valid := by decide

theorem sequenceView_traces_ring :
    (∃ e ∈ ringGraph.edges, e.relation = .uses) ∧
      ∃ start calls, ringGraph.Traces ringGraph.sequenceView start calls :=
  ⟨by decide, (sequenceView_traces ringGraph).1 (by decide)⟩

end DocAtlas.Graph
