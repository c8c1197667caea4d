import DocAtlas.Proofs.Building
import DocAtlas.Proofs.Validity
import DocAtlas.Tutorial
import Mathlib.Data.List.Perm.Subperm
import Mathlib.Order.Bounds.Basic

/-!
The levels of a search along the edges from some starting components. The main statement is that
each level holds the components at its distance, and that there are as many levels as distances.
-/
namespace DocAtlas

/-- `target` is reached from `source` along `n` edges of any relations. -/
inductive Graph.Hops (g : Graph) (source : String) : Nat → String → Prop
  | here : Hops g source 0 source
  | along {n : Nat} {e : Edge} (way : Hops g source n e.source) (known : e ∈ g.edges) :
    Hops g source (n + 1) e.target

/-- The numbers of edges on the ways from the starting components to `id`. -/
def Graph.hopsFrom (g : Graph) (starts : String → Prop) (id : String) : Set Nat :=
  { n | ∃ start, starts start ∧ g.Hops start n id }

theorem Graph.mem_successors {g : Graph} {source target : String} :
    target ∈ g.successors source [] ↔
      ∃ e ∈ g.edges, e.source = source ∧ e.target = target := by
  simp [successors, edgesOf, and_assoc]

/-! ### Distances -/

namespace Graph

variable {g : Graph} {starts : String → Prop} {id : String} {k n : Nat}

/-- The fewest edges on a way from a starting component. -/
def IsDistance (g : Graph) (starts : String → Prop) (id : String) (n : Nat) : Prop :=
  IsLeast (g.hopsFrom starts id) n

theorem IsDistance.unique (h : g.IsDistance starts id n) (h' : g.IsDistance starts id k) : n = k :=
  IsLeast.unique h h'

theorem exists_isDistance (h : n ∈ g.hopsFrom starts id) : ∃ k ≤ n, g.IsDistance starts id k := by
  classical
  have hex : ∃ n, n ∈ g.hopsFrom starts id := ⟨n, h⟩
  exact ⟨Nat.find hex, Nat.find_min' hex h, Nat.find_spec hex, fun m hm => Nat.find_min' hex hm⟩

theorem isDistance_zero_iff : g.IsDistance starts id 0 ↔ starts id := by
  constructor
  · rintro ⟨⟨start, hs, hhops⟩, -⟩
    cases hhops
    exact hs
  · exact fun hs => ⟨⟨id, hs, .here⟩, fun n _ => Nat.zero_le n⟩

/-- An edge leads at most one further. -/
theorem IsDistance.target {e : Edge} (h : g.IsDistance starts e.source n) (he : e ∈ g.edges) :
    ∃ k ≤ n + 1, g.IsDistance starts e.target k := by
  obtain ⟨start, hs, hhops⟩ := h.1
  exact exists_isDistance ⟨start, hs, hhops.along he⟩

/-- Before a component at some distance there is one that is one edge nearer. -/
theorem IsDistance.source (h : g.IsDistance starts id (n + 1)) :
    ∃ e ∈ g.edges, e.target = id ∧ g.IsDistance starts e.source n := by
  obtain ⟨⟨start, hs, hhops⟩, hleast⟩ := h
  cases hhops with
  | @along _ e way known =>
    obtain ⟨k, hk, hd⟩ := exists_isDistance ⟨start, hs, way⟩
    obtain ⟨m, hm, hm'⟩ := hd.target known
    have hn := hleast hm'.1
    obtain rfl : k = n := by omega
    exact ⟨e, known, rfl, hd⟩

theorem IsDistance.exists_nearer (h : g.IsDistance starts id n) (hk : k ≤ n) :
    ∃ nearer, g.IsDistance starts nearer k := by
  induction n generalizing id with
  | zero => exact ⟨id, by rwa [Nat.le_zero.mp hk]⟩
  | succ n ih =>
    by_cases he : k = n + 1
    · exact ⟨id, he ▸ h⟩
    · obtain ⟨e, -, -, hsource⟩ := h.source
      exact ih hsource (by omega)

end Graph

/-! ### Levels -/

namespace Tutorial
open DocAtlas.Graph

variable {g : Graph} {starts : String → Prop} {k : Nat} {reached frontier : List String}

/-- The search stands at distance `k`: `frontier` holds the components at it, and `reached` those
that are no further. -/
structure Layer (g : Graph) (starts : String → Prop) (k : Nat) (reached frontier : List String) :
    Prop where
  mem_frontier : ∀ id, id ∈ frontier ↔ g.IsDistance starts id k
  mem_reached : ∀ id, id ∈ reached ↔ ∃ n ≤ k, g.IsDistance starts id n
  nodup : reached.Nodup
  known : reached ⊆ g.ids

theorem Layer.first {start : List String} (distinct : start.Nodup) (known : start ⊆ g.ids)
    (hstart : ∀ id, id ∈ start ↔ starts id) : Layer g starts 0 start start where
  mem_frontier := fun id => by rw [hstart, isDistance_zero_iff]
  mem_reached := by simp [hstart, isDistance_zero_iff]
  nodup := distinct
  known := known

theorem Layer.mem_spread (h : Layer g starts k reached frontier) {id : String} :
    id ∈ spread g reached frontier ↔ g.IsDistance starts id (k + 1) := by
  simp only [spread, List.mem_filter, List.mem_eraseDups, List.mem_flatMap, mem_successors,
    Bool.not_eq_true', List.contains_eq_mem, decide_eq_false_iff_not, h.mem_reached]
  constructor
  · rintro ⟨⟨source, hsource, e, he, rfl, rfl⟩, hnew⟩
    obtain ⟨n, hn, hd⟩ := ((h.mem_frontier e.source).mp hsource).target he
    -- A distance below the new one would have been reached before.
    have : k < n := not_le.mp fun hle => hnew ⟨n, hle, hd⟩
    rwa [show k + 1 = n by omega]
  · intro hd
    obtain ⟨e, he, rfl, hsource⟩ := hd.source
    refine ⟨⟨e.source, (h.mem_frontier e.source).mpr hsource, e, he, rfl, rfl⟩, ?_⟩
    rintro ⟨n, hn, hd'⟩
    have := hd.unique hd'
    omega

theorem Layer.next (h : Layer g starts k reached frontier) :
    Layer g starts (k + 1) (reached ++ spread g reached frontier) (spread g reached frontier) where
  mem_frontier := fun _ => h.mem_spread
  mem_reached := by
    intro id
    rw [List.mem_append, h.mem_reached, h.mem_spread]
    constructor
    · rintro (⟨n, hn, hd⟩ | hd)
      · exact ⟨n, Nat.le_succ_of_le hn, hd⟩
      · exact ⟨k + 1, le_rfl, hd⟩
    · rintro ⟨n, hn, hd⟩
      rcases Nat.le_or_eq_of_le_succ hn with hle | rfl
      · exact .inl ⟨n, hle, hd⟩
      · exact .inr hd
  nodup := by
    refine List.Nodup.append h.nodup ((eraseDups_nodup _).filter _) ?_
    intro id hold hnew
    have hfresh := (List.mem_filter.mp hnew).2
    simp [hold] at hfresh
  known := by
    refine List.append_subset.mpr ⟨h.known, fun id hid => ?_⟩
    obtain ⟨e, he, rfl, -⟩ := (h.mem_spread.mp hid).source
    exact (g.joins_of_mem he).target

/-- Each level holds the components at its distance, none is empty, and every distance has one. -/
structure Measures (g : Graph) (starts : String → Prop) (k : Nat) (ls : List (List String)) :
    Prop where
  level : ∀ i (hi : i < ls.length) id, id ∈ ls[i] ↔ g.IsDistance starts id (k + i)
  inhabited : ∀ l ∈ ls, l ≠ []
  reaches : ∀ id n, g.IsDistance starts id n → k ≤ n → n < k + ls.length

/-- Where nothing is at a distance, nothing is beyond it. -/
theorem Layer.measures_nil (h : Layer g starts k reached []) : Measures g starts k [] where
  level := by simp
  inhabited := by simp
  reaches := by
    intro id n hd hk
    obtain ⟨nearer, hnearer⟩ := hd.exists_nearer hk
    exact absurd ((h.mem_frontier nearer).mpr hnearer) List.not_mem_nil

theorem Layer.measures_cons (h : Layer g starts k reached frontier) (filled : frontier ≠ [])
    {ls : List (List String)} (beyond : Measures g starts (k + 1) ls) :
    Measures g starts k (frontier :: ls) where
  level := by
    intro i hi id
    cases i with
    | zero => exact h.mem_frontier id
    | succ i =>
      rw [List.getElem_cons_succ, beyond.level, Nat.add_right_comm]
      rfl
  inhabited := List.forall_mem_cons.mpr ⟨filled, beyond.inhabited⟩
  reaches := by
    intro id n hd hk
    rw [List.length_cons]
    by_cases he : n = k
    · omega
    · have := beyond.reaches id n hd (by omega)
      omega

/-- Every level but the last reaches a component that was not reached before, so there is fuel for
all of them. -/
theorem Layer.measures {fuel : Nat} (h : Layer g starts k reached frontier)
    (enough : frontier ≠ [] → g.ids.length < fuel + reached.length) :
    Measures g starts k (levels g fuel reached frontier) := by
  have hle := (List.subperm_of_subset h.nodup h.known).length_le
  induction fuel generalizing k reached frontier with
  | zero =>
    obtain rfl : frontier = [] := by
      by_contra hne
      have := enough hne
      omega
    exact h.measures_nil
  | succ fuel ih =>
    rw [levels]
    split
    · rename_i hempty
      obtain rfl := List.isEmpty_iff.mp hempty
      exact h.measures_nil
    · rename_i hsome
      rw [List.isEmpty_iff] at hsome
      have hnext := h.next
      refine h.measures_cons hsome (ih hnext ?_ (List.subperm_of_subset hnext.nodup
        hnext.known).length_le)
      intro hne
      have hnew := List.length_pos_iff.mpr hne
      have hfuel := enough hsome
      rw [List.length_append]
      omega

namespace Measures

variable {ls : List (List String)} {id : String}

theorem depthOf_eq (h : Measures g starts 0 ls) {n : Nat} (hd : g.IsDistance starts id n) :
    depthOf ls id = n := by
  have hn : n < ls.length := by
    have := h.reaches id n hd (Nat.zero_le n)
    omega
  have hmem : ∀ i (hi : i < ls.length), id ∈ ls[i] ↔ i = n := by
    intro i hi
    rw [h.level i hi, Nat.zero_add]
    exact ⟨fun hi => hi.unique hd, fun he => he ▸ hd⟩
  rw [depthOf, List.findIdx_eq hn]
  refine ⟨by simp [hmem n hn], fun i hi => ?_⟩
  simp [hmem i (by omega), hi.ne]

theorem depthOf_eq_length (h : Measures g starts 0 ls) (unreached : g.hopsFrom starts id = ∅) :
    depthOf ls id = ls.length := by
  rw [depthOf, List.findIdx_eq_length]
  intro l hl
  obtain ⟨i, hi, rfl⟩ := List.getElem_of_mem hl
  rw [← Bool.not_eq_true, List.contains_iff_mem, h.level i hi]
  intro hd
  exact Set.notMem_empty _ (unreached ▸ hd.1)

/-- What is not reached stands one level below the deepest one that is. -/
theorem depthOf_unreached (h : Measures g starts 0 ls) (rooted : ∃ start, starts start)
    (unreached : g.hopsFrom starts id = ∅) :
    ∃ deepest, IsGreatest { n | ∃ other, g.IsDistance starts other n } deepest ∧
      depthOf ls id = deepest + 1 := by
  have hdepth := h.depthOf_eq_length unreached
  obtain ⟨start, hs⟩ := rooted
  have hpos := h.reaches start 0 (isDistance_zero_iff.mpr hs) le_rfl
  have hlast : ls.length - 1 < ls.length := by omega
  obtain ⟨other, hother⟩ := List.exists_mem_of_ne_nil _
    (h.inhabited _ (List.getElem_mem hlast))
  rw [h.level _ hlast, Nat.zero_add] at hother
  refine ⟨ls.length - 1, ⟨⟨other, hother⟩, ?_⟩, by omega⟩
  rintro n ⟨further, hd⟩
  have := h.reaches further n hd (Nat.zero_le n)
  omega

end Measures

end Tutorial

end DocAtlas
