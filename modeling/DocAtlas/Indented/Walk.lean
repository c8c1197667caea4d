import DocAtlas.Indented.Syntax

/-!
Walking a syntax tree level by level, each level from left to right.

Children are smaller than their parents (`Node.sizeOf_children`), so every walk ends.
-/
namespace DocAtlas.Indented

/-! ### Children are smaller -/

theorem Parameter.sizeOf_of_default {p : Parameter} {t : Term} (h : p.default = some t) :
    sizeOf t < sizeOf p := by
  cases p
  simp only [Parameter.default] at h
  subst h
  simp
  omega

theorem Term.sizeOf_entryKey {t k : Term} (h : k ∈ t.entryKey) : sizeOf k < sizeOf t := by
  unfold entryKey at h
  split at h <;> simp at h
  subst h
  simp
  omega

theorem Term.sizeOf_entryValue (t : Term) : sizeOf t.entryValue ≤ sizeOf t := by
  cases t <;> simp [entryValue]

namespace Node

theorem sizeOf_of_eq_term {t : Term} {n : Node} (h : n = .term t) : sizeOf n = 1 + sizeOf t := by
  subst h
  simp

theorem sizeOf_of_eq_signature {s : Signature} {n : Node} (h : n = .signature s) :
    sizeOf n = 1 + sizeOf s := by
  subst h
  simp

theorem sizeOf_of_mem {ns : List Node} {n : Node} (h : n ∈ ns) : sizeOf n ≤ sizeOf ns :=
  Nat.le_of_lt (List.sizeOf_lt_of_mem h)

theorem sizeOf_of_mem_terms {ts : List Term} {n : Node} (h : n ∈ terms ts) :
    sizeOf n ≤ sizeOf ts := by
  obtain ⟨t, ht, rfl⟩ := List.mem_map.mp h
  have := List.sizeOf_lt_of_mem ht
  simp
  omega

theorem sizeOf_of_mem_optional {o : Option Term} {n : Node} (h : n ∈ optional o) :
    sizeOf n ≤ sizeOf o := by
  cases o <;> simp [optional, terms] at h
  subst h
  simp

theorem sizeOf_of_mem_statements {ss : List Statement} {n : Node} (h : n ∈ statements ss) :
    sizeOf n ≤ sizeOf ss := by
  obtain ⟨s, hs, rfl⟩ := List.mem_map.mp h
  have := List.sizeOf_lt_of_mem hs
  simp
  omega

theorem sizeOf_of_mem_parameters {ps : List Parameter} {n : Node} (h : n ∈ parameters ps) :
    sizeOf n ≤ sizeOf ps := by
  obtain ⟨p, hp, rfl⟩ := List.mem_map.mp h
  have := List.sizeOf_lt_of_mem hp
  simp
  omega

theorem sizeOf_of_mem_oneParameter {o : Option Parameter} {n : Node}
    (h : n ∈ parameters o.toList) : sizeOf n ≤ sizeOf o := by
  cases o <;> simp [parameters] at h
  subst h
  simp

theorem sizeOf_of_mem_defaults {ps : List Parameter} {n : Node}
    (h : n ∈ terms (ps.filterMap Parameter.default)) : sizeOf n ≤ sizeOf ps := by
  obtain ⟨t, ht, rfl⟩ := List.mem_map.mp h
  obtain ⟨p, hp, hd⟩ := List.mem_filterMap.mp ht
  have := Parameter.sizeOf_of_default hd
  have := List.sizeOf_lt_of_mem hp
  simp
  omega

theorem sizeOf_of_mem_keys {es : List Term} {n : Node}
    (h : n ∈ terms (es.flatMap Term.entryKey)) : sizeOf n ≤ sizeOf es := by
  obtain ⟨k, hk, rfl⟩ := List.mem_map.mp h
  obtain ⟨e, he, hk⟩ := List.mem_flatMap.mp hk
  have := Term.sizeOf_entryKey hk
  have := List.sizeOf_lt_of_mem he
  simp
  omega

theorem sizeOf_of_mem_values {es : List Term} {n : Node}
    (h : n ∈ terms (es.map Term.entryValue)) : sizeOf n ≤ sizeOf es := by
  obtain ⟨v, hv, rfl⟩ := List.mem_map.mp h
  obtain ⟨e, he, rfl⟩ := List.mem_map.mp hv
  have := Term.sizeOf_entryValue e
  have := List.sizeOf_lt_of_mem he
  simp
  omega

end Node

open Node

theorem Term.sizeOf_children {t : Term} {n : Node} (h : n ∈ t.children) : sizeOf n ≤ sizeOf t := by
  cases t <;>
    simp only [children, List.mem_append, List.mem_cons, List.not_mem_nil, or_false] at h <;>
    simp <;>
    grind [sizeOf_of_eq_term, sizeOf_of_eq_signature, → sizeOf_of_mem_terms,
      → sizeOf_of_mem_optional, → sizeOf_of_mem_keys, → sizeOf_of_mem_values]

theorem Statement.sizeOf_children {s : Statement} {n : Node} (h : n ∈ s.children) :
    sizeOf n ≤ sizeOf s := by
  cases s <;>
    simp only [children, List.mem_append, List.mem_cons, List.not_mem_nil, or_false] at h <;>
    simp <;>
    grind [sizeOf_of_eq_term, sizeOf_of_eq_signature, → sizeOf_of_mem_terms,
      → sizeOf_of_mem_optional, → sizeOf_of_mem_statements, → sizeOf_of_mem]

theorem Parameter.sizeOf_children {p : Parameter} {n : Node} (h : n ∈ p.children) :
    sizeOf n ≤ sizeOf p := by
  cases p
  simp only [children, Parameter.typed] at h
  have := sizeOf_of_mem_optional h
  simp
  omega

theorem Signature.sizeOf_children {s : Signature} {n : Node} (h : n ∈ s.children) :
    sizeOf n ≤ sizeOf s := by
  cases s
  simp only [children, positionalOnly, positional, Signature.rest, namedOnly, namedRest,
    List.filterMap_append, List.mem_append, terms, List.map_append] at h
  simp only [← terms.eq_1] at h
  simp
  grind [→ sizeOf_of_mem_parameters, → sizeOf_of_mem_defaults, → sizeOf_of_mem_oneParameter]

namespace Node

theorem sizeOf_children {m n : Node} (h : n ∈ m.children) : sizeOf n < sizeOf m := by
  cases m with
  | term t => have := Term.sizeOf_children h; simp; omega
  | parameter p => have := Parameter.sizeOf_children h; simp; omega
  | signature s => have := Signature.sizeOf_children h; simp; omega
  | statement s => have := Statement.sizeOf_children h; simp; omega
  | group ps =>
    simp only [children] at h
    have := sizeOf_of_mem h
    simp
    omega

/-! ### Levels -/

/-- Two forests side by side, level by level. -/
def joinLevels : List (List Node) → List (List Node) → List (List Node)
  | [], bs => bs
  | as, [] => as
  | a :: as, b :: bs => (a ++ b) :: joinLevels as bs

/-- The levels of the tree below a node, from the node itself down. -/
def levels (n : Node) : List (List Node) :=
  [n] :: (n.children.attach.map fun ⟨c, _⟩ => c.levels).foldr joinLevels []
termination_by sizeOf n
decreasing_by exact sizeOf_children ‹_›

theorem levels_eq (n : Node) : n.levels = [n] :: (n.children.map levels).foldr joinLevels [] := by
  rw [levels]
  simp

/-- All nodes of the tree below a node, level by level. -/
def walk (n : Node) : List Node := n.levels.flatten

/-- As `walk`, for the tree whose top has the given children. -/
def walkBelow (ns : List Node) : List Node := ((ns.map levels).foldr joinLevels []).flatten

end Node

end DocAtlas.Indented
