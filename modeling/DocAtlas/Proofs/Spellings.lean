import DocAtlas.Indented.Reference
import DocAtlas.Indented.Walk
import DocAtlas.Proofs.Ordering
import Mathlib.Data.List.Induction
import Mathlib.Logic.Relation

/-!
The targets that a piece of code refers to. The main statement is that of all spellings those are
listed from which no other one goes on, each once, as they first come in the source.
-/
namespace DocAtlas.Indented

/-! ### What is walked -/

/-- `n` is `m` itself or stands somewhere in the tree below it. -/
abbrev Node.Holds (m n : Node) : Prop :=
  Relation.ReflTransGen (fun parent child => child ∈ parent.children) m n

theorem Node.mem_joinLevels {as bs : List (List Node)} {n : Node} :
    n ∈ (joinLevels as bs).flatten ↔ n ∈ as.flatten ∨ n ∈ bs.flatten := by
  induction as generalizing bs with
  | nil => simp [joinLevels]
  | cons a as ih =>
    cases bs with
    | nil => simp [joinLevels]
    | cons b bs =>
      rw [joinLevels, List.flatten_cons, List.mem_append, ih]
      simp only [List.flatten_cons, List.mem_append]
      tauto

theorem Node.mem_foldr_joinLevels {forests : List (List (List Node))} {n : Node} :
    n ∈ (forests.foldr joinLevels []).flatten ↔ ∃ forest ∈ forests, n ∈ forest.flatten := by
  induction forests with
  | nil => simp
  | cons forest forests ih => rw [List.foldr_cons, mem_joinLevels, ih, List.exists_mem_cons_iff]

theorem Node.mem_walk_iff {m n : Node} :
    n ∈ m.walk ↔ n = m ∨ ∃ child ∈ m.children, n ∈ child.walk := by
  rw [walk, levels_eq, List.flatten_cons, List.mem_append, List.mem_singleton, mem_foldr_joinLevels]
  simp only [List.mem_map, exists_exists_and_eq_and, walk]

theorem Node.holds_of_mem_walk {m n : Node} (h : n ∈ m.walk) : m.Holds n := by
  rcases mem_walk_iff.mp h with rfl | ⟨child, hc, hn⟩
  · exact .refl
  · exact .head hc (holds_of_mem_walk hn)
termination_by sizeOf m
decreasing_by exact sizeOf_children hc

theorem Node.mem_walk {m n : Node} : n ∈ m.walk ↔ m.Holds n := by
  refine ⟨holds_of_mem_walk, fun h => ?_⟩
  induction h using Relation.ReflTransGen.head_induction_on with
  | refl => exact mem_walk_iff.mpr (.inl rfl)
  | head hc _ ih => exact mem_walk_iff.mpr (.inr ⟨_, hc, ih⟩)

/-! ### Uses -/

/-- A name, or a chain of attributes on one, with the qualified target that it refers to. -/
inductive Refers (scope : Scope) : Node → Use → Prop
  | name {spot : Spot} {id target : String} (known : scope.qualify? id = some target)
    (shown : target ≠ "") : Refers scope (.term (.name spot id)) ⟨spot, target⟩
  | chain {spot : Spot} {value : Term} {attr base target : String}
    (based : value.dotted? = some base) (known : scope.qualify? (base ++ "." ++ attr) = some target)
    (shown : target ≠ "") : Refers scope (.term (.attribute spot value attr)) ⟨spot, target⟩

theorem use?_eq_some_iff {scope : Scope} {n : Node} {u : Use} :
    n.use? scope = some u ↔ Refers scope n u := by
  constructor
  · intro h
    unfold Node.use? at h
    dsimp only at h
    split at h
    · obtain ⟨target, ht, rfl⟩ := Option.map_eq_some_iff.mp h
      obtain ⟨hknown, hshown⟩ := Option.filter_eq_some_iff.mp ht
      exact .name hknown (by simpa using hshown)
    · obtain ⟨target, ht, rfl⟩ := Option.map_eq_some_iff.mp h
      obtain ⟨hknown, hshown⟩ := Option.filter_eq_some_iff.mp ht
      obtain ⟨dotted, hd, hknown⟩ := Option.bind_eq_some_iff.mp hknown
      obtain ⟨base, hb, rfl⟩ := Option.map_eq_some_iff.mp hd
      exact .chain hb hknown (by simpa using hshown)
    · cases h
  · rintro (⟨known, shown⟩ | ⟨based, known, shown⟩)
    · simp [Node.use?, known, shown]
    · simp [Node.use?, Term.dotted?, based, known, shown]

/-- The order of the source; at one place by target. -/
def Use.NotAfter (a b : Use) : Prop :=
  a.spot.line < b.spot.line ∨ a.spot.line = b.spot.line ∧
    (a.spot.column < b.spot.column ∨ a.spot.column = b.spot.column ∧ a.target ≤ b.target)

instance : Std.TransCmp Use.order :=
  inferInstanceAs (Std.TransCmp (Order.andThen _ (Order.andThen _ _)))

theorem Use.order_isLE {a b : Use} : (Use.order a b).isLE ↔ a.NotAfter b := by
  rw [Use.order, Order.andThen_isLE, Order.andThen_isLE, Order.byNat_eq_lt, Order.byNat_eq_lt,
    Order.byNat_eq_eq, Order.byNat_eq_eq, Order.byText_isLE]
  rfl

theorem mem_uses {scope : Scope} {nodes : List Node} {u : Use} :
    u ∈ uses scope nodes ↔ ∃ m ∈ nodes, ∃ n, m.Holds n ∧ Refers scope n u := by
  simp only [uses, Order.mem_sort, List.mem_filterMap, List.mem_flatMap, Node.mem_walk,
    use?_eq_some_iff]
  grind

theorem uses_sorted (scope : Scope) (nodes : List Node) :
    (uses scope nodes).Pairwise Use.NotAfter :=
  (Order.sort_sorted _ _).imp Use.order_isLE.mp

/-! ### Longest spellings -/

theorem extendsName_iff {base longer : String} :
    extendsName base longer = true ↔ ∃ rest, longer = base ++ "." ++ rest := by
  rw [extendsName, startsWith, List.isPrefixOf_iff_prefix]
  constructor
  · rintro ⟨rest, hrest⟩
    exact ⟨String.ofList rest, by rw [← String.toList_inj, String.toList_append, ← hrest]; simp⟩
  · rintro ⟨rest, rfl⟩
    exact ⟨rest.toList, by simp⟩

theorem length_lt_of_extendsName {base longer : String} (h : extendsName base longer = true) :
    base.toList.length < longer.toList.length := by
  obtain ⟨rest, rfl⟩ := extendsName_iff.mp h
  simp only [String.toList_append, List.length_append]
  have hdot : ".".toList.length = 1 := rfl
  omega

theorem extendsName_self (target : String) : extendsName target target = false := by
  rw [Bool.eq_false_iff]
  exact fun h => lt_irrefl _ (length_lt_of_extendsName h)

theorem extendsName_trans {base longer longest : String} (h : extendsName base longer = true)
    (h' : extendsName longer longest = true) : extendsName base longest = true := by
  obtain ⟨rest, rfl⟩ := extendsName_iff.mp h
  obtain ⟨more, rfl⟩ := extendsName_iff.mp h'
  exact extendsName_iff.mpr ⟨rest ++ "." ++ more, by simp only [String.append_assoc]⟩

/-- What is left of `targets` once all have been entered. -/
structure Longest (targets kept : List String) : Prop where
  mem : ∀ t, t ∈ kept ↔ t ∈ targets ∧ ∀ longer ∈ targets, extendsName t longer = false
  /-- Those that are not kept have given way to a longer one. -/
  covered : ∀ t ∈ targets, ∃ known ∈ kept, known = t ∨ extendsName t known = true
  ordered : kept.Pairwise fun a b => targets.idxOf a < targets.idxOf b

namespace Longest

variable {targets kept : List String} {target : String}

theorem nil : Longest [] [] := ⟨by simp, by simp, .nil⟩

/-- The places of known targets stay. -/
theorem ordered_concat (h : Longest targets kept) (target : String) :
    kept.Pairwise fun a b => (targets ++ [target]).idxOf a < (targets ++ [target]).idxOf b := by
  refine h.ordered.imp_of_mem fun {a b} ha hb hab => ?_
  rwa [List.idxOf_append_of_mem ((h.mem a).mp ha).1, List.idxOf_append_of_mem ((h.mem b).mp hb).1]

/-- A target of which a longer spelling is known, or which is known itself, adds nothing. -/
theorem skip (h : Longest targets kept) {known : String} (hknown : known ∈ kept)
    (longer : known = target ∨ extendsName target known = true) :
    Longest (targets ++ [target]) kept where
  mem := by
    intro t
    have hmem := (h.mem known).mp hknown
    rw [h.mem, List.mem_append, List.mem_singleton]
    simp only [List.forall_mem_append, List.forall_mem_singleton]
    constructor
    · rintro ⟨ht, hmax⟩
      refine ⟨.inl ht, hmax, ?_⟩
      -- What the new target extends, the known one extends as well.
      rw [Bool.eq_false_iff]
      intro hext
      have hno := Bool.eq_false_iff.mp (hmax known hmem.1)
      rcases longer with rfl | hlonger
      · exact hno hext
      · exact hno (extendsName_trans hext hlonger)
    · rintro ⟨ht | rfl, hmax, -⟩
      · exact ⟨ht, hmax⟩
      · rcases longer with rfl | hlonger
        · exact hmem
        · exact absurd hlonger (Bool.eq_false_iff.mp (hmax known hmem.1))
  covered := by
    rw [List.forall_mem_append, List.forall_mem_singleton]
    exact ⟨h.covered, known, hknown, longer⟩
  ordered := h.ordered_concat target

/-- A target that no known one spells is entered, and those that it extends give way. -/
theorem enter (h : Longest targets kept)
    (new : ∀ known ∈ kept, ¬(known = target ∨ extendsName target known = true)) :
    Longest (targets ++ [target]) (kept.filter (fun known => !extendsName known target) ++ [target])
    where
  mem := by
    -- Whatever extends the new target has a kept spelling, which would extend it too.
    have hmax : ∀ longer ∈ targets, extendsName target longer = false := by
      intro longer hl
      rw [Bool.eq_false_iff]
      intro hext
      obtain ⟨known, hk, rfl | hlonger⟩ := h.covered longer hl
      · exact new known hk (.inr hext)
      · exact new known hk (.inr (extendsName_trans hext hlonger))
    intro t
    rw [List.forall_mem_append, List.forall_mem_singleton]
    simp only [List.mem_append, List.mem_singleton, List.mem_filter, Bool.not_eq_true', h.mem]
    constructor
    · rintro (⟨⟨ht, hlong⟩, hkept⟩ | rfl)
      · exact ⟨.inl ht, hlong, hkept⟩
      · exact ⟨.inr rfl, hmax, extendsName_self t⟩
    · rintro ⟨ht | ht, hlong, hkept⟩
      · exact .inl ⟨⟨ht, hlong⟩, hkept⟩
      · exact .inr ht
  covered := by
    rw [List.forall_mem_append, List.forall_mem_singleton]
    refine ⟨fun t ht => ?_, target, by simp, .inl rfl⟩
    obtain ⟨known, hk, hlonger⟩ := h.covered t ht
    by_cases hgone : extendsName known target = true
    · refine ⟨target, by simp, .inr ?_⟩
      rcases hlonger with rfl | hlonger
      · exact hgone
      · exact extendsName_trans hlonger hgone
    · have hkept : known ∈ kept.filter fun known => !extendsName known target :=
        List.mem_filter.mpr ⟨hk, by simpa using hgone⟩
      exact ⟨known, List.mem_append_left _ hkept, hlonger⟩
  ordered := by
    have hnew : target ∉ targets := by
      intro ht
      obtain ⟨known, hk, hlonger⟩ := h.covered target ht
      exact new known hk hlonger
    rw [List.pairwise_append]
    refine ⟨(h.ordered_concat target).filter _, List.pairwise_singleton _ _, ?_⟩
    intro known hk last hlast
    have ht := ((h.mem known).mp (List.mem_filter.mp hk).1).1
    rw [List.mem_singleton.mp hlast, List.idxOf_append_of_mem ht, List.idxOf_append_of_notMem hnew]
    exact Nat.lt_add_right _ (List.idxOf_lt_length_of_mem ht)

theorem enterTarget (h : Longest targets kept) (target : String) :
    Longest (targets ++ [target]) (Indented.enterTarget kept target) := by
  unfold Indented.enterTarget
  split
  · rename_i hany
    obtain ⟨known, hk, hlonger⟩ := List.any_eq_true.mp hany
    exact h.skip hk (by simpa using hlonger)
  · rename_i hnone
    refine h.enter fun known hk hlonger => hnone (List.any_eq_true.mpr ⟨known, hk, ?_⟩)
    simpa using hlonger

end Longest

theorem longest_foldl (targets : List String) : Longest targets (targets.foldl enterTarget []) := by
  induction targets using List.reverseRecOn with
  | nil => exact .nil
  | append_singleton targets target ih =>
    rw [List.foldl_concat]
    exact ih.enterTarget target

/-- The names and attribute chains of a piece of code refer to `uses`, sorted by place and target.
Of their targets those are listed that are no proper dotted beginning of another one, each once, in
the order of their first occurrence. -/
theorem references_longest (scope : Scope) (nodes : List Node) :
    let spelled := (uses scope nodes).map Use.target
    (∀ u, u ∈ uses scope nodes ↔ ∃ m ∈ nodes, ∃ n, m.Holds n ∧ Refers scope n u) ∧
      (uses scope nodes).Pairwise Use.NotAfter ∧
      (∀ t, t ∈ references scope nodes ↔
        t ∈ spelled ∧ ∀ longer ∈ spelled, ¬∃ rest, longer = t ++ "." ++ rest) ∧
      (references scope nodes).Nodup ∧
      (references scope nodes).Pairwise fun a b => spelled.idxOf a < spelled.idxOf b := by
  intro spelled
  have hkept : Longest spelled (references scope nodes) := longest_foldl spelled
  refine ⟨fun u => mem_uses, uses_sorted scope nodes, fun t => ?_, ?_, hkept.ordered⟩
  · simp only [hkept.mem, ← extendsName_iff, Bool.not_eq_true]
  · apply hkept.ordered.imp
    rintro a b hlt rfl
    exact lt_irrefl _ hlt

end DocAtlas.Indented
