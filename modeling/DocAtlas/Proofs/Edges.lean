import DocAtlas.Graph.Build
import DocAtlas.Proofs.Resolution
import DocAtlas.Proofs.Validity
import Mathlib.Data.List.Induction

/-!
The edges that mentions come to: each once, by the place of the component whose mention it is.
-/
namespace DocAtlas

/-- The component whose mention an edge comes from. -/
def Edge.owner (e : Edge) : String := if e.relation = .configures then e.target else e.source

/-- The edge of a mention that resolves to `answer`. -/
def Mention.edgeTo (m : Mention) (answer : String) : Edge :=
  if m.relation = .configures then ⟨answer, m.source, .configures⟩
  else ⟨m.source, answer, m.relation⟩

theorem Mention.edgeTo_owner (m : Mention) (answer : String) :
    (m.edgeTo answer).owner = m.source := by
  unfold edgeTo Edge.owner
  split <;> simp_all

theorem Mention.edgeTo_ends (m : Mention) (answer : String) (known : List String) :
    ((m.edgeTo answer).source ∈ known ∧ (m.edgeTo answer).target ∈ known) ↔
      m.source ∈ known ∧ answer ∈ known := by
  unfold edgeTo
  split
  · exact and_comm
  · exact Iff.rfl

namespace Graph

theorem readMention_eq_edge {ids : List String} {r : Resolver} {m : Mention} {owner : String}
    {e : Edge} :
    readMention ids r m = some (.edge owner e) ↔
      m.source ∈ ids ∧ owner = m.source ∧
        ∃ answer, r.resolve? m.target = some answer ∧ answer ≠ m.source ∧ e = m.edgeTo answer := by
  unfold readMention
  by_cases hs : m.source ∈ ids
  · simp only [List.contains_iff_mem.mpr hs, Bool.not_true, Bool.false_eq_true, if_false]
    cases hr : r.resolve? m.target with
    | none => simp
    | some answer =>
      by_cases ha : answer = m.source
      · simp [ha]
      · simp only [beq_iff_eq, if_neg ha, Mention.edgeTo]
        split
        · simp [hs, ha, eq_comm]
        · simp [hs, ha, eq_comm]
  · simp [hs]

/-! ### Claims of edges -/

def claimsFrom (components : List Component) (mentions : List Mention) : List Claim :=
  (readings components mentions).filterMap fun
    | .edge owner edge => some ⟨owner, edge⟩
    | .unresolved _ => none

theorem edgesFrom_eq (components : List Component) (mentions : List Mention) :
    edgesFrom components mentions =
      (sortClaims (components.map (·.id)) (firstClaims (claimsFrom components mentions))).map
        (·.edge) :=
  rfl

theorem mem_claimsFrom {components : List Component} {mentions : List Mention} {claim : Claim} :
    claim ∈ claimsFrom components mentions ↔
      ∃ m ∈ mentions, m.source ∈ components.map (·.id) ∧
        ∃ answer, (Resolver.ofComponents components).resolve? m.target = some answer ∧
          answer ≠ m.source ∧ claim = ⟨m.source, m.edgeTo answer⟩ := by
  constructor
  · intro h
    obtain ⟨reading, hr, hc⟩ := List.mem_filterMap.mp h
    obtain ⟨m, hm, hread⟩ := List.mem_filterMap.mp hr
    cases reading with
    | unresolved m => cases hc
    | edge owner e =>
      cases hc
      obtain ⟨hs, rfl, answer, ha, hne, rfl⟩ := readMention_eq_edge.mp hread
      exact ⟨m, hm, hs, answer, ha, hne, rfl⟩
  · rintro ⟨m, hm, hs, answer, ha, hne, rfl⟩
    apply List.mem_filterMap.mpr
    refine ⟨.edge m.source (m.edgeTo answer), List.mem_filterMap.mpr ⟨m, hm, ?_⟩, rfl⟩
    exact readMention_eq_edge.mpr ⟨hs, rfl, answer, ha, hne, rfl⟩

theorem firstClaims_concat (claims : List Claim) (claim : Claim) :
    firstClaims (claims ++ [claim]) =
      if claim.edge ∈ (firstClaims claims).map (·.edge) then firstClaims claims
      else firstClaims claims ++ [claim] := by
  simp only [firstClaims, List.foldl_append, List.foldl_cons, List.foldl_nil]
  split <;> rename_i h <;> simp_all

theorem mem_of_mem_firstClaims {claims : List Claim} {claim : Claim}
    (h : claim ∈ firstClaims claims) : claim ∈ claims := by
  induction claims using List.reverseRecOn with
  | nil => exact h
  | append_singleton claims last ih =>
    rw [firstClaims_concat] at h
    split at h
    · exact List.mem_append_left _ (ih h)
    · rcases List.mem_append.mp h with hm | hm
      · exact List.mem_append_left _ (ih hm)
      · exact List.mem_append_right _ hm

theorem mem_edges_firstClaims {claims : List Claim} {e : Edge} :
    e ∈ (firstClaims claims).map (·.edge) ↔ e ∈ claims.map (·.edge) := by
  induction claims using List.reverseRecOn with
  | nil => rfl
  | append_singleton claims last ih =>
    rw [firstClaims_concat, List.map_append, List.mem_append, ← ih]
    split
    · rename_i hm
      constructor
      · exact .inl
      · rintro (h | h)
        · exact h
        · rw [List.map_singleton, List.mem_singleton] at h
          rw [h]
          exact hm
    · rw [List.map_append, List.mem_append]

theorem firstClaims_nodup (claims : List Claim) : ((firstClaims claims).map (·.edge)).Nodup := by
  induction claims using List.reverseRecOn with
  | nil => exact List.nodup_nil
  | append_singleton claims last ih =>
    rw [firstClaims_concat]
    split
    · exact ih
    · rename_i hnew
      rw [List.map_append, List.map_singleton, ← List.concat_eq_append]
      exact ih.concat hnew

/-! ### The order of edges -/

theorem byKey_eq_eq {a b : Edge} : byKey a b = .eq ↔ a = b := by
  unfold byKey
  rw [Order.andThen_eq_eq, Order.andThen_eq_eq, Order.byText_eq_eq, Order.byText_eq_eq,
    Order.byText_eq_eq]
  constructor
  · rintro ⟨hs, ht, hr⟩
    cases a with | mk source target relation =>
    cases b with | mk source' target' relation' =>
    cases relation <;> cases relation' <;> simp_all [Relation.label]
  · rintro rfl
    exact ⟨rfl, rfl, rfl⟩

instance : Std.TransCmp byKey :=
  inferInstanceAs (Std.TransCmp (Order.andThen (Order.byText Edge.source)
    (Order.andThen (Order.byText Edge.target) (Order.byText (·.relation.label)))))

/-- The order in which claims are sorted. -/
def claimOrder (ids : List String) : Claim → Claim → Ordering :=
  Order.andThen (Order.byNat fun c => position ids c.owner) fun a b => byKey a.edge b.edge

instance (ids : List String) : Std.TransCmp (claimOrder ids) :=
  inferInstanceAs (Std.TransCmp (Order.andThen (Order.byNat fun c : Claim => position ids c.owner)
    (Order.andThen (Order.byText (·.edge.source)) (Order.andThen (Order.byText (·.edge.target))
      (Order.byText (·.edge.relation.label))))))

/-- By the place of the owner, then by the key. -/
def edgeOrder (ids : List String) : Edge → Edge → Ordering :=
  Order.andThen (Order.byNat fun e => position ids e.owner) byKey

instance (ids : List String) : Std.TransCmp (edgeOrder ids) :=
  inferInstanceAs (Std.TransCmp (Order.andThen (Order.byNat fun e => position ids e.owner) byKey))

theorem claimOrder_eq {ids : List String} {a b : Claim} (ha : a.owner = a.edge.owner)
    (hb : b.owner = b.edge.owner) : claimOrder ids a b = edgeOrder ids a.edge b.edge := by
  simp only [claimOrder, edgeOrder, Order.andThen, Order.byNat, ha, hb]

theorem edgeOrder_eq_eq {ids : List String} {a b : Edge} : edgeOrder ids a b = .eq ↔ a = b := by
  unfold edgeOrder
  rw [Order.andThen_eq_eq, byKey_eq_eq]
  constructor
  · exact And.right
  · rintro rfl
    exact ⟨Order.byNat_eq_eq.mpr rfl, rfl⟩

theorem edgesFrom_increasing (components : List Component) (mentions : List Mention) :
    (edgesFrom components mentions).Pairwise fun a b =>
      edgeOrder (components.map (·.id)) a b = .lt := by
  have howner : ∀ claim ∈ firstClaims (claimsFrom components mentions),
      claim.owner = claim.edge.owner := by
    intro claim hc
    obtain ⟨m, -, -, answer, -, -, rfl⟩ := mem_claimsFrom.mp (mem_of_mem_firstClaims hc)
    exact (m.edgeTo_owner answer).symm
  have hdiffer : (firstClaims (claimsFrom components mentions)).Pairwise fun a b =>
      claimOrder (components.map (·.id)) a b ≠ .eq := by
    apply (List.pairwise_map.mp (firstClaims_nodup _)).imp
    intro a b hne he
    exact hne (byKey_eq_eq.mp (Order.andThen_eq_eq.mp he).2)
  have hincreasing := Order.sort_increasing (claimOrder (components.map (·.id))) hdiffer
  rw [edgesFrom_eq, List.pairwise_map]
  apply hincreasing.imp_of_mem
  intro a b ha hb h
  rwa [← claimOrder_eq (howner a (Order.mem_sort.mp ha)) (howner b (Order.mem_sort.mp hb))]

theorem mem_edgesFrom {components : List Component} {mentions : List Mention} {e : Edge} :
    e ∈ edgesFrom components mentions ↔
      ∃ m ∈ mentions, m.source ∈ components.map (·.id) ∧
        ∃ answer, (Resolver.ofComponents components).resolve? m.target = some answer ∧
          answer ≠ m.source ∧ e = m.edgeTo answer := by
  have hsorted : e ∈ edgesFrom components mentions ↔
      e ∈ (firstClaims (claimsFrom components mentions)).map (·.edge) := by
    rw [edgesFrom_eq]
    exact ((Order.sort_perm _ _).map _).mem_iff
  rw [hsorted, mem_edges_firstClaims]
  constructor
  · intro h
    obtain ⟨claim, hc, rfl⟩ := List.mem_map.mp h
    obtain ⟨m, hm, hs, answer, ha, hne, rfl⟩ := mem_claimsFrom.mp hc
    exact ⟨m, hm, hs, answer, ha, hne, rfl⟩
  · rintro ⟨m, hm, hs, answer, ha, hne, rfl⟩
    have hc := mem_claimsFrom.mpr ⟨m, hm, hs, answer, ha, hne, rfl⟩
    exact List.mem_map_of_mem hc

theorem edgesFrom_joins {components : List Component} {mentions : List Mention} {e : Edge}
    (h : e ∈ edgesFrom components mentions) : Joins (components.map (·.id)) e := by
  obtain ⟨m, -, hs, answer, ha, hne, rfl⟩ := mem_edgesFrom.mp h
  have hends := (m.edgeTo_ends answer (components.map (·.id))).mpr
    ⟨hs, Resolver.mem_of_resolve? ha⟩
  refine ⟨?_, hends.1, hends.2⟩
  unfold Mention.edgeTo
  split
  · exact hne
  · exact Ne.symm hne

/-! ### Building -/

/-- Where the ids of the components are distinct, a graph is built. -/
theorem build_eq_ok {components : List Component} (mentions : List Mention)
    (hd : (components.map (·.id)).Nodup) :
    ∃ g, build components mentions = .ok g ∧ g.components = components ∧
      g.edges = edgesFrom components mentions ∧
      g.cycles = Inheritance.findCycles (components.map (·.id)) g.edges := by
  have hv : fault? components (edgesFrom components mentions) = none := by
    refine fault?_eq_none_iff.mpr ⟨hd, fun e he => edgesFrom_joins he, ?_⟩
    apply (edgesFrom_increasing components mentions).imp
    rintro a b h rfl
    rw [edgeOrder_eq_eq.mpr rfl] at h
    cases h
  exact ⟨_, of?_eq_ok _ _ hv, rfl, rfl, rfl⟩

/-- A graph that is built has distinct ids and the edges that its mentions come to. -/
theorem edges_of_build {components : List Component} {mentions : List Mention} {g : Graph}
    (h : build components mentions = .ok g) :
    (components.map (·.id)).Nodup ∧ g.edges = edgesFrom components mentions := by
  have hd : (components.map (·.id)).Nodup := by
    unfold build at h
    dsimp only at h
    unfold of? at h
    split at h
    · rename_i hv
      exact (fault?_eq_none_iff.mp hv).1
    · cases h
  obtain ⟨g', hg, -, hedges, -⟩ := build_eq_ok mentions hd
  rw [hg] at h
  cases h
  exact ⟨hd, hedges⟩

end Graph

end DocAtlas
