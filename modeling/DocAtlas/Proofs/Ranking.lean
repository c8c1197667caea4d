import DocAtlas.Extract.Surface
import DocAtlas.Proofs.Ordering

/-!
Which candidates a bound keeps, in their order: those that come first in the ranking, however the
mentions are arranged, and under a larger bound the same ones with others between them.
-/
namespace DocAtlas.Extract

/-! ### The order of what is kept -/

instance : Std.TransCmp rankOrder :=
  inferInstanceAs (Std.TransCmp (Order.andThen (Order.byNatDown Ranked.weight)
    (Order.andThen (Order.byNatDown Ranked.operations) (Order.byNat Ranked.position))))

theorem rank_components (candidates : List Component) (mentions : List Mention) :
    (rank candidates mentions).map (·.component) = candidates := by
  apply List.ext_getElem
  · simp [rank]
  · intro n _ _
    simp [rank]

theorem rank_increasing (candidates : List Component) (mentions : List Mention) :
    (rank candidates mentions).Pairwise fun a b =>
      Order.byNat Ranked.position a b = .lt := by
  rw [List.pairwise_iff_getElem]
  intro i j hi hj hij
  simp [rank, Order.byNat, hij]

/-- Where there are no more candidates than may be kept, ranking them changes nothing. -/
theorem surface_eq (limit : Nat) (candidates : List Component) (mentions : List Mention) :
    surface limit candidates mentions =
      (Order.sort (Order.byNat Ranked.position)
        ((Order.sort rankOrder (rank candidates mentions)).take limit)).map (·.component) := by
  unfold surface
  split
  · rename_i hfew
    have hsorted := Order.sort_perm rankOrder (rank candidates mentions)
    have hall : (Order.sort rankOrder (rank candidates mentions)).length ≤ limit := by
      rw [hsorted.length_eq, rank, List.length_mapIdx]
      exact hfew
    rw [List.take_of_length_le hall,
      Order.sort_eq_of_perm hsorted (rank_increasing candidates mentions), rank_components]
  · rfl

theorem surface_sublist (limit : Nat) (candidates : List Component) (mentions : List Mention) :
    (surface limit candidates mentions).Sublist candidates := by
  have htaken : ((Order.sort rankOrder (rank candidates mentions)).take limit).Subperm
      (rank candidates mentions) :=
    (List.take_sublist _ _).subperm.trans (Order.sort_perm _ _).subperm
  have h := (Order.sort_sublist htaken (rank_increasing candidates mentions)).map (·.component)
  rwa [← surface_eq, rank_components] at h

/-- No more are kept than there may be, and no fewer if there are enough. -/
theorem surface_length (limit : Nat) (candidates : List Component) (mentions : List Mention) :
    (surface limit candidates mentions).length = min limit candidates.length := by
  rw [surface_eq, List.length_map, (Order.sort_perm _ _).length_eq, List.length_take,
    (Order.sort_perm _ _).length_eq, rank, List.length_mapIdx]

/-! ### The ranking -/

/-- How many mentions by others mean a component, if all candidates can be meant. -/
def inbound (candidates : List Component) (mentions : List Mention) (c : Component) : Nat :=
  mentions.countP fun m =>
    (Resolver.ofComponents candidates).resolve? m.target == some c.id && m.source != c.id

/-- Its operations, once for every mention by others. -/
def weight (candidates : List Component) (mentions : List Mention) (c : Component) : Nat :=
  c.operations.length * inbound candidates mentions c

/-- The heavier of two candidates comes first in the ranking, of equally heavy ones that with more
operations, and at last the one that was seen first. -/
def Outranks (candidates : List Component) (mentions : List Mention) (a b : Component) : Prop :=
  weight candidates mentions b < weight candidates mentions a ∨
    weight candidates mentions b = weight candidates mentions a ∧
      (b.operations.length < a.operations.length ∨
        b.operations.length = a.operations.length ∧ candidates.idxOf a < candidates.idxOf b)

variable {candidates : List Component} {mentions : List Mention}

theorem count_hits (c : Component) :
    (hits (Resolver.ofComponents candidates) mentions).count c.id =
      inbound candidates mentions c := by
  rw [hits, List.count_filterMap, inbound]
  apply List.countP_congr
  intro m _
  cases (Resolver.ofComponents candidates).resolve? m.target with
  | none => simp
  | some id =>
    rw [beq_iff_eq, Option.filter_eq_some_iff, Bool.and_eq_true, beq_iff_eq, bne_iff_ne,
      bne_iff_ne, Option.some_inj]
    exact and_congr_right fun _ => ne_comm

theorem mem_rank (distinct : candidates.Nodup) {r : Ranked} (h : r ∈ rank candidates mentions) :
    r.position = candidates.idxOf r.component ∧ r.operations = r.component.operations.length ∧
      r.weight = weight candidates mentions r.component := by
  obtain ⟨i, hi, rfl⟩ := List.mem_mapIdx.mp h
  refine ⟨(distinct.idxOf_getElem i hi).symm, rfl, ?_⟩
  rw [weight, ← count_hits]
  rfl

theorem outranks_of_rankOrder (distinct : candidates.Nodup) {a b : Ranked}
    (ha : a ∈ rank candidates mentions) (hb : b ∈ rank candidates mentions)
    (h : rankOrder a b = .lt) : Outranks candidates mentions a.component b.component := by
  obtain ⟨haposition, haoperations, haweight⟩ := mem_rank distinct ha
  obtain ⟨hbposition, hboperations, hbweight⟩ := mem_rank distinct hb
  simp only [rankOrder, Order.byNatDown, Order.andThen_eq_lt, Order.byNat_eq_lt,
    Order.byNat_eq_eq] at h
  rwa [haposition, haoperations, haweight, hbposition, hboperations, hbweight] at h

variable (candidates mentions) in
theorem ranking_increasing :
    (Order.sort rankOrder (rank candidates mentions)).Pairwise fun a b =>
      rankOrder a b = .lt := by
  apply Order.sort_increasing
  apply (rank_increasing candidates mentions).imp
  intro a b hlt heq
  rw [(Order.andThen_eq_eq.mp (Order.andThen_eq_eq.mp heq).2).2] at hlt
  cases hlt

/-! ### What a bound keeps -/

theorem mem_surface {limit : Nat} {c : Component} :
    c ∈ surface limit candidates mentions ↔
      ∃ r ∈ (Order.sort rankOrder (rank candidates mentions)).take limit, r.component = c := by
  rw [surface_eq, List.mem_map]
  simp only [Order.mem_sort]

/-- Whatever is kept comes before all that is not. -/
theorem outranks_of_mem_surface (distinct : candidates.Nodup) {limit : Nat} {kept dropped : Component}
    (hk : kept ∈ surface limit candidates mentions) (hd : dropped ∈ candidates)
    (hn : dropped ∉ surface limit candidates mentions) :
    Outranks candidates mentions kept dropped := by
  obtain ⟨k, hfirst, rfl⟩ := mem_surface.mp hk
  rw [← rank_components candidates mentions] at hd
  obtain ⟨d, hranked, rfl⟩ := List.mem_map.mp hd
  have hsorted := ranking_increasing candidates mentions
  have hmem : d ∈ Order.sort rankOrder (rank candidates mentions) :=
    Order.mem_sort.mpr hranked
  rw [← List.take_append_drop limit (Order.sort rankOrder _)] at hsorted hmem
  have hrest := (List.mem_append.mp hmem).resolve_left fun ht => hn (mem_surface.mpr ⟨d, ht, rfl⟩)
  exact outranks_of_rankOrder distinct (Order.mem_sort.mp (List.mem_of_mem_take hfirst)) hranked
    ((List.pairwise_append.mp hsorted).2.2 k hfirst d hrest)

theorem surface_mono {narrow wide : Nat} (h : narrow ≤ wide) :
    (surface narrow candidates mentions).Sublist (surface wide candidates mentions) := by
  rw [surface_eq, surface_eq]
  apply List.Sublist.map
  have hkept := (List.take_sublist wide (Order.sort rankOrder _)).subperm.trans
    (Order.sort_perm rankOrder (rank candidates mentions)).subperm
  apply Order.sort_sublist
  · exact (List.take_sublist_take_left h).subperm.trans (Order.sort_perm _ _).symm.subperm
  · exact (rank_increasing candidates mentions).sublist
      (Order.sort_sublist hkept (rank_increasing candidates mentions))

theorem rank_perm {others : List Mention} (h : others.Perm mentions) :
    rank candidates others = rank candidates mentions := by
  have hcount : ∀ id, (hits (Resolver.ofComponents candidates) others).count id =
      (hits (Resolver.ofComponents candidates) mentions).count id :=
    fun id => (h.filterMap _).count_eq id
  simp only [rank, hcount]

/-- Only how often a component is meant counts, not when. -/
theorem surface_perm (limit : Nat) {others : List Mention} (h : others.Perm mentions) :
    surface limit candidates others = surface limit candidates mentions := by
  rw [surface, surface, rank_perm h]

/-- A bound keeps as many candidates as there may be, in their own order, and they are those that
come first in the ranking. The order of the mentions does not matter, and a larger bound keeps the
same candidates with others between them. -/
theorem surface_outranks (distinct : (candidates.map (·.id)).Nodup) {others : List Mention}
    (reordered : others.Perm mentions) {narrow wide : Nat} (within : narrow ≤ wide) :
    (surface narrow candidates mentions).Sublist candidates ∧
      (surface narrow candidates mentions).length = min narrow candidates.length ∧
      (∀ kept ∈ surface narrow candidates mentions, ∀ dropped ∈ candidates,
        dropped ∉ surface narrow candidates mentions →
          Outranks candidates mentions kept dropped) ∧
      surface narrow candidates others = surface narrow candidates mentions ∧
      (surface narrow candidates mentions).Sublist (surface wide candidates mentions) :=
  ⟨surface_sublist narrow candidates mentions, surface_length narrow candidates mentions,
    fun _ hkept _ hdropped hnot => outranks_of_mem_surface distinct.of_map hkept hdropped hnot,
    surface_perm narrow reordered, surface_mono within⟩

def shopComponent (id : String) (operations : List String) : Component where
  id := id
  name := id
  role := .service
  operations := operations.map fun name => ⟨name, [], unspecified⟩
  path := id ++ ".py"

/-- The candidate that was seen first has the most operations, the last one is mentioned most. -/
def shopCandidates : List Component :=
  [shopComponent "cart" ["add", "remove"], shopComponent "orders" ["place"],
    shopComponent "ledger" ["enter"]]

def shopMentions : List Mention :=
  [⟨"cart", "orders", .uses⟩, ⟨"orders", "orders", .uses⟩, ⟨"cart", "ledger", .uses⟩,
    ⟨"orders", "ledger", .uses⟩]

theorem surface_shop :
    surface 1 shopCandidates shopMentions = [shopComponent "ledger" ["enter"]] := by
  have hranking : Order.sort rankOrder (rank shopCandidates shopMentions) =
      (rank shopCandidates shopMentions).reverse :=
    Order.sort_eq_of_perm (List.reverse_perm _).symm (by decide)
  have hposition : Order.sort (Order.byNat Ranked.position)
      ((rank shopCandidates shopMentions).reverse.take 1) =
        (rank shopCandidates shopMentions).reverse.take 1 :=
    Order.sort_eq_of_perm (List.Perm.refl _) (by decide)
  rw [surface_eq, hranking, hposition]
  decide

theorem surface_outranks_shop :
    (shopCandidates.map (·.id)).Nodup ∧ shopMentions.reverse.Perm shopMentions ∧ 1 ≤ 2 ∧
      surface 1 shopCandidates shopMentions.reverse = [shopComponent "ledger" ["enter"]] ∧
      Outranks shopCandidates shopMentions (shopComponent "ledger" ["enter"])
        (shopComponent "cart" ["add", "remove"]) ∧
      shopComponent "ledger" ["enter"] ∈ surface 2 shopCandidates shopMentions := by
  have distinct : (shopCandidates.map (·.id)).Nodup := by decide
  have reordered := List.reverse_perm shopMentions
  obtain ⟨-, -, hfirst, hsame, hmore⟩ :=
    surface_outranks distinct reordered (show 1 ≤ 2 by decide)
  rw [surface_shop] at hfirst hsame hmore
  refine ⟨distinct, reordered, by decide, hsame, ?_, hmore.subset (List.mem_singleton_self _)⟩
  exact hfirst _ (List.mem_singleton_self _) _ (by decide) (by decide)

end DocAtlas.Extract
