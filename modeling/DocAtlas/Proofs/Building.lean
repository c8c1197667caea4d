import DocAtlas.Proofs.Edges

/-!
The graph that mentions make: an edge for each mention of another component, a finding for each that
means nothing, and a refusal exactly where ids are shared. It does not depend on the order and the
repetition of mentions, nor, but for the order of its edges and what is found about cycles, on the
order of the components.
-/
namespace DocAtlas.Graph

/-! ### Unresolved mentions -/

theorem readMention_eq_unresolved {ids : List String} {r : Resolver} {m pending : Mention} :
    readMention ids r m = some (.unresolved pending) ↔
      m.source ∈ ids ∧ r.resolve? m.target = none ∧ pending = m := by
  unfold readMention
  by_cases hs : m.source ∈ ids
  · simp only [List.contains_iff_mem.mpr hs, Bool.not_true, Bool.false_eq_true, if_false]
    cases hr : r.resolve? m.target with
    | none => simp [hs, eq_comm]
    | some answer =>
      dsimp only
      split
      · simp
      · split <;> simp
  · simp [hs]

theorem mem_unresolvedFrom {components : List Component} {mentions : List Mention} {m : Mention} :
    m ∈ unresolvedFrom components mentions ↔
      m ∈ mentions ∧ m.source ∈ components.map (·.id) ∧
        (Resolver.ofComponents components).resolve? m.target = none := by
  have hsorted : m ∈ unresolvedFrom components mentions ↔
      ∃ reading ∈ readings components mentions, reading = .unresolved m := by
    rw [unresolvedFrom, sortMentions, Order.mem_sort, List.mem_eraseDups, List.mem_filterMap]
    constructor
    · rintro ⟨reading, hr, he⟩
      cases reading with
      | edge owner e => cases he
      | unresolved pending =>
        cases he
        exact ⟨_, hr, rfl⟩
    · rintro ⟨reading, hr, rfl⟩
      exact ⟨_, hr, rfl⟩
  rw [hsorted]
  constructor
  · rintro ⟨reading, hr, rfl⟩
    obtain ⟨m', hm, hread⟩ := List.mem_filterMap.mp hr
    obtain ⟨hs, hnone, rfl⟩ := readMention_eq_unresolved.mp hread
    exact ⟨hm, hs, hnone⟩
  · rintro ⟨hm, hs, hnone⟩
    refine ⟨_, List.mem_filterMap.mpr ⟨m, hm, ?_⟩, rfl⟩
    exact readMention_eq_unresolved.mpr ⟨hs, hnone, rfl⟩

/-- The order in which unresolved mentions are sorted. -/
def mentionOrder (ids : List String) : Mention → Mention → Ordering :=
  Order.andThen (Order.byNat fun m => position ids m.source)
    (Order.andThen (Order.byText Mention.target) (Order.byText (·.relation.label)))

instance (ids : List String) : Std.TransCmp (mentionOrder ids) :=
  inferInstanceAs (Std.TransCmp (Order.andThen
    (Order.byNat fun m : Mention => position ids m.source)
    (Order.andThen (Order.byText Mention.target) (Order.byText (·.relation.label)))))

theorem label_injective : Function.Injective Relation.label := by
  intro a b h
  cases a <;> cases b <;> simp_all [Relation.label]

theorem mentionOrder_eq_eq {ids : List String} {a b : Mention} (ha : a.source ∈ ids) :
    mentionOrder ids a b = .eq ↔ a = b := by
  unfold mentionOrder
  rw [Order.andThen_eq_eq, Order.andThen_eq_eq, Order.byNat_eq_eq, Order.byText_eq_eq,
    Order.byText_eq_eq, position, position, List.idxOf_inj ha, label_injective.eq_iff]
  constructor
  · rintro ⟨hs, ht, hr⟩
    cases a
    cases b
    simp_all
  · rintro rfl
    exact ⟨rfl, rfl, rfl⟩

theorem eraseDups_nodup {α : Type} [DecidableEq α] (items : List α) : items.eraseDups.Nodup := by
  match items with
  | [] => exact List.nodup_nil
  | a :: rest =>
    rw [List.eraseDups_cons, List.nodup_cons]
    refine ⟨?_, eraseDups_nodup _⟩
    intro h
    simpa using (List.mem_filter.mp (List.mem_eraseDups.mp h)).2
termination_by items.length
decreasing_by exact Nat.lt_succ_of_le (List.length_filter_le _ _)

theorem unresolvedFrom_increasing (components : List Component) (mentions : List Mention) :
    (unresolvedFrom components mentions).Pairwise fun a b =>
      mentionOrder (components.map (·.id)) a b = .lt := by
  have hknown : ∀ m ∈ unresolvedFrom components mentions, m.source ∈ components.map (·.id) :=
    fun m hm => (mem_unresolvedFrom.mp hm).2.1
  apply Order.sort_increasing (mentionOrder (components.map (·.id)))
  apply (eraseDups_nodup _).imp_of_mem
  intro a b ha _ hne he
  exact hne ((mentionOrder_eq_eq (hknown a (Order.mem_sort.mpr ha))).mp he)

theorem unresolvedFrom_nodup (components : List Component) (mentions : List Mention) :
    (unresolvedFrom components mentions).Nodup :=
  Order.nodup_of_increasing (unresolvedFrom_increasing components mentions)

theorem edgesFrom_nodup (components : List Component) (mentions : List Mention) :
    (edgesFrom components mentions).Nodup :=
  Order.nodup_of_increasing (edgesFrom_increasing components mentions)

/-! ### Other mentions -/

section Mentions

variable (components : List Component) {mentions others : List Mention}
  (same : ∀ m, m ∈ mentions ↔ m ∈ others)
include same

theorem edgesFrom_congr : edgesFrom components mentions = edgesFrom components others := by
  apply Order.eq_of_increasing (edgesFrom_increasing components mentions)
    (edgesFrom_increasing components others)
  intro e
  simp only [mem_edgesFrom, same]

theorem unresolvedFrom_congr :
    unresolvedFrom components mentions = unresolvedFrom components others := by
  apply Order.eq_of_increasing (unresolvedFrom_increasing components mentions)
    (unresolvedFrom_increasing components others)
  intro m
  simp only [mem_unresolvedFrom, same]

/-- The same mentions make the same graph, in whatever order and however often they are given. -/
theorem build_congr : build components mentions = build components others := by
  simp only [build, edgesFrom_congr components same, unresolvedFrom_congr components same]

end Mentions

/-! ### Components in another order -/

section Components

variable {components others : List Component} (hp : components.Perm others)
  (mentions : List Mention)
include hp

theorem edgesFrom_perm : (edgesFrom components mentions).Perm (edgesFrom others mentions) := by
  apply (List.perm_ext_iff_of_nodup (edgesFrom_nodup _ _) (edgesFrom_nodup _ _)).mpr
  intro e
  simp only [mem_edgesFrom, (hp.map Component.id).mem_iff,
    Resolver.resolve?_congr fun _ => hp.mem_iff]

theorem unresolvedFrom_perm :
    (unresolvedFrom components mentions).Perm (unresolvedFrom others mentions) := by
  apply (List.perm_ext_iff_of_nodup (unresolvedFrom_nodup _ _) (unresolvedFrom_nodup _ _)).mpr
  intro m
  simp only [mem_unresolvedFrom, (hp.map Component.id).mem_iff,
    Resolver.resolve?_congr fun _ => hp.mem_iff]

end Components

/-! ### Graphs -/

/-- What is found about mentions that mean nothing. -/
def unresolvedFindings (g : Graph) : List Finding :=
  g.findings.filter (·.kind == .unresolvedReference)

theorem fields_of_of? {components : List Component} {edges : List Edge}
    {cycles : List (List String)} {findings : List Finding} {g : Graph}
    (h : of? components edges cycles findings = .ok g) :
    g.cycles = cycles ∧ g.findings = findings := by
  unfold of? at h
  split at h
  · cases h
    exact ⟨rfl, rfl⟩
  · cases h

theorem unresolvedFindings_of_build {components : List Component} {mentions : List Mention}
    {g : Graph} (h : build components mentions = .ok g) :
    unresolvedFindings g = (unresolvedFrom components mentions).map unresolvedFinding := by
  rw [unresolvedFindings, (fields_of_of? h).2, List.filter_append, List.filter_map,
    List.filter_map]
  simp [Function.comp_def, unresolvedFinding, cycleFinding]

/-- Mentions may come in any order and any number of times: the graph is the same. With the
components in another order its edges and what is found about unresolved mentions stay. -/
theorem build_independent (components : List Component) (mentions others : List Mention)
    (distinct : (components.map (·.id)).Nodup) (same : ∀ m, m ∈ mentions ↔ m ∈ others) :
    ∃ g, build components mentions = .ok g ∧ build components others = .ok g ∧
      ∀ arranged, components.Perm arranged → ∃ h, build arranged others = .ok h ∧
        g.edges.Perm h.edges ∧ (unresolvedFindings g).Perm (unresolvedFindings h) := by
  obtain ⟨g, hg, -, hedges, -⟩ := build_eq_ok others distinct
  refine ⟨g, (build_congr components same).trans hg, hg, ?_⟩
  intro arranged hp
  have hd : (arranged.map (·.id)).Nodup := (hp.map Component.id).nodup_iff.mp distinct
  obtain ⟨h, hh, -, hedges', -⟩ := build_eq_ok others hd
  refine ⟨h, hh, ?_, ?_⟩
  · rw [hedges, hedges']
    exact edgesFrom_perm hp others
  · rw [unresolvedFindings_of_build hg, unresolvedFindings_of_build hh]
    exact (unresolvedFrom_perm hp others).map unresolvedFinding

def cartComponent : Component :=
  { id := "cart", name := "Cart", role := .service, path := "cart.py" }

def cartSettings : Component :=
  { id := "cart-settings", name := "CartSettings", role := .config, path := "settings.py" }

/-- A configuration, an unknown name and a mention by an unknown component. -/
def cartMentions : List Mention :=
  [⟨"cart", "settings.CartSettings", .configures⟩, ⟨"cart", "Missing", .uses⟩,
    ⟨"cart-settings", "Cart", .uses⟩, ⟨"stranger", "Cart", .uses⟩]

theorem build_independent_reversed :
    ([cartComponent, cartSettings].map (·.id)).Nodup ∧
      (∀ m, m ∈ cartMentions ↔ m ∈ cartMentions.reverse ++ cartMentions) ∧
      ∃ g h, build [cartComponent, cartSettings] cartMentions = .ok g ∧
        build [cartComponent, cartSettings] (cartMentions.reverse ++ cartMentions) = .ok g ∧
        build [cartSettings, cartComponent] (cartMentions.reverse ++ cartMentions) = .ok h ∧
        g.edges.Perm h.edges ∧ (unresolvedFindings g).Perm (unresolvedFindings h) := by
  have distinct : ([cartComponent, cartSettings].map (·.id)).Nodup := by decide
  have same : ∀ m, m ∈ cartMentions ↔ m ∈ cartMentions.reverse ++ cartMentions := by
    intro m
    rw [List.mem_append, List.mem_reverse, or_self]
  obtain ⟨g, hg, hother, hall⟩ := build_independent _ _ _ distinct same
  obtain ⟨h, hh, hedges, hfindings⟩ := hall _ (List.Perm.swap cartSettings cartComponent [])
  exact ⟨distinct, same, g, h, hg, hother, hh, hedges, hfindings⟩

/-! ### Refusal -/

theorem build_eq_error {components : List Component} (mentions : List Mention)
    (h : ¬(components.map (·.id)).Nodup) :
    build components mentions = .error .repeatedId := by
  have hfault : fault? components (edgesFrom components mentions) = some .repeatedId := by
    rw [fault?, if_neg (fun hd => h (distinct_iff.mp hd))]
  unfold build of?
  dsimp only
  split
  · rename_i hnone
    rw [hfault] at hnone
    cases hnone
  · rename_i fault hsome
    rw [hfault] at hsome
    cases hsome
    rfl

theorem build_eq_error_iff {components : List Component} {mentions : List Mention} {fault : Fault} :
    build components mentions = .error fault ↔
      fault = .repeatedId ∧ ¬(components.map (·.id)).Nodup := by
  constructor
  · intro h
    by_cases hd : (components.map (·.id)).Nodup
    · obtain ⟨g, hg, -⟩ := build_eq_ok mentions hd
      rw [hg] at h
      cases h
    · rw [build_eq_error mentions hd] at h
      cases h
      exact ⟨rfl, hd⟩
  · rintro ⟨rfl, hd⟩
    exact build_eq_error mentions hd

/-! ### The order of edges -/

theorem byKey_eq_lt {a b : Edge} : byKey a b = .lt ↔ a.key < b.key := by
  unfold byKey
  simp only [Order.andThen_eq_lt, Order.byText_eq_lt, Order.byText_eq_eq]
  simp [Edge.key, List.cons_lt_cons_iff]

/-- Edges stand by the place of the component whose mention they come from, then by their keys. -/
theorem edgeOrder_eq_lt {ids : List String} {a b : Edge} :
    edgeOrder ids a b = .lt ↔
      position ids a.owner < position ids b.owner ∨
        position ids a.owner = position ids b.owner ∧ a.key < b.key := by
  rw [← byKey_eq_lt, edgeOrder, Order.andThen_eq_lt, Order.byNat_eq_lt, Order.byNat_eq_eq]

/-! ### Findings -/

theorem unresolvedFinding_injective : Function.Injective unresolvedFinding := by
  intro a b h
  simp only [unresolvedFinding, Finding.mk.injEq, List.cons.injEq, Prod.mk.injEq, Json.text.injEq]
    at h
  obtain ⟨-, -, hsource, -, ⟨-, htarget⟩, ⟨-, hlabel⟩, -⟩ := h
  cases a
  cases b
  simp_all [label_injective.eq_iff]

/-- A mention by a component that means another one. -/
structure Means (components : List Component) (m : Mention) (answer : String) : Prop where
  source : m.source ∈ components.map (·.id)
  found : (Resolver.ofComponents components).resolve? m.target = some answer
  other : answer ≠ m.source

/-- A mention by a component that means none. -/
structure MeansNothing (components : List Component) (m : Mention) : Prop where
  source : m.source ∈ components.map (·.id)
  nothing : (Resolver.ofComponents components).resolve? m.target = none

/-- What the graph of mentions holds. -/
structure Reflects (components : List Component) (mentions : List Mention) (g : Graph) : Prop where
  all : g.components = components
  /-- The edges are the images of the mentions. -/
  edges : ∀ e, e ∈ g.edges ↔ ∃ m ∈ mentions, ∃ answer, Means components m answer ∧
    e = (if m.relation = .configures then ⟨answer, m.source, .configures⟩
      else ⟨m.source, answer, m.relation⟩) ∧ e.owner = m.source
  apart : ∀ e ∈ g.edges, e.source ≠ e.target
  once : g.edges.Nodup
  ordered : g.edges.Pairwise fun a b =>
    position g.ids a.owner < position g.ids b.owner ∨
      position g.ids a.owner = position g.ids b.owner ∧ a.key < b.key
  /-- The findings are those of the mentions that mean nothing. -/
  findings : ∀ f, f ∈ unresolvedFindings g ↔ ∃ m ∈ mentions, MeansNothing components m ∧
    f = unresolvedFinding m
  foundOnce : (unresolvedFindings g).Nodup

theorem reflects_of_build {components : List Component} {mentions : List Mention} {g : Graph}
    (h : build components mentions = .ok g) : Reflects components mentions g := by
  obtain ⟨hd, hedges⟩ := edges_of_build h
  obtain ⟨g', hg, hcomponents, -⟩ := build_eq_ok mentions hd
  rw [hg] at h
  cases h
  have hfindings := unresolvedFindings_of_build hg
  refine ⟨hcomponents, ?_, ?_, ?_, ?_, ?_, ?_⟩
  · intro e
    rw [hedges, mem_edgesFrom]
    constructor
    · rintro ⟨m, hm, hs, answer, ha, hne, rfl⟩
      exact ⟨m, hm, answer, ⟨hs, ha, hne⟩, rfl, m.edgeTo_owner answer⟩
    · rintro ⟨m, hm, answer, ⟨hs, ha, hne⟩, he, -⟩
      exact ⟨m, hm, hs, answer, ha, hne, he⟩
  · intro e he
    exact (joins_of_mem g he).different
  · rw [hedges]
    exact edgesFrom_nodup components mentions
  · rw [hedges, ids, hcomponents]
    exact (edgesFrom_increasing components mentions).imp edgeOrder_eq_lt.mp
  · intro f
    rw [hfindings, List.mem_map]
    constructor
    · rintro ⟨m, hm, rfl⟩
      obtain ⟨hmem, hs, hnone⟩ := mem_unresolvedFrom.mp hm
      exact ⟨m, hmem, ⟨hs, hnone⟩, rfl⟩
    · rintro ⟨m, hmem, ⟨hs, hnone⟩, rfl⟩
      exact ⟨m, mem_unresolvedFrom.mpr ⟨hmem, hs, hnone⟩, rfl⟩
  · rw [hfindings]
    exact (unresolvedFrom_nodup components mentions).map unresolvedFinding_injective

/-- A graph is refused exactly where two components share an id. Else its edges are the images of
the mentions that mean another component, each once and in order, and there is one finding for each
mention that means nothing. -/
theorem build_reflects (components : List Component) (mentions : List Mention) :
    (∀ fault, build components mentions = .error fault ↔
      fault = .repeatedId ∧ ¬(components.map (·.id)).Nodup) ∧
    ((components.map (·.id)).Nodup →
      ∃ g, build components mentions = .ok g ∧ Reflects components mentions g) ∧
    Function.Injective unresolvedFinding := by
  refine ⟨fun fault => build_eq_error_iff, ?_, unresolvedFinding_injective⟩
  intro hd
  obtain ⟨g, hg, -⟩ := build_eq_ok mentions hd
  exact ⟨g, hg, reflects_of_build hg⟩

/-- A configuration that is mentioned, a name that means nothing, and a stranger. -/
theorem build_reflects_cart :
    ([cartComponent, cartSettings].map (·.id)).Nodup ∧
      ∃ g, build [cartComponent, cartSettings] cartMentions = .ok g ∧
        Reflects [cartComponent, cartSettings] cartMentions g ∧
        build [cartComponent, cartComponent] cartMentions = .error .repeatedId := by
  have hd : ([cartComponent, cartSettings].map (·.id)).Nodup := by decide
  obtain ⟨g, hg, hr⟩ := (build_reflects [cartComponent, cartSettings] cartMentions).2.1 hd
  refine ⟨hd, g, hg, hr, ?_⟩
  exact ((build_reflects [cartComponent, cartComponent] cartMentions).1 _).mpr ⟨rfl, by decide⟩

end DocAtlas.Graph
