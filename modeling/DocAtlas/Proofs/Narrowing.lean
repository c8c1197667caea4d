import DocAtlas.Proofs.Claiming
import DocAtlas.Proofs.Edges
import DocAtlas.Proofs.Ranking

/-!
What becomes of the edges of a graph when fewer components are surfaced.

Edges between surfaced components stay, in their order. A mention of a component that is no longer
surfaced can come to mean another one that matches it less well.
-/
namespace DocAtlas.Graph

/-! ### Places among fewer ids -/

section Places

variable {kept ids : List String} (hs : kept.Sublist ids) (hd : ids.Nodup)

theorem position_increasing (hd : ids.Nodup) :
    ids.Pairwise fun a b => position ids a < position ids b := by
  rw [List.pairwise_iff_getElem]
  intro i j hi hj hij
  unfold position
  rwa [hd.idxOf_getElem i hi, hd.idxOf_getElem j hj]

include hs

theorem position_eq_iff {a b : String} (ha : a ∈ kept) :
    position kept a = position kept b ↔ position ids a = position ids b := by
  unfold position
  rw [List.idxOf_inj ha, List.idxOf_inj (hs.subset ha)]

include hd

theorem position_lt_of_kept {a b : String} (ha : a ∈ kept) (hb : b ∈ kept)
    (h : position kept a < position kept b) : position ids a < position ids b := by
  have hp := List.pairwise_iff_getElem.mp ((position_increasing hd).sublist hs)
  have hlt := hp (position kept a) (position kept b) (List.idxOf_lt_length_of_mem ha)
    (List.idxOf_lt_length_of_mem hb) h
  simpa only [position, List.getElem_idxOf] using hlt

theorem position_lt_iff {a b : String} (ha : a ∈ kept) (hb : b ∈ kept) :
    position kept a < position kept b ↔ position ids a < position ids b := by
  constructor
  · exact position_lt_of_kept hs hd ha hb
  · intro h
    rcases Nat.lt_trichotomy (position kept a) (position kept b) with hlt | heq | hgt
    · exact hlt
    · rw [(List.idxOf_inj ha).mp heq] at h
      exact absurd h (Nat.lt_irrefl _)
    · exact absurd (position_lt_of_kept hs hd hb ha hgt) (Nat.lt_asymm h)

theorem edgeOrder_kept {a b : Edge} (ha : a.owner ∈ kept) (hb : b.owner ∈ kept) :
    edgeOrder kept a b = edgeOrder ids a b := by
  simp only [edgeOrder, Order.andThen, Order.byNat, position_lt_iff hs hd ha hb, beq_iff_eq,
    position_eq_iff hs ha]

end Places

/-! ### Edges among fewer components -/

/-- The mentions by components that are there. -/
def mentionsBy (components : List Component) (mentions : List Mention) : List Mention :=
  mentions.filter fun m => (components.map (·.id)).contains m.source

theorem mem_edges_mentionsBy {components : List Component} {mentions : List Mention} {e : Edge} :
    e ∈ edgesFrom components (mentionsBy components mentions) ↔
      ∃ m ∈ mentions, m.source ∈ components.map (·.id) ∧
        ∃ answer, (Resolver.ofComponents components).resolve? m.target = some answer ∧
          answer ≠ m.source ∧ e = m.edgeTo answer := by
  rw [mem_edgesFrom]
  constructor
  · rintro ⟨m, hm, h⟩
    exact ⟨m, (List.mem_filter.mp hm).1, h⟩
  · rintro ⟨m, hm, hs, h⟩
    exact ⟨m, List.mem_filter.mpr ⟨hm, List.contains_iff_mem.mpr hs⟩, hs, h⟩

/-- A mention by a kept component means one that is not kept, and comes to mean another one among
the kept ones. -/
structure Redirected (components kept : List Component) (m : Mention) (answer : String) : Prop where
  source : m.source ∈ kept.map (·.id)
  lost : ∃ id, (Resolver.ofComponents components).resolve? m.target = some id ∧
    id ∉ kept.map (·.id)
  found : (Resolver.ofComponents kept).resolve? m.target = some answer
  other : answer ≠ m.source

/-- The edges that have both ends among the ids. -/
def edgesAmong (ids : List String) (edges : List Edge) : List Edge :=
  edges.filter fun e => ids.contains e.source && ids.contains e.target

theorem mem_edgesAmong {ids : List String} {edges : List Edge} {e : Edge} :
    e ∈ edgesAmong ids edges ↔ e ∈ edges ∧ e.source ∈ ids ∧ e.target ∈ ids := by
  simp [edgesAmong]

theorem owner_mem_of_edgesAmong {ids : List String} {edges : List Edge} {e : Edge}
    (h : e ∈ edgesAmong ids edges) : e.owner ∈ ids := by
  obtain ⟨-, hsource, htarget⟩ := mem_edgesAmong.mp h
  unfold Edge.owner
  split
  · exact htarget
  · exact hsource

section Narrowing

variable {components kept : List Component} {mentions : List Mention}
  (hs : kept.Sublist components) (hd : (components.map (·.id)).Nodup)
include hs hd

theorem mem_edges_kept {e : Edge} :
    e ∈ edgesFrom kept (mentionsBy kept mentions) ↔
      (e ∈ edgesFrom components (mentionsBy components mentions) ∧
        e.source ∈ kept.map (·.id) ∧ e.target ∈ kept.map (·.id)) ∨
      ∃ m ∈ mentions, ∃ answer, Redirected components kept m answer ∧ e = m.edgeTo answer := by
  rw [mem_edges_mentionsBy, mem_edges_mentionsBy]
  constructor
  · rintro ⟨m, hm, hsource, answer, hfound, hother, rfl⟩
    cases hwhole : (Resolver.ofComponents components).resolve? m.target with
    | none =>
      rw [Resolver.resolve?_none_of_subset hs.subset hwhole] at hfound
      cases hfound
    | some id =>
      by_cases hkept : id ∈ kept.map (·.id)
      · have hsame := Resolver.resolve?_kept hs.subset hd hwhole hkept
        rw [hfound, Option.some.injEq] at hsame
        rw [← hsame] at hwhole hkept
        left
        exact ⟨⟨m, hm, (hs.map _).subset hsource, answer, hwhole, hother, rfl⟩,
          (m.edgeTo_ends answer _).mpr ⟨hsource, hkept⟩⟩
      · exact .inr ⟨m, hm, answer, ⟨hsource, ⟨id, hwhole, hkept⟩, hfound, hother⟩, rfl⟩
  · rintro (⟨⟨m, hm, -, answer, hwhole, hother, rfl⟩, hends⟩ | ⟨m, hm, answer, hr, rfl⟩)
    · obtain ⟨hsource, hkept⟩ := (m.edgeTo_ends answer _).mp hends
      exact ⟨m, hm, hsource, answer, Resolver.resolve?_kept hs.subset hd hwhole hkept, hother, rfl⟩
    · exact ⟨m, hm, hr.source, answer, hr.found, hr.other, rfl⟩

theorem edgesAmong_increasing :
    (edgesAmong (kept.map (·.id)) (edgesFrom components (mentionsBy components mentions))).Pairwise
      fun a b => edgeOrder (kept.map (·.id)) a b = .lt := by
  apply ((edgesFrom_increasing components (mentionsBy components mentions)).filter _).imp_of_mem
  intro a b ha hb h
  rwa [edgeOrder_kept (hs.map _) hd (owner_mem_of_edgesAmong ha) (owner_mem_of_edgesAmong hb)]

/-- The edges between kept components stay in their order. -/
theorem edgesAmong_sublist :
    (edgesAmong (kept.map (·.id)) (edgesFrom components (mentionsBy components mentions))).Sublist
      (edgesFrom kept (mentionsBy kept mentions)) := by
  have heq : edgesAmong (kept.map (·.id)) (edgesFrom components (mentionsBy components mentions)) =
      (edgesFrom kept (mentionsBy kept mentions)).filter
        ((edgesFrom components (mentionsBy components mentions)).contains ·) := by
    apply Order.eq_of_increasing (edgesAmong_increasing hs hd)
      ((edgesFrom_increasing kept (mentionsBy kept mentions)).filter _)
    intro e
    rw [mem_edgesAmong, List.mem_filter, List.contains_iff_mem]
    constructor
    · intro h
      exact ⟨(mem_edges_kept hs hd).mpr (.inl h), h.1⟩
    · rintro ⟨hnarrow, hfull⟩
      have hj := edgesFrom_joins hnarrow
      exact ⟨hfull, hj.source, hj.target⟩
  rw [heq]
  exact List.filter_sublist

theorem edges_kept_eq
    (hnone : ∀ m ∈ mentions, ∀ answer, ¬Redirected components kept m answer) :
    edgesFrom kept (mentionsBy kept mentions) =
      edgesAmong (kept.map (·.id)) (edgesFrom components (mentionsBy components mentions)) := by
  apply Order.eq_of_increasing (edgesFrom_increasing kept (mentionsBy kept mentions))
    (edgesAmong_increasing hs hd)
  intro e
  rw [mem_edges_kept hs hd, mem_edgesAmong]
  constructor
  · rintro (h | ⟨m, hm, answer, hr, -⟩)
    · exact h
    · exact absurd hr (hnone m hm answer)
  · exact .inl

end Narrowing

/-! ### Graphs of more and of fewer components -/

/-- Between surfaced components a bound keeps all edges and their order. What it adds are the edges
of mentions that mean a component which is not surfaced, and another one among those that are.
Names that mean a surfaced component, or none at all, mean the same under every bound. -/
theorem edges_under_bound (units : List (SourceUnit × Extract.Outcome)) (whole bound : Nat)
    (enough : (Extract.gather units).known.length ≤ whole) :
    let wide := (Extract.gather units).extraction whole
    let close := (Extract.gather units).extraction bound
    ∃ full narrow, build wide.components wide.mentions = .ok full ∧
      build close.components close.mentions = .ok narrow ∧
      full.components = (Extract.gather units).known ∧
      narrow.components.Sublist full.components ∧
      (∀ e, e ∈ narrow.edges ↔
        (e ∈ full.edges ∧ e.source ∈ narrow.ids ∧ e.target ∈ narrow.ids) ∨
        ∃ m ∈ (Extract.gather units).mentions, ∃ answer,
          Redirected full.components narrow.components m answer ∧ e = m.edgeTo answer) ∧
      (edgesAmong narrow.ids full.edges).Sublist narrow.edges ∧
      ((∀ m ∈ (Extract.gather units).mentions, ∀ answer,
          ¬Redirected full.components narrow.components m answer) →
        narrow.edges = edgesAmong narrow.ids full.edges) ∧
      (∀ target answer,
        (Resolver.ofComponents full.components).resolve? target = some answer →
          answer ∈ narrow.ids →
            (Resolver.ofComponents narrow.components).resolve? target = some answer) ∧
      ∀ target, (Resolver.ofComponents full.components).resolve? target = none →
        (Resolver.ofComponents narrow.components).resolve? target = none := by
  intro wide close
  have hd : ((Extract.gather units).known.map (·.id)).Nodup := Extract.gather_nodup units
  have hs : close.components.Sublist (Extract.gather units).known :=
    Extract.surface_sublist bound _ _
  have hwide : wide.components = (Extract.gather units).known := if_pos enough
  have hmentions : wide.mentions =
      mentionsBy (Extract.gather units).known (Extract.gather units).mentions :=
    congrArg (mentionsBy · (Extract.gather units).mentions) hwide
  rw [hwide, hmentions]
  obtain ⟨full, hfull, hfullComponents, hfullEdges, -⟩ := build_eq_ok _ hd
  obtain ⟨narrow, hnarrow, hnarrowComponents, hnarrowEdges, -⟩ :=
    build_eq_ok close.mentions (hd.sublist (hs.map _))
  have hids : narrow.ids = close.components.map (·.id) := by
    rw [ids, hnarrowComponents]
  refine ⟨full, narrow, hfull, hnarrow, hfullComponents, ?_⟩
  rw [hfullComponents, hnarrowComponents, hfullEdges, hnarrowEdges, hids]
  exact ⟨hs, fun _ => mem_edges_kept hs hd, edgesAmong_sublist hs hd, edges_kept_eq hs hd,
    fun _ _ h hm => Resolver.resolve?_kept hs.subset hd h hm,
    fun _ h => Resolver.resolve?_none_of_subset hs.subset h⟩

def callingComponent : Component :=
  { id := "a", name := "A", role := .general, operations := [⟨"run", [], unspecified⟩]
    path := "a.py" }

def emptyComponent : Component := { id := "b-h", name := "H", role := .general, path := "b/h.py" }

def fullComponent : Component :=
  { id := "c-h", name := "H", role := .general, operations := [⟨"go", [], unspecified⟩]
    path := "c/h.py" }

/-- Two components go by the name that is mentioned, and the one that is meant has no operations. -/
def twoNamesakes : List (SourceUnit × Extract.Outcome) :=
  [(⟨"a.py", some "python", 0, ""⟩, .read ⟨[callingComponent], [⟨"a", "pkg.h.H", .uses⟩]⟩),
    (⟨"b/h.py", some "python", 0, ""⟩, .read ⟨[emptyComponent], []⟩),
    (⟨"c/h.py", some "python", 0, ""⟩, .read ⟨[fullComponent], []⟩)]

theorem edges_of_namesakes_under_bound :
    (Extract.gather twoNamesakes).known.length ≤ 3 ∧
      ∃ full narrow,
        build ((Extract.gather twoNamesakes).extraction 3).components
          ((Extract.gather twoNamesakes).extraction 3).mentions = .ok full ∧
        build ((Extract.gather twoNamesakes).extraction 2).components
          ((Extract.gather twoNamesakes).extraction 2).mentions = .ok narrow ∧
        ∀ e, e ∈ narrow.edges ↔
          (e ∈ full.edges ∧ e.source ∈ narrow.ids ∧ e.target ∈ narrow.ids) ∨
          ∃ m ∈ (Extract.gather twoNamesakes).mentions, ∃ answer,
            Redirected full.components narrow.components m answer ∧ e = m.edgeTo answer := by
  have enough : (Extract.gather twoNamesakes).known.length ≤ 3 := by decide
  obtain ⟨full, narrow, hfull, hnarrow, -, -, hedges, -⟩ :=
    edges_under_bound twoNamesakes 3 2 enough
  exact ⟨enough, full, narrow, hfull, hnarrow, hedges⟩

theorem surface_namesakes :
    ((Extract.gather twoNamesakes).extraction 2).components =
      [callingComponent, fullComponent] := by
  have hrank : Order.sort Extract.rankOrder (Extract.rank (Extract.gather twoNamesakes).known
      (Extract.gather twoNamesakes).mentions) =
        [⟨callingComponent, 0, 1, 0⟩, ⟨fullComponent, 2, 1, 0⟩, ⟨emptyComponent, 1, 0, 1⟩] :=
    Order.sort_eq_of_perm (List.Perm.cons _ (List.Perm.swap _ _ _)) (by decide)
  have hposition : Order.sort (Order.byNat Extract.Ranked.position)
      [⟨callingComponent, 0, 1, 0⟩, ⟨fullComponent, 2, 1, 0⟩] =
        [⟨callingComponent, 0, 1, 0⟩, ⟨fullComponent, 2, 1, 0⟩] :=
    Order.sort_eq_of_perm (List.Perm.refl _) (by decide)
  change Extract.surface 2 (Extract.gather twoNamesakes).known
    (Extract.gather twoNamesakes).mentions = _
  rw [Extract.surface, if_neg (by decide), hrank]
  exact congrArg (List.map (·.component)) hposition

/-- Under a bound of two the mention means the namesake that is left, which no edge leads to in the
graph of all three components. -/
theorem bound_redirects_mention :
    ∃ full narrow,
      build ((Extract.gather twoNamesakes).extraction 3).components
        ((Extract.gather twoNamesakes).extraction 3).mentions = .ok full ∧
      build ((Extract.gather twoNamesakes).extraction 2).components
        ((Extract.gather twoNamesakes).extraction 2).mentions = .ok narrow ∧
      ⟨"a", "c-h", .uses⟩ ∈ narrow.edges ∧ ⟨"a", "c-h", .uses⟩ ∉ full.edges := by
  have hmentions : ((Extract.gather twoNamesakes).extraction 2).mentions =
      mentionsBy [callingComponent, fullComponent] (Extract.gather twoNamesakes).mentions :=
    congrArg (mentionsBy · (Extract.gather twoNamesakes).mentions) surface_namesakes
  have hall : (((Extract.gather twoNamesakes).extraction 3).components.map (·.id)).Nodup := by
    decide
  have hleft : ([callingComponent, fullComponent].map Component.id).Nodup := by decide
  obtain ⟨full, hfull, -, hfullEdges, -⟩ :=
    build_eq_ok ((Extract.gather twoNamesakes).extraction 3).mentions hall
  obtain ⟨narrow, hnarrow, -, hnarrowEdges, -⟩ := build_eq_ok
    (mentionsBy [callingComponent, fullComponent] (Extract.gather twoNamesakes).mentions) hleft
  rw [surface_namesakes, hmentions]
  refine ⟨full, narrow, hfull, hnarrow, ?_, ?_⟩
  · rw [hnarrowEdges, mem_edgesFrom]
    exact ⟨⟨"a", "pkg.h.H", .uses⟩, by decide, by decide, "c-h", by decide, by decide, rfl⟩
  · rw [hfullEdges, mem_edgesFrom]
    rintro ⟨m, hm, -, answer, hanswer, -, he⟩
    have hm : m ∈ [(⟨"a", "pkg.h.H", .uses⟩ : Mention)] := hm
    rw [List.mem_singleton.mp hm] at hanswer he
    have hmeant : (Resolver.ofComponents
        ((Extract.gather twoNamesakes).extraction 3).components).resolve? "pkg.h.H" =
          some "b-h" := by
      decide
    rw [hmeant] at hanswer
    cases hanswer
    exact absurd he (by decide)

end DocAtlas.Graph
