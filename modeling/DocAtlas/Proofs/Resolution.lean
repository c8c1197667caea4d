import DocAtlas.Graph.Resolver
import DocAtlas.Proofs.Ordering

/-!
What a dotted name resolves to: removing components that are not the answer does not change it.
-/
namespace DocAtlas.Resolver

/-- A qualified name of a component with the id `answer` ends with the run of segments. -/
def Matches (components : List Component) (window : List String) (answer : String) : Prop :=
  ∃ c ∈ components, c.id = answer ∧ ∃ name ∈ c.qualifiedNames, window <:+ dottedSegments name

theorem mem_matched {components : List Component} {window : List String} {answer : String} :
    answer ∈ ((ofComponents components).entries.filter fun entry =>
        window.isSuffixOf entry.1).map (·.2) ↔ Matches components window answer := by
  constructor
  · intro h
    obtain ⟨entry, he, rfl⟩ := List.mem_map.mp h
    obtain ⟨hm, hs⟩ := List.mem_filter.mp he
    obtain ⟨c, hc, hn⟩ := List.mem_flatMap.mp hm
    obtain ⟨name, hname, rfl⟩ := List.mem_map.mp hn
    exact ⟨c, hc, rfl, name, hname, List.isSuffixOf_iff_suffix.mp hs⟩
  · rintro ⟨c, hc, rfl, name, hname, hs⟩
    apply List.mem_map.mpr
    refine ⟨(dottedSegments name, c.id), List.mem_filter.mpr ⟨?_, ?_⟩, rfl⟩
    · exact List.mem_flatMap.mpr ⟨c, hc, List.mem_map_of_mem hname⟩
    · exact List.isSuffixOf_iff_suffix.mpr hs

theorem lookup?_eq_some_iff {components : List Component} {window : List String}
    {answer : String} :
    (ofComponents components).lookup? window = some answer ↔
      Matches components window answer ∧
        ∀ other, Matches components window other → (Order.byText id answer other).isLE := by
  unfold lookup?
  rw [Order.least?_eq_some_iff, mem_matched]
  simp only [mem_matched]

theorem lookup?_eq_none_iff {components : List Component} {window : List String} :
    (ofComponents components).lookup? window = none ↔
      ∀ other, ¬Matches components window other := by
  unfold lookup?
  rw [Order.least?_eq_none, List.eq_nil_iff_forall_not_mem]
  simp only [mem_matched]

theorem mem_of_resolve? {components : List Component} {target answer : String}
    (h : (ofComponents components).resolve? target = some answer) :
    answer ∈ components.map (·.id) := by
  obtain ⟨window, -, hl⟩ := List.exists_of_findSome?_eq_some h
  obtain ⟨⟨c, hc, rfl, -⟩, -⟩ := lookup?_eq_some_iff.mp hl
  exact List.mem_map_of_mem hc

theorem lookup?_congr {components others : List Component}
    (h : ∀ c, c ∈ components ↔ c ∈ others) (window : List String) :
    (ofComponents components).lookup? window = (ofComponents others).lookup? window := by
  apply Option.ext
  intro answer
  simp only [lookup?_eq_some_iff, Matches, h]

/-- What a name means depends on which components there are, not on their order. -/
theorem resolve?_congr {components others : List Component}
    (h : ∀ c, c ∈ components ↔ c ∈ others) (target : String) :
    (ofComponents components).resolve? target = (ofComponents others).resolve? target := by
  unfold resolve?
  rw [funext (lookup?_congr h)]

theorem Matches.mono {kept components : List Component} {window : List String} {answer : String}
    (h : Matches kept window answer) (hs : kept ⊆ components) :
    Matches components window answer := by
  obtain ⟨c, hc, hi, hn⟩ := h
  exact ⟨c, hs hc, hi, hn⟩

theorem Matches.kept {kept components : List Component} {window : List String} {answer : String}
    (h : Matches components window answer) (hs : kept ⊆ components)
    (hd : (components.map (·.id)).Nodup) (ha : answer ∈ kept.map (·.id)) :
    Matches kept window answer := by
  obtain ⟨c, hc, rfl, hn⟩ := h
  obtain ⟨k, hk, he⟩ := List.mem_map.mp ha
  have hkc : k = c := List.inj_on_of_nodup_map hd (hs hk) hc he
  exact ⟨c, hkc ▸ hk, rfl, hn⟩

section Narrowing

variable {kept components : List Component} (hs : kept ⊆ components)
include hs

theorem lookup?_none_of_subset {window : List String}
    (h : (ofComponents components).lookup? window = none) :
    (ofComponents kept).lookup? window = none := by
  rw [lookup?_eq_none_iff] at h ⊢
  intro other hm
  exact h other (hm.mono hs)

theorem resolve?_none_of_subset {target : String}
    (h : (ofComponents components).resolve? target = none) :
    (ofComponents kept).resolve? target = none := by
  unfold resolve? at h ⊢
  rw [List.findSome?_eq_none_iff] at h ⊢
  intro window hw
  exact lookup?_none_of_subset hs (h window hw)

variable (hd : (components.map (·.id)).Nodup)
include hd

theorem lookup?_kept {window : List String} {answer : String}
    (h : (ofComponents components).lookup? window = some answer)
    (ha : answer ∈ kept.map (·.id)) : (ofComponents kept).lookup? window = some answer := by
  rw [lookup?_eq_some_iff] at h ⊢
  refine ⟨h.1.kept hs hd ha, ?_⟩
  intro other hm
  exact h.2 other (hm.mono hs)

/-- A name keeps its answer among fewer components if the answer is one of them. -/
theorem resolve?_kept {target answer : String}
    (h : (ofComponents components).resolve? target = some answer)
    (ha : answer ∈ kept.map (·.id)) : (ofComponents kept).resolve? target = some answer := by
  unfold resolve? at h ⊢
  generalize windows (targetSegments target) = tried at h ⊢
  induction tried with
  | nil => cases h
  | cons window rest ih =>
    rw [List.findSome?_cons] at h ⊢
    cases hl : (ofComponents components).lookup? window with
    | some found =>
      rw [hl] at h
      cases h
      rw [lookup?_kept hs hd hl ha]
    | none =>
      rw [hl] at h
      rw [lookup?_none_of_subset hs hl]
      exact ih h

end Narrowing

/-- Taking components away that are not the answer does not change it, and gives no answer to a name
that had none. -/
theorem resolve?_of_sublist {kept components : List Component} (sublist : kept.Sublist components)
    (distinct : (components.map (·.id)).Nodup) (target : String) :
    (∀ answer ∈ kept.map (·.id), (ofComponents components).resolve? target = some answer →
      (ofComponents kept).resolve? target = some answer) ∧
    (((ofComponents kept).resolve? target).isSome →
      ((ofComponents components).resolve? target).isSome) ∧
    ((∀ answer, (ofComponents components).resolve? target = some answer →
        answer ∈ kept.map (·.id)) →
      (ofComponents kept).resolve? target = (ofComponents components).resolve? target) := by
  have hkept := fun answer hm (h : (ofComponents components).resolve? target = some answer) =>
    resolve?_kept sublist.subset distinct h hm
  refine ⟨hkept, ?_, ?_⟩
  · intro hsome
    rw [Option.isSome_iff_ne_none] at hsome ⊢
    exact fun hnone => hsome (resolve?_none_of_subset sublist.subset hnone)
  · intro hm
    cases hr : (ofComponents components).resolve? target with
    | none => exact resolve?_none_of_subset sublist.subset hr
    | some answer => exact hkept answer (hm answer hr) hr

/-- Two components with one name, and a third with a longer name that ends like theirs. -/
def threeNamesakes : List Component :=
  [{ id := "a-h", name := "H", role := .service, path := "a/h.py" },
    { id := "b-h", name := "H", role := .service, path := "b/h.py" },
    { id := "c-b-h", name := "H", role := .service, path := "c/b/h.py" }]

/-- Without the first namesake `b.h.H` still means the second, not the third that ends like it. -/
theorem resolve?_of_namesakes :
    threeNamesakes.tail.Sublist threeNamesakes ∧ (threeNamesakes.map (·.id)).Nodup ∧
      (ofComponents threeNamesakes).resolve? "b.h.H" = some "b-h" ∧
      (ofComponents threeNamesakes.tail).resolve? "b.h.H" = some "b-h" := by
  have sublist := List.tail_sublist threeNamesakes
  have distinct : (threeNamesakes.map (·.id)).Nodup := by decide
  have hwhole : (ofComponents threeNamesakes).resolve? "b.h.H" = some "b-h" := by decide
  exact ⟨sublist, distinct, hwhole,
    (resolve?_of_sublist sublist distinct "b.h.H").1 "b-h" (by decide) hwhole⟩

end DocAtlas.Resolver
