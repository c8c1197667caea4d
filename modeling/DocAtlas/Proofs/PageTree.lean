import DocAtlas.Document.Basic
import Mathlib.Data.List.Nodup

/-!
Walking through a tree of pages, and changing the blocks of all its pages.
-/
namespace DocAtlas.Page

/-! ### The walk -/

theorem unfold_append (as bs : List Page) : unfold (as ++ bs) = unfold as ++ unfold bs := by
  induction as using unfold.induct with
  | case1 => simp [unfold]
  | case2 p rest ih =>
    rw [List.cons_append, unfold, unfold, ← List.append_assoc, ih, List.cons_append]

theorem unfold_eq_flatMap (pages : List Page) : unfold pages = pages.flatMap walk := by
  induction pages with
  | nil => simp [unfold]
  | cons p rest ih =>
    rw [List.flatMap_cons, ← ih, walk, ← unfold_append, List.singleton_append]

theorem walk_eq (p : Page) : p.walk = p :: p.children.flatMap walk := by
  rw [walk, unfold, List.append_nil, unfold_eq_flatMap]

theorem walk_mk (path title : String) (kind : Kind) (blocks : List Block)
    (children : List Page) :
    (mk path title kind blocks children).walk =
      mk path title kind blocks children :: children.flatMap walk :=
  walk_eq _

theorem walk_leaves {pages : List Page} (h : ∀ p ∈ pages, p.children = []) :
    pages.flatMap walk = pages := by
  induction pages with
  | nil => rfl
  | cons p rest ih =>
    rw [List.forall_mem_cons] at h
    rw [List.flatMap_cons, ih h.2, walk_eq, h.1]
    rfl

/-! ### The index -/

theorem repeatedPath?_eq_none_iff {seen paths : List String} :
    repeatedPath? seen paths = none ↔ paths.Nodup ∧ ∀ path ∈ paths, path ∉ seen := by
  induction paths generalizing seen with
  | nil => simp [repeatedPath?]
  | cons path rest ih =>
    simp only [repeatedPath?]
    split
    · rename_i h
      simp only [reduceCtorEq, false_iff]
      intro hn
      exact hn.2 path List.mem_cons_self (List.contains_iff_mem.mp h)
    · rename_i h
      rw [List.contains_iff_mem] at h
      rw [ih, List.nodup_cons, List.forall_mem_cons]
      simp only [List.mem_cons, not_or]
      constructor
      · rintro ⟨hnodup, hrest⟩
        exact ⟨⟨fun hm => (hrest path hm).1 rfl, hnodup⟩, h, fun p hp => (hrest p hp).2⟩
      · rintro ⟨⟨hfirst, hnodup⟩, -, hrest⟩
        exact ⟨hnodup, fun p hp => ⟨fun he => hfirst (he ▸ hp), hrest p hp⟩⟩

theorem index_eq_ok {p : Page} (h : (p.walk.map path).Nodup) : p.index = .ok p.walk := by
  unfold index
  rw [repeatedPath?_eq_none_iff.mpr ⟨h, fun _ _ => List.not_mem_nil⟩]

/-- A path that is new does not end the search: it is one that has been met from then on. -/
theorem repeated_cons_iff {seen rest : List String} {own path : String} (new : own ∉ seen) :
    (∃ before after, own :: rest = before ++ path :: after ∧ (path ∈ seen ∨ path ∈ before) ∧
        before.Nodup ∧ ∀ p ∈ before, p ∉ seen) ↔
      ∃ before after, rest = before ++ path :: after ∧ (path ∈ own :: seen ∨ path ∈ before) ∧
        before.Nodup ∧ ∀ p ∈ before, p ∉ own :: seen := by
  have hmet : ∀ before : List String,
      path ∈ seen ∨ path ∈ own :: before ↔ path ∈ own :: seen ∨ path ∈ before := by
    intro before
    rw [List.mem_cons, List.mem_cons, or_left_comm, or_assoc]
  have hnew : ∀ before : List String, ((own :: before).Nodup ∧ ∀ p ∈ own :: before, p ∉ seen) ↔
      before.Nodup ∧ ∀ p ∈ before, p ∉ own :: seen := by
    intro before
    rw [List.nodup_cons, List.forall_mem_cons]
    constructor
    · rintro ⟨⟨hown, hnodup⟩, -, hbefore⟩
      refine ⟨hnodup, fun p hp => ?_⟩
      rw [List.mem_cons, not_or]
      exact ⟨fun he => hown (he ▸ hp), hbefore p hp⟩
    · rintro ⟨hnodup, hbefore⟩
      exact ⟨⟨fun hown => hbefore own hown List.mem_cons_self, hnodup⟩, new,
        fun p hp hs => hbefore p hp (List.mem_cons_of_mem _ hs)⟩
  constructor
  · rintro ⟨before, after, hsplit, hpath, hbefore⟩
    cases before with
    | nil =>
      obtain ⟨rfl, -⟩ := List.cons.inj hsplit
      exact absurd (hpath.resolve_right List.not_mem_nil) new
    | cons first before =>
      obtain ⟨rfl, hrest⟩ := List.cons.inj hsplit
      exact ⟨before, after, hrest, (hmet before).mp hpath, (hnew before).mp hbefore⟩
  · rintro ⟨before, after, rfl, hpath, hbefore⟩
    exact ⟨own :: before, after, rfl, (hmet before).mpr hpath, (hnew before).mpr hbefore⟩

/-- The repeated path is the first one that has been met before. -/
theorem repeatedPath?_eq_some_iff {seen paths : List String} {path : String} :
    repeatedPath? seen paths = some path ↔
      ∃ before after, paths = before ++ path :: after ∧ (path ∈ seen ∨ path ∈ before) ∧
        before.Nodup ∧ ∀ own ∈ before, own ∉ seen := by
  induction paths generalizing seen with
  | nil => simp [repeatedPath?]
  | cons own rest ih =>
    rw [repeatedPath?]
    split
    · rename_i hseen
      rw [List.contains_iff_mem] at hseen
      rw [Option.some.injEq]
      constructor
      · intro h
        subst path
        exact ⟨[], rest, rfl, .inl hseen, .nil, List.forall_mem_nil _⟩
      · rintro ⟨before, after, hsplit, -, -, hnew⟩
        cases before with
        | nil => exact (List.cons.inj hsplit).1
        | cons first before =>
          obtain ⟨rfl, -⟩ := List.cons.inj hsplit
          exact absurd hseen (hnew own List.mem_cons_self)
    · rename_i hnew
      rw [List.contains_iff_mem] at hnew
      rw [ih, repeated_cons_iff hnew]

theorem index_eq_ok_iff {p : Page} {pages : List Page} :
    p.index = .ok pages ↔ (p.walk.map path).Nodup ∧ pages = p.walk := by
  constructor
  · intro h
    cases hr : repeatedPath? [] (p.walk.map path) with
    | some shared => simp [index, hr] at h
    | none =>
      simp only [index, hr, Except.ok.injEq] at h
      exact ⟨(repeatedPath?_eq_none_iff.mp hr).1, h.symm⟩
  · intro h
    rw [h.2, index_eq_ok h.1]

theorem index_eq_error_iff {p : Page} {shared : String} :
    p.index = .error shared ↔
      ∃ before after, p.walk.map path = before ++ shared :: after ∧ before.Nodup ∧
        shared ∈ before := by
  have hsome : p.index = .error shared ↔ repeatedPath? [] (p.walk.map path) = some shared := by
    unfold index
    cases repeatedPath? [] (p.walk.map path) with
    | none => simp
    | some own => simp
  rw [hsome, repeatedPath?_eq_some_iff]
  simp only [List.not_mem_nil, false_or, not_false_eq_true, implies_true, and_true]
  constructor
  · rintro ⟨before, after, hsplit, hmet, hnodup⟩
    exact ⟨before, after, hsplit, hnodup, hmet⟩
  · rintro ⟨before, after, hsplit, hnodup, hmet⟩
    exact ⟨before, after, hsplit, hmet, hnodup⟩

/-- Where pages share a path, the index is refused, and the error names a path that they share. -/
theorem index_eq_error {p : Page} (h : ¬(p.walk.map path).Nodup) :
    ∃ shared, p.index = .error shared ∧ 2 ≤ (p.walk.map path).count shared := by
  cases hi : p.index with
  | ok pages => exact absurd (index_eq_ok_iff.mp hi).1 h
  | error shared =>
    obtain ⟨before, after, hsplit, -, hmet⟩ := index_eq_error_iff.mp hi
    have hbefore := List.count_pos_iff.mpr hmet
    refine ⟨shared, rfl, ?_⟩
    rw [hsplit, List.count_append, List.count_cons_self]
    omega

/-! ### References -/

theorem mem_references {p : Page} {r : Reference} :
    r ∈ p.references ↔ ∃ q ∈ p.walk, ∃ b ∈ q.blocks, b.reference? = some r := by
  simp only [references, List.mem_flatMap, List.mem_filterMap]

/-- The blocks of pages, with the paths of their pages. -/
def placed (pages : List Page) : List (String × Block) :=
  pages.flatMap fun p => p.blocks.map fun b => (p.path, b)

theorem references_eq (p : Page) : p.references = (placed p.walk).filterMap (·.2.reference?) := by
  rw [references, placed, List.filterMap_flatMap]
  simp only [List.filterMap_map, Function.comp_def]

/-! ### Editing the blocks of a tree -/

mutual

theorem mapBlocks_eq_self {f : Page → List Block} :
    ∀ p : Page, (∀ q ∈ p.walk, f q = q.blocks) → mapBlocks f p = p
  | mk path title kind blocks children, h => by
    rw [walk_mk, List.forall_mem_cons] at h
    rw [mapBlocks, h.1, mapAllBlocks_eq_self children h.2]
    rfl

theorem mapAllBlocks_eq_self {f : Page → List Block} :
    ∀ pages : List Page, (∀ q ∈ pages.flatMap walk, f q = q.blocks) → mapAllBlocks f pages = pages
  | [], _ => rfl
  | p :: rest, h => by
    rw [List.flatMap_cons, List.forall_mem_append] at h
    rw [mapAllBlocks, mapBlocks_eq_self p h.1, mapAllBlocks_eq_self rest h.2]

end

/-- On a page and on all below it the blocks are edited; paths, titles, kinds and the order of the
pages stay. -/
inductive Edited (edit : List Block → List Block → Prop) : Page → Page → Prop
  | mk {path title : String} {kind : Kind} {blocks edited : List Block}
      {children after : List Page} (own : edit blocks edited)
      (below : List.Forall₂ (Edited edit) children after) :
      Edited edit (.mk path title kind blocks children) (.mk path title kind edited after)

section MapBlocks

variable {f : Page → List Block}

mutual

theorem edited_mapBlocks {edit : List Block → List Block → Prop} :
    ∀ p : Page, (∀ q ∈ p.walk, edit q.blocks (f q)) → Edited edit p (mapBlocks f p)
  | mk path title kind blocks children, h => by
    rw [walk_mk, List.forall_mem_cons] at h
    rw [mapBlocks]
    exact .mk h.1 (edited_mapAllBlocks children h.2)

theorem edited_mapAllBlocks {edit : List Block → List Block → Prop} :
    ∀ pages : List Page, (∀ q ∈ pages.flatMap walk, edit q.blocks (f q)) →
      List.Forall₂ (Edited edit) pages (mapAllBlocks f pages)
  | [], _ => .nil
  | p :: rest, h => by
    rw [List.flatMap_cons, List.forall_mem_append] at h
    rw [mapAllBlocks]
    exact .cons (edited_mapBlocks p h.1) (edited_mapAllBlocks rest h.2)

end

mutual

theorem walk_mapBlocks : ∀ p : Page, (mapBlocks f p).walk = p.walk.map (mapBlocks f)
  | mk path title kind blocks children => by
    rw [mapBlocks, walk_mk, walk_mk, List.map_cons, mapBlocks, walk_mapAllBlocks children]

theorem walk_mapAllBlocks : ∀ pages : List Page,
    (mapAllBlocks f pages).flatMap walk = (pages.flatMap walk).map (mapBlocks f)
  | [] => rfl
  | p :: rest => by
    rw [mapAllBlocks, List.flatMap_cons, List.flatMap_cons, List.map_append, walk_mapBlocks p,
      walk_mapAllBlocks rest]

end

@[simp] theorem path_mapBlocks (p : Page) : (mapBlocks f p).path = p.path := by
  cases p
  rfl

@[simp] theorem blocks_mapBlocks (p : Page) : (mapBlocks f p).blocks = f p := by
  cases p
  rfl

mutual

theorem mapBlocks_mapBlocks {g : Page → List Block} :
    ∀ p : Page, mapBlocks g (mapBlocks f p) = mapBlocks (fun q => g (mapBlocks f q)) p
  | mk path title kind blocks children => by
    rw [mapBlocks, mapBlocks, mapBlocks, mapBlocks, mapAllBlocks_mapAllBlocks children]

theorem mapAllBlocks_mapAllBlocks {g : Page → List Block} : ∀ pages : List Page,
    mapAllBlocks g (mapAllBlocks f pages) = mapAllBlocks (fun q => g (mapBlocks f q)) pages
  | [] => rfl
  | p :: rest => by
    rw [mapAllBlocks, mapAllBlocks, mapAllBlocks, mapBlocks_mapBlocks p,
      mapAllBlocks_mapAllBlocks rest]

end

mutual

theorem mapBlocks_congr {g : Page → List Block} :
    ∀ p : Page, (∀ q ∈ p.walk, f q = g q) → mapBlocks f p = mapBlocks g p
  | mk path title kind blocks children, h => by
    rw [walk_mk, List.forall_mem_cons] at h
    rw [mapBlocks, mapBlocks, h.1, mapAllBlocks_congr children h.2]

theorem mapAllBlocks_congr {g : Page → List Block} : ∀ pages : List Page,
    (∀ q ∈ pages.flatMap walk, f q = g q) → mapAllBlocks f pages = mapAllBlocks g pages
  | [], _ => rfl
  | p :: rest, h => by
    rw [List.flatMap_cons, List.forall_mem_append] at h
    rw [mapAllBlocks, mapAllBlocks, mapBlocks_congr p h.1, mapAllBlocks_congr rest h.2]

end

theorem paths_mapBlocks (p : Page) : (mapBlocks f p).walk.map path = p.walk.map path := by
  rw [walk_mapBlocks, List.map_map]
  apply List.map_congr_left
  intro q _
  exact path_mapBlocks q

end MapBlocks

end DocAtlas.Page
