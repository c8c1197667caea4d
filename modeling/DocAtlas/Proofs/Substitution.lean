import DocAtlas.Proofs.Repairing

/-!
Which page a dangling reference is pointed at: the first of those most like it. The choice is made by
paths and titles alone, so it does not matter what has become of other references before.
-/
namespace DocAtlas

/-- What a reference is compared with. -/
def Page.face (p : Page) : String × String := (p.path, p.title)

namespace Review

/-! ### Blocks -/

section

variable {policy : Policy} {like : Likeness} {pages : List Page} {r : Reference}

/-- What a review leaves of a block: a dangling reference goes to its substitute, if there is one.
-/
inductive Pointed (policy : Policy) (like : Likeness) (pages : List Page) (b : Block) :
    Option Block → Prop
  | kept (within : b.Within (pages.map Page.path)) : Pointed policy like pages b (some b)
  | retargeted {r : Reference} {p : Page} (reference : b.reference? = some r)
      (dangling : r.target ∉ pages.map Page.path) (substitute : IsSubstitute policy like pages r p) :
      Pointed policy like pages b (some (.link p.path r.label r.relation b.text b.heading))
  | dropped {r : Reference} (reference : b.reference? = some r)
      (dangling : r.target ∉ pages.map Page.path)
      (without : ∀ p, ¬IsSubstitute policy like pages r p) :
      Pointed policy like pages b (remains b)

theorem pointed_judge (policy : Policy) (like : Likeness) (pages : List Page) (b : Block) :
    Pointed policy like pages b ((judge policy like pages b).apply b) := by
  cases hd : danglingOf pages b with
  | none =>
    have hwithin := danglingOf_eq_none.mp hd
    rw [judge_eq_settled policy like hwithin, settled_apply]
    exact .kept hwithin
  | some r =>
    obtain ⟨hr, hmissing⟩ := danglingOf_eq_some.mp hd
    rw [judge_dangling hd]
    cases hs : substitute? policy like pages r with
    | none => exact .dropped hr hmissing (substitute?_eq_none_iff.mp hs)
    | some found =>
      obtain ⟨p, hp, htarget, -⟩ := substitute?_eq_some_iff.mp hs
      dsimp only [Verdict.apply]
      rw [htarget]
      exact .retargeted hr hmissing hp

theorem Pointed.eq_link {b : Block} {left : Option Block} (h : Pointed policy like pages b left)
    (hr : b.reference? = some r) (dangling : r.target ∉ pages.map Page.path) {p : Page}
    (hp : IsSubstitute policy like pages r p) :
    left = some (.link p.path r.label r.relation b.text b.heading) := by
  cases h with
  | kept within => exact absurd (within r hr) dangling
  | retargeted reference _ substitute =>
    obtain rfl := Option.some.inj (reference.symm.trans hr)
    rw [substitute.unique hp]
  | dropped reference _ without =>
    obtain rfl := Option.some.inj (reference.symm.trans hr)
    exact absurd hp (without p)

/-! ### Trees that are edited meanwhile -/

theorem forall₂_face {others : List Page} (h : pages.map Page.face = others.map Page.face) :
    List.Forall₂ (fun p q => p.face = q.face) pages others := by
  rwa [← List.forall₂_eq_eq_eq, List.forall₂_map_left_iff, List.forall₂_map_right_iff] at h

theorem paths_of_face {others : List Page} (h : pages.map Page.face = others.map Page.face) :
    pages.map Page.path = others.map Page.path := by
  have hpaths := congrArg (List.map Prod.fst) h
  rwa [List.map_map, List.map_map] at hpaths

/-- A reference fits pages of one path and title alike. -/
theorem fit_congr (like : Likeness) (r : Reference) {p q : Page} (h : p.face = q.face) :
    fit like r p = fit like r q := by
  obtain ⟨hpath, htitle⟩ := Prod.mk.inj h
  rw [fit, fit, hpath, htitle]

theorem substitute?_congr (policy : Policy) (like : Likeness) (r : Reference) {others : List Page}
    (h : pages.map Page.face = others.map Page.face) :
    substitute? policy like pages r = substitute? policy like others r := by
  have hbest := best?_congr ((forall₂_face h).imp fun p q hface =>
    (⟨hface, fit_congr like r hface⟩ : p.face = q.face ∧ fit like r p = fit like r q))
  unfold substitute?
  generalize best? (fit like r) pages = x, best? (fit like r) others = y at hbest
  cases hbest with
  | none => rfl
  | @some x y hxy =>
    obtain ⟨hface, hscore⟩ := hxy
    have hpath : x.1.path = y.1.path := congrArg Prod.fst hface
    simp only [hpath, hscore]

theorem judge_congr (policy : Policy) (like : Likeness) (b : Block) {others : List Page}
    (h : pages.map Page.face = others.map Page.face) :
    judge policy like pages b = judge policy like others b := by
  have hany (target : String) : pages.any (·.path == target) = others.any (·.path == target) := by
    have hmapped (l : List Page) :
        l.any (·.path == target) = (l.map Page.path).any (· == target) := by
      rw [List.any_map]
      rfl
    rw [hmapped, hmapped, paths_of_face h]
  unfold judge
  simp only [hany, substitute?_congr policy like _ h]

theorem visit_congr (policy : Policy) (like : Likeness) (s : Pass) (path : String)
    {others : List Page} (h : pages.map Page.face = others.map Page.face) :
    s.visit policy like pages path = s.visit policy like others path := by
  simp only [Pass.visit, reviewed, judge_congr policy like _ h]

end

/-- A review that compares each reference with the pages as they are by then: some of their blocks
have been edited already. -/
def reviewAsEdited (policy : Policy) (like : Likeness) (tree : Page) :
    Except String Report × Page :=
  match tree.index with
  | .error path => (.error path, tree)
  | .ok pages =>
    let s := (pages.map Page.path).foldl (fun (s : Pass) path => s.visit policy like s.tree.walk path)
      ⟨tree, []⟩
    (.ok (reportOf s.told), s.tree)

theorem faces_mapBlocks {f : Page → List Block} (tree : Page) :
    (tree.mapBlocks f).walk.map Page.face = tree.walk.map Page.face := by
  rw [Page.walk_mapBlocks, List.map_map]
  apply List.map_congr_left
  intro p _
  cases p
  rfl

theorem faces_visit (policy : Policy) (like : Likeness) (pages : List Page) (s : Pass)
    (path : String) :
    (s.visit policy like pages path).tree.walk.map Page.face = s.tree.walk.map Page.face := by
  unfold Pass.visit
  split
  · rfl
  · exact faces_mapBlocks s.tree

theorem foldl_visit_edited (policy : Policy) (like : Likeness) (pages : List Page)
    (paths : List String) (s : Pass) (h : s.tree.walk.map Page.face = pages.map Page.face) :
    paths.foldl (fun (s : Pass) path => s.visit policy like s.tree.walk path) s =
      paths.foldl (Pass.visit policy like pages) s := by
  induction paths generalizing s with
  | nil => rfl
  | cons path rest ih =>
    rw [List.foldl_cons, List.foldl_cons, visit_congr policy like s path h]
    exact ih _ ((faces_visit policy like pages s path).trans h)

/-- What has been edited before makes no difference. -/
theorem reviewAsEdited_eq (policy : Policy) (like : Likeness) (tree : Page) :
    reviewAsEdited policy like tree = reviewInPlace policy like tree := by
  by_cases distinct : (tree.walk.map Page.path).Nodup
  · rw [reviewAsEdited, reviewInPlace, Page.index_eq_ok distinct]
    simp only [foldl_visit_edited policy like tree.walk _ ⟨tree, []⟩ rfl]
  · obtain ⟨path, herror, -⟩ := Page.index_eq_error distinct
    rw [reviewAsEdited, reviewInPlace, herror]

/-! ### Reviews -/

/-- What a review leaves of the blocks of a page. -/
def PointedAll (policy : Policy) (like : Likeness) (pages : List Page)
    (blocks after : List Block) : Prop :=
  ∃ left, List.Forall₂ (Pointed policy like pages) blocks left ∧ after = left.filterMap id

theorem pointedAll_reviewed (policy : Policy) (like : Likeness) (pages : List Page) (p : Page) :
    PointedAll policy like pages p.blocks (reviewed policy like pages p) := by
  refine ⟨p.blocks.map fun b => (judge policy like pages b).apply b, ?_, ?_⟩
  · rw [List.forall₂_map_right_iff, List.forall₂_same]
    intro b _
    exact pointed_judge policy like pages b
  · rw [reviewed, List.filterMap_map]
    rfl

/-- A review points each dangling reference at the first of the pages most like it, if repair is
allowed and the likeness of that page comes up to the threshold; else the reference is dropped. Such
a page is there as soon as any comes up to the threshold, and there is one at most. It is chosen by
paths and titles alone: pages of the same paths and titles are chosen from alike, and a review that
looks at the pages as it has edited them so far comes to the same tree and report. -/
theorem review_substitutes (policy : Policy) (like : Likeness) {tree : Page}
    (distinct : (tree.walk.map Page.path).Nodup) :
    (∃ after report, review policy like tree = .ok (after, report) ∧
      reviewAsEdited policy like tree = (.ok report, after) ∧
      tree.Edited (PointedAll policy like tree.walk) after ∧
      report.repaired = ((dangling tree).countP
        fun d => decide (Mendable policy like tree.walk d.2)) ∧
      (policy.repair = false → report.repaired = 0)) ∧
    (∀ r, (∃ p, IsSubstitute policy like tree.walk r p) ↔ Mendable policy like tree.walk r) ∧
    (∀ r p q, IsSubstitute policy like tree.walk r p → IsSubstitute policy like tree.walk r q →
      p = q) ∧
    ∀ pages : List Page, pages.map Page.face = tree.walk.map Page.face →
      ∀ r, substitute? policy like pages r = substitute? policy like tree.walk r := by
  have hreview : review policy like tree = .ok (tree.mapBlocks (reviewed policy like tree.walk),
      reportOf (verdicts policy like tree.walk)) := by
    rw [review, Page.index_eq_ok distinct]
    rfl
  have hrepaired := repaired_eq policy like tree
  refine ⟨⟨_, _, hreview, ?_, ?_, hrepaired, ?_⟩, ?_, ?_, ?_⟩
  · rw [reviewAsEdited_eq, reviewInPlace_eq, hreview]
  · exact Page.edited_mapBlocks tree fun p _ => pointedAll_reviewed policy like tree.walk p
  · intro forbidden
    rw [hrepaired, List.countP_eq_zero]
    intro d _ hmendable
    exact Bool.false_ne_true (forbidden.symm.trans (of_decide_eq_true hmendable).1)
  · exact fun r => exists_isSubstitute_iff
  · exact fun r p q hp hq => hp.unique hq
  · exact fun pages h r => substitute?_congr policy like r h

/-- A chapter whose path ends as that of a page that is gone. -/
def piecesPage : Page := .mk "docs/parts" "Pieces" .chapter [] []

/-- A chapter whose title is the label of a link to a page that is gone. -/
def partsPage : Page := .mk "docs/more/parts" "Parts" .chapter [] []

/-- A link to a page that is gone, and two chapters as much like it as can be. -/
def movedTree : Page :=
  .mk "docs" "Docs" .hub [.link "old/parts" "Parts"] [piecesPage, partsPage]

def sameText : Likeness := fun a b => if a = b then 1 else 0

theorem walk_movedTree : movedTree.walk = [movedTree, piecesPage, partsPage] := by
  simp [movedTree, piecesPage, partsPage, Page.walk_mk]

theorem isSubstitute_pieces :
    IsSubstitute ⟨true, 1⟩ sameText movedTree.walk ⟨"old/parts", "Parts", "navigation"⟩
      piecesPage where
  allowed := rfl
  best := by
    refine ⟨[movedTree], [partsPage], walk_movedTree, ?_, ?_⟩
    · decide +kernel
    · decide +kernel
  enough := by decide +kernel

theorem review_substitutes_moved :
    (movedTree.walk.map Page.path).Nodup ∧
      ∃ after report, review ⟨true, 1⟩ sameText movedTree = .ok (after, report) ∧
        after.blocks = [.link "docs/parts" "Parts"] := by
  have hpaths : movedTree.walk.map Page.path = ["docs", "docs/parts", "docs/more/parts"] := by
    rw [walk_movedTree]
    rfl
  have distinct : (movedTree.walk.map Page.path).Nodup := by
    rw [hpaths]
    decide
  obtain ⟨⟨after, report, hreview, -, hedited, -⟩, -⟩ :=
    review_substitutes ⟨true, 1⟩ sameText distinct
  refine ⟨distinct, after, report, hreview, ?_⟩
  obtain ⟨left, hleft, hblocks⟩ : PointedAll ⟨true, 1⟩ sameText movedTree.walk
      [.link "old/parts" "Parts"] after.blocks := by
    cases hedited with
    | mk own _ => exact own
  obtain ⟨x, rest, hx, hrest, rfl⟩ := List.forall₂_cons_left_iff.mp hleft
  obtain rfl := List.forall₂_nil_left_iff.mp hrest
  rw [hblocks, hx.eq_link rfl (by rw [hpaths]; decide) isSubstitute_pieces]
  rfl

end Review

end DocAtlas
