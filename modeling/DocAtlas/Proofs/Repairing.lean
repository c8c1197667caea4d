import DocAtlas.Proofs.Entries
import DocAtlas.Proofs.Reviewing
import DocAtlas.Proofs.Substitutes
import Mathlib.Data.List.Induction

/-!
What a review makes of any tree: which references stay, what is left of the others, and what is
reported of them.
-/
namespace DocAtlas

namespace Review

variable {policy : Policy} {like : Likeness} {pages : List Page}

/-! ### References that can be mended -/

/-- Repair is allowed, and some page is like enough to the reference. -/
def Mendable (policy : Policy) (like : Likeness) (pages : List Page) (r : Reference) : Prop :=
  policy.repair = true ∧ ∃ p ∈ pages, policy.threshold ≤ fit like r p

instance (r : Reference) : Decidable (Mendable policy like pages r) :=
  inferInstanceAs (Decidable (_ ∧ _))

/-- A substitute is found as soon as some page is like enough. -/
theorem exists_isSubstitute_iff {r : Reference} :
    (∃ p, IsSubstitute policy like pages r p) ↔ Mendable policy like pages r := by
  constructor
  · rintro ⟨p, h⟩
    exact ⟨h.allowed, p, h.best.mem, h.enough⟩
  · rintro ⟨hallowed, q, hq, henough⟩
    cases hbest : best? (fit like r) pages with
    | none =>
      rw [best?_eq_none hbest] at hq
      exact absurd hq List.not_mem_nil
    | some found =>
      obtain ⟨p, s⟩ := found
      have hp := (best?_eq_some_iff.mp hbest).1
      exact ⟨p, hallowed, hp, le_trans henough (hp.greatest q hq)⟩

/-! ### Blocks -/

/-- The reference of a block that leads to no page. -/
def danglingOf (pages : List Page) (b : Block) : Option Reference :=
  b.reference?.filter fun r => decide (r.target ∉ pages.map Page.path)

theorem danglingOf_eq_some {b : Block} {r : Reference} :
    danglingOf pages b = some r ↔
      b.reference? = some r ∧ r.target ∉ pages.map Page.path := by
  rw [danglingOf, Option.filter_eq_some_iff, decide_eq_true_iff]

theorem danglingOf_eq_none {b : Block} :
    danglingOf pages b = none ↔ b.Within (pages.map Page.path) := by
  simp only [danglingOf, Option.filter_eq_none_iff, decide_eq_true_iff, not_not, Block.Within]

theorem judge_dangling {b : Block} {r : Reference} (h : danglingOf pages b = some r) :
    judge policy like pages b =
      match substitute? policy like pages r with
      | some (target, score) => .repaired r target score
      | none => .dropped r := by
  obtain ⟨hr, hmissing⟩ := danglingOf_eq_some.mp h
  have hany : pages.any (·.path == r.target) = false := by
    rw [List.any_eq_false]
    intro p hp he
    exact hmissing (List.mem_map.mpr ⟨p, hp, beq_iff_eq.mp he⟩)
  cases hs : substitute? policy like pages r <;>
    simp only [judge, hr, hany, hs, Bool.false_eq_true, if_false]

/-- A block without a dangling reference is settled; any other one is repaired or dropped. -/
theorem judge_cases (policy : Policy) (like : Likeness) (pages : List Page) (b : Block) :
    (danglingOf pages b = none ∧ judge policy like pages b = settled b) ∨
      ∃ r, danglingOf pages b = some r ∧
        ((Mendable policy like pages r ∧ ∃ p ∈ pages, ∃ score,
            judge policy like pages b = .repaired r p.path score) ∨
          (¬Mendable policy like pages r ∧ judge policy like pages b = .dropped r)) := by
  cases hd : danglingOf pages b with
  | none => exact .inl ⟨rfl, judge_eq_settled policy like (danglingOf_eq_none.mp hd)⟩
  | some r =>
    refine .inr ⟨r, rfl, ?_⟩
    rw [judge_dangling hd, ← exists_isSubstitute_iff]
    cases hs : substitute? policy like pages r with
    | none => exact .inr ⟨not_exists.mpr (substitute?_eq_none_iff.mp hs), rfl⟩
    | some found =>
      obtain ⟨p, hp, htarget, -⟩ := substitute?_eq_some_iff.mp hs
      exact .inl ⟨⟨p, hp⟩, p, hp.best.mem, found.2, by rw [← htarget]⟩

/-- What a review leaves of a block. -/
inductive Mended (policy : Policy) (like : Likeness) (pages : List Page) (b : Block) :
    Option Block → Prop
  | kept (within : b.Within (pages.map Page.path)) : Mended policy like pages b (some b)
  | retargeted {r : Reference} {p : Page} (reference : b.reference? = some r)
      (dangling : r.target ∉ pages.map Page.path) (mendable : Mendable policy like pages r)
      (page : p ∈ pages) :
      Mended policy like pages b (some (.link p.path r.label r.relation b.text b.heading))
  | replaced {r : Reference} (reference : b.reference? = some r)
      (dangling : r.target ∉ pages.map Page.path) (lost : ¬Mendable policy like pages r)
      (remains : b.text ≠ "" ∨ b.heading.getD "" ≠ "") :
      Mended policy like pages b (some (.prose b.text b.heading))
  | removed {r : Reference} (reference : b.reference? = some r)
      (dangling : r.target ∉ pages.map Page.path) (lost : ¬Mendable policy like pages r)
      (text : b.text = "") (heading : b.heading.getD "" = "") :
      Mended policy like pages b none

theorem mended_judge (policy : Policy) (like : Likeness) (pages : List Page) (b : Block) :
    Mended policy like pages b ((judge policy like pages b).apply b) := by
  rcases judge_cases policy like pages b with
    ⟨hd, hj⟩ | ⟨r, hd, ⟨hmendable, p, hp, score, hj⟩ | ⟨hlost, hj⟩⟩
  · rw [hj, settled_apply]
    exact .kept (danglingOf_eq_none.mp hd)
  · obtain ⟨hr, hmissing⟩ := danglingOf_eq_some.mp hd
    rw [hj]
    exact .retargeted hr hmissing hmendable hp
  · obtain ⟨hr, hmissing⟩ := danglingOf_eq_some.mp hd
    rw [hj, Verdict.apply, remains]
    split
    · rename_i hempty
      rw [Bool.and_eq_true, String.isEmpty_iff, String.isEmpty_iff] at hempty
      exact .removed hr hmissing hlost hempty.1 hempty.2
    · rename_i hleft
      rw [Bool.and_eq_true, String.isEmpty_iff, String.isEmpty_iff, not_and_or] at hleft
      exact .replaced hr hmissing hlost hleft

/-- What is left of a block points at nothing but pages. -/
theorem Mended.within {b after : Block} (h : Mended policy like pages b (some after)) :
    after.Within (pages.map Page.path) := by
  cases h with
  | kept within => exact within
  | retargeted _ _ _ page =>
    intro r hr
    cases hr
    exact List.mem_map_of_mem page
  | replaced =>
    intro r hr
    cases hr

/-- What a review leaves of the blocks of a page. -/
def MendedAll (policy : Policy) (like : Likeness) (pages : List Page)
    (blocks after : List Block) : Prop :=
  ∃ left, List.Forall₂ (Mended policy like pages) blocks left ∧ after = left.filterMap id

theorem mendedAll_judge (policy : Policy) (like : Likeness) (pages : List Page)
    (blocks : List Block) :
    MendedAll policy like pages blocks
      (blocks.filterMap fun b => (judge policy like pages b).apply b) := by
  refine ⟨blocks.map fun b => (judge policy like pages b).apply b, ?_, ?_⟩
  · rw [List.forall₂_map_right_iff, List.forall₂_same]
    intro b _
    exact mended_judge policy like pages b
  · rw [List.filterMap_map]
    rfl

/-! ### Reports -/

/-- The references that lead to no page, with the paths of the pages they stand on. -/
def dangling (tree : Page) : List (String × Reference) :=
  (Page.placed tree.walk).filterMap fun x => (danglingOf tree.walk x.2).map (x.1, ·)

/-- The references that lead to a page. -/
def intact (tree : Page) : List Reference :=
  tree.references.filter fun r => decide (r.target ∈ tree.walk.map Page.path)

/-- A finding tells what became of a dangling reference. -/
def Tells (policy : Policy) (like : Likeness) (pages : List Page) (d : String × Reference)
    (f : Finding) : Prop :=
  f.stage = stage ∧ f.subject = d.1 ∧
    ((Mendable policy like pages d.2 ∧ f.kind = .repairedReference) ∨
      (¬Mendable policy like pages d.2 ∧ f.kind = .danglingReference))

theorem verdicts_eq_map (policy : Policy) (like : Likeness) (pages : List Page) :
    verdicts policy like pages =
      (Page.placed pages).map fun x => (x.1, judge policy like pages x.2) := by
  rw [verdicts, Page.placed, List.map_flatMap]
  simp only [List.map_map, Function.comp_def]

theorem isReference_judge (policy : Policy) (like : Likeness) (pages : List Page) (b : Block) :
    (judge policy like pages b).isReference = b.reference?.isSome := by
  rcases judge_cases policy like pages b with
    ⟨-, hj⟩ | ⟨r, hd, ⟨-, p, -, score, hj⟩ | ⟨-, hj⟩⟩
  · rw [hj, settled_isReference]
  · rw [hj, (danglingOf_eq_some.mp hd).1]
    rfl
  · rw [hj, (danglingOf_eq_some.mp hd).1]
    rfl

theorem isRepaired_judge (policy : Policy) (like : Likeness) (pages : List Page) (b : Block) :
    (judge policy like pages b).isRepaired =
      ((danglingOf pages b).map fun r => decide (Mendable policy like pages r)).getD false := by
  rcases judge_cases policy like pages b with
    ⟨hd, hj⟩ | ⟨r, hd, ⟨hmendable, p, -, score, hj⟩ | ⟨hlost, hj⟩⟩
  · rw [hj, hd, settled_isRepaired]
    rfl
  · rw [hj, hd, Option.map_some, decide_eq_true hmendable]
    rfl
  · rw [hj, hd, Option.map_some, decide_eq_false hlost]
    rfl

theorem isDropped_judge (policy : Policy) (like : Likeness) (pages : List Page) (b : Block) :
    (judge policy like pages b).isDropped =
      ((danglingOf pages b).map fun r => decide (¬Mendable policy like pages r)).getD false := by
  rcases judge_cases policy like pages b with
    ⟨hd, hj⟩ | ⟨r, hd, ⟨hmendable, p, -, score, hj⟩ | ⟨hlost, hj⟩⟩
  · rw [hj, hd, settled_isDropped]
    rfl
  · rw [hj, hd, Option.map_some, decide_eq_false (not_not_intro hmendable)]
    rfl
  · rw [hj, hd, Option.map_some, decide_eq_true hlost]
    rfl

theorem finding?_judge (policy : Policy) (like : Likeness) (pages : List Page)
    (x : String × Block) :
    Option.Rel (Tells policy like pages) ((danglingOf pages x.2).map (x.1, ·))
      ((judge policy like pages x.2).finding? x.1) := by
  rcases judge_cases policy like pages x.2 with
    ⟨hd, hj⟩ | ⟨r, hd, ⟨hmendable, p, -, score, hj⟩ | ⟨hlost, hj⟩⟩
  · rw [hj, hd, settled_finding?]
    exact .none
  · rw [hj, hd]
    exact .some ⟨rfl, rfl, .inl ⟨hmendable, rfl⟩⟩
  · rw [hj, hd]
    exact .some ⟨rfl, rfl, .inr ⟨hlost, rfl⟩⟩

theorem forall₂_filterMap {α β γ : Type} {R : β → γ → Prop} {f : α → Option β} {g : α → Option γ}
    (h : ∀ a, Option.Rel R (f a) (g a)) (items : List α) :
    List.Forall₂ R (items.filterMap f) (items.filterMap g) := by
  induction items with
  | nil => exact .nil
  | cons a rest ih =>
    rw [List.filterMap_cons, List.filterMap_cons]
    have ha := h a
    generalize f a = b, g a = c at ha
    cases ha with
    | some hr => exact .cons hr ih
    | none => exact ih

theorem checked_eq (policy : Policy) (like : Likeness) (tree : Page) :
    (reportOf (verdicts policy like tree.walk)).checked = tree.references.length := by
  rw [Page.references_eq, List.length_filterMap_eq_countP, reportOf, verdicts_eq_map,
    List.countP_map]
  simp only [Function.comp_def, isReference_judge]

theorem repaired_eq (policy : Policy) (like : Likeness) (tree : Page) :
    (reportOf (verdicts policy like tree.walk)).repaired =
      (dangling tree).countP fun d => decide (Mendable policy like tree.walk d.2) := by
  change (verdicts policy like tree.walk).countP (·.2.isRepaired) = _
  rw [dangling, List.countP_filterMap, verdicts_eq_map, List.countP_map]
  simp only [Function.comp_def, isRepaired_judge, Option.map_map]

theorem dropped_eq (policy : Policy) (like : Likeness) (tree : Page) :
    (reportOf (verdicts policy like tree.walk)).dropped =
      (dangling tree).countP fun d => decide (¬Mendable policy like tree.walk d.2) := by
  change (verdicts policy like tree.walk).countP (·.2.isDropped) = _
  rw [dangling, List.countP_filterMap, verdicts_eq_map, List.countP_map]
  simp only [Function.comp_def, isDropped_judge, Option.map_map]

theorem tells_findings (policy : Policy) (like : Likeness) (tree : Page) :
    List.Forall₂ (Tells policy like tree.walk) (dangling tree)
      (reportOf (verdicts policy like tree.walk)).findings := by
  rw [dangling, reportOf, verdicts_eq_map, List.filterMap_map]
  exact forall₂_filterMap (finding?_judge policy like tree.walk) _

/-- A reference leads to a page or dangles. -/
theorem length_references (tree : Page) :
    tree.references.length = (intact tree).length + (dangling tree).length := by
  have hdangling : (dangling tree).length =
      tree.references.countP fun r => !decide (r.target ∈ tree.walk.map Page.path) := by
    rw [dangling, Page.references_eq, List.length_filterMap_eq_countP, List.countP_filterMap]
    congr 1
    funext x
    rw [Option.isSome_map, danglingOf]
    cases x.2.reference? with
    | none => rfl
    | some r =>
      simp only [Option.filter_some, Option.map_some, Option.getD_some, decide_not]
      cases decide (r.target ∈ tree.walk.map Page.path) <;> rfl
  rw [hdangling, intact, ← List.countP_eq_length_filter,
    List.length_eq_countP_add_countP fun r => decide (r.target ∈ tree.walk.map Page.path)]
  simp only [decide_eq_true_iff, decide_not]

/-! ### Page by page -/

/-- What is left of the blocks of a page. -/
def reviewed (policy : Policy) (like : Likeness) (pages : List Page) (p : Page) : List Block :=
  p.blocks.filterMap fun b => (judge policy like pages b).apply b

/-- A tree some pages of which have been reviewed, and the verdicts so far. -/
structure Pass where
  tree : Page
  told : List (String × Verdict)

/-- Judges the blocks that the page at a path has now, and puts there what is left of them. -/
def Pass.visit (policy : Policy) (like : Likeness) (pages : List Page) (s : Pass) (path : String) :
    Pass :=
  match s.tree.find? path with
  | none => s
  | some p =>
    ⟨s.tree.mapBlocks fun q => if q.path = path then reviewed policy like pages p else q.blocks,
      s.told ++ p.blocks.map fun b => (path, judge policy like pages b)⟩

/-- A review that edits the tree as it walks through it, by an index taken beforehand: its report or
the path that two pages share, and the tree that it leaves. -/
def reviewInPlace (policy : Policy) (like : Likeness) (tree : Page) : Except String Report × Page :=
  match tree.index with
  | .error path => (.error path, tree)
  | .ok pages =>
    let s := (pages.map Page.path).foldl (Pass.visit policy like pages) ⟨tree, []⟩
    (.ok (reportOf s.told), s.tree)

section Passes

variable (policy like) {tree : Page}

/-- The pass that has been made through some pages. -/
def passOf (tree : Page) (before : List Page) : Pass :=
  ⟨tree.mapBlocks fun q =>
      if q.path ∈ before.map Page.path then reviewed policy like tree.walk q else q.blocks,
    before.flatMap fun p => p.blocks.map fun b => (p.path, judge policy like tree.walk b)⟩

theorem find?_path (distinct : (tree.walk.map Page.path).Nodup) {p : Page} (hp : p ∈ tree.walk) :
    tree.walk.find? (·.path == p.path) = some p :=
  Keyed.find?_key distinct hp

/-- One more page is reviewed: until then its blocks are as they were. -/
theorem visit_passOf (distinct : (tree.walk.map Page.path).Nodup) {before : List Page} {p : Page}
    (h : before ++ [p] <+: tree.walk) :
    (passOf policy like tree before).visit policy like tree.walk p.path =
      passOf policy like tree (before ++ [p]) := by
  have hp : p ∈ tree.walk := h.subset (by simp)
  have hnew : p.path ∉ before.map Page.path := by
    have hnodup := distinct.sublist (h.sublist.map Page.path)
    rw [List.map_append, List.map_singleton, ← List.concat_eq_append, List.nodup_concat] at hnodup
    exact hnodup.1
  obtain ⟨now, hfind, hblocks⟩ : ∃ now,
      (passOf policy like tree before).tree.find? p.path = some now ∧ now.blocks = p.blocks := by
    rw [passOf, Page.find?, Page.walk_mapBlocks, List.find?_map]
    simp only [Function.comp_def, Page.path_mapBlocks, find?_path distinct hp, Option.map_some]
    exact ⟨_, rfl, by rw [Page.blocks_mapBlocks, if_neg hnew]⟩
  have hreviewed : reviewed policy like tree.walk now = reviewed policy like tree.walk p := by
    rw [reviewed, reviewed, hblocks]
  simp only [Pass.visit, hfind, hreviewed, hblocks]
  simp only [passOf, Page.mapBlocks_mapBlocks, List.flatMap_append, List.flatMap_singleton]
  congr 1
  apply Page.mapBlocks_congr
  intro q hq
  simp only [Page.path_mapBlocks, Page.blocks_mapBlocks, List.map_append, List.map_singleton,
    List.mem_append, List.mem_singleton]
  by_cases hsame : q.path = p.path
  · rw [if_pos hsame, if_pos (.inr hsame), List.inj_on_of_nodup_map distinct hq hp hsame]
  · simp only [hsame, if_false, or_false]

theorem foldl_visit (distinct : (tree.walk.map Page.path).Nodup) {before : List Page}
    (h : before <+: tree.walk) :
    (before.map Page.path).foldl (Pass.visit policy like tree.walk) ⟨tree, []⟩ =
      passOf policy like tree before := by
  induction before using List.reverseRecOn with
  | nil =>
    rw [passOf, Page.mapBlocks_eq_self]
    · rfl
    · intro q _
      exact if_neg List.not_mem_nil
  | append_singleton before p ih =>
    rw [List.map_append, List.foldl_append, ih ((List.prefix_append _ _).trans h)]
    exact visit_passOf policy like distinct h

/-- To edit the tree page by page comes to the same as to review it as a whole. -/
theorem reviewInPlace_eq (tree : Page) :
    reviewInPlace policy like tree =
      match review policy like tree with
      | .error path => (.error path, tree)
      | .ok (after, report) => (.ok report, after) := by
  by_cases distinct : (tree.walk.map Page.path).Nodup
  · rw [reviewInPlace, review, Page.index_eq_ok distinct]
    simp only [foldl_visit policy like distinct (List.prefix_rfl)]
    rw [passOf, Prod.mk.injEq]
    refine ⟨rfl, Page.mapBlocks_congr _ ?_⟩
    intro q hq
    rw [if_pos (List.mem_map_of_mem hq), reviewed]
  · obtain ⟨path, herror, -⟩ := Page.index_eq_error distinct
    rw [reviewInPlace, review, herror]

end Passes

/-! ### Reviews -/

/-- The references that are left lead to pages. -/
theorem sound_reviewed (policy : Policy) (like : Likeness) {tree : Page}
    (distinct : (tree.walk.map Page.path).Nodup) :
    (tree.mapBlocks (reviewed policy like tree.walk)).Sound := by
  refine ⟨by rwa [Page.paths_mapBlocks], ?_⟩
  rw [Page.paths_mapBlocks]
  intro r hr
  obtain ⟨q, hq, b, hb, hreference⟩ := Page.mem_references.mp hr
  rw [Page.walk_mapBlocks] at hq
  obtain ⟨p, hp, rfl⟩ := List.mem_map.mp hq
  rw [Page.blocks_mapBlocks, reviewed] at hb
  obtain ⟨old, -, hleft⟩ := List.mem_filterMap.mp hb
  have hmended := mended_judge policy like tree.walk old
  rw [hleft] at hmended
  exact hmended.within r hreference

theorem accounted (policy : Policy) (like : Likeness) (tree : Page) :
    (reportOf (verdicts policy like tree.walk)).checked =
      (intact tree).length + (reportOf (verdicts policy like tree.walk)).dropped +
        (reportOf (verdicts policy like tree.walk)).repaired := by
  have hdangling := List.length_eq_countP_add_countP (l := dangling tree)
    fun d => decide (Mendable policy like tree.walk d.2)
  simp only [decide_eq_true_iff] at hdangling
  rw [checked_eq, length_references, repaired_eq, dropped_eq]
  omega

theorem status_eq_valid_iff {r : Report} : r.status = "valid" ↔ r.findings = [] := by
  rw [Report.status, ← List.isEmpty_iff]
  cases r.findings.isEmpty <;> decide

/-- What a review makes of a tree, and what it reports. -/
structure Settled (policy : Policy) (like : Likeness) (tree after : Page) (report : Report) :
    Prop where
  frame : tree.Edited (MendedAll policy like tree.walk) after
  sound : after.Sound
  checked : report.checked = tree.references.length
  accounted : report.checked = (intact tree).length + report.dropped + report.repaired
  repaired : report.repaired =
    (dangling tree).countP fun d => decide (Mendable policy like tree.walk d.2)
  findings : List.Forall₂ (Tells policy like tree.walk) (dangling tree) report.findings
  status : report.status = "valid" ↔ report.findings = []

/-- A tree in which pages share a path is refused and left as it is. Any other one is settled: its
references lead to its pages, what did not dangle stays, each dangling reference is retargeted or
dropped and told of once, and another review finds nothing to do. -/
theorem review_settles (policy : Policy) (like : Likeness) (tree : Page) :
    (¬(tree.walk.map Page.path).Nodup →
      ∃ path, 2 ≤ (tree.walk.map Page.path).count path ∧
        review policy like tree = .error path ∧
        reviewInPlace policy like tree = (.error path, tree)) ∧
    ((tree.walk.map Page.path).Nodup →
      ∃ after report, review policy like tree = .ok (after, report) ∧
        reviewInPlace policy like tree = (.ok report, after) ∧
        Settled policy like tree after report ∧
        ∀ policy' like', ∃ again, review policy' like' after = .ok (after, again) ∧
          again.status = "valid") := by
  constructor
  · intro shared
    obtain ⟨path, herror, htwice⟩ := Page.index_eq_error shared
    have hreview : review policy like tree = .error path := by rw [review, herror]
    exact ⟨path, htwice, hreview, by rw [reviewInPlace_eq, hreview]⟩
  · intro distinct
    obtain ⟨after, hafter⟩ : ∃ after,
        after = tree.mapBlocks (reviewed policy like tree.walk) := ⟨_, rfl⟩
    have hreview : review policy like tree =
        .ok (after, reportOf (verdicts policy like tree.walk)) := by
      rw [review, Page.index_eq_ok distinct, hafter]
      rfl
    have hsound : after.Sound := hafter ▸ sound_reviewed policy like distinct
    refine ⟨after, _, hreview, by rw [reviewInPlace_eq, hreview], ?_, ?_⟩
    · exact {
        frame := hafter ▸ Page.edited_mapBlocks tree fun q _ =>
          mendedAll_judge policy like tree.walk q.blocks
        sound := hsound
        checked := checked_eq policy like tree
        accounted := accounted policy like tree
        repaired := repaired_eq policy like tree
        findings := tells_findings policy like tree
        status := status_eq_valid_iff }
    · intro policy' like'
      exact ⟨_, review_sound policy' like' hsound, rfl⟩

/-- A hub and a chapter that both refer to a page that is missing. -/
def lostTree : Page :=
  .mk "docs" "Docs" .hub [.link "parts" "Parts" "navigation" "All parts.", .prose "Text."]
    [.mk "docs/first" "First" .chapter [.link "docs" "Docs", .link "parts" "Parts"] []]

/-- Two chapters at one path. -/
def twinTree : Page :=
  .mk "docs" "Docs" .hub [] [.mk "part" "First" .chapter [] [], .mk "part" "Second" .chapter [] []]

theorem paths_lostTree : lostTree.walk.map Page.path = ["docs", "docs/first"] := by
  simp [lostTree, Page.walk_mk, Page.path]

theorem paths_twinTree : twinTree.walk.map Page.path = ["docs", "part", "part"] := by
  simp [twinTree, Page.walk_mk, Page.path]

theorem length_dangling_lostTree : (dangling lostTree).length = 2 := by
  rw [dangling]
  simp only [danglingOf, paths_lostTree]
  simp [lostTree, Page.walk_mk, Page.placed, Page.blocks, Page.path, Block.link, Block.prose,
    Block.reference?, Option.filter]

theorem review_settles_lost :
    (lostTree.walk.map Page.path).Nodup ∧ ¬(twinTree.walk.map Page.path).Nodup ∧
      (∃ after report, review ⟨false, 1⟩ (fun _ _ => 0) lostTree = .ok (after, report) ∧
        after.Sound ∧ report.findings.length = 2) ∧
      ∃ path, reviewInPlace ⟨false, 1⟩ (fun _ _ => 0) twinTree = (.error path, twinTree) := by
  have distinct : (lostTree.walk.map Page.path).Nodup := by
    rw [paths_lostTree]
    decide
  have shared : ¬(twinTree.walk.map Page.path).Nodup := by
    rw [paths_twinTree]
    decide
  obtain ⟨after, report, hreview, -, hsettled, -⟩ :=
    (review_settles ⟨false, 1⟩ (fun _ _ => 0) lostTree).2 distinct
  obtain ⟨path, -, -, hleft⟩ := (review_settles ⟨false, 1⟩ (fun _ _ => 0) twinTree).1 shared
  refine ⟨distinct, shared, ⟨after, report, hreview, hsettled.sound, ?_⟩, path, hleft⟩
  rw [← hsettled.findings.length_eq, length_dangling_lostTree]

end Review

end DocAtlas
