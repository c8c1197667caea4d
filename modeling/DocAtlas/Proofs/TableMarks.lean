import DocAtlas.Markdown.Page
import DocAtlas.Proofs.Cutting
import DocAtlas.Proofs.Mapping
import DocAtlas.Proofs.PageTree

/-!
Where no table of contents can be written: in a text that holds both marks of an earlier one, but no
closing mark after an opening one.
-/
namespace DocAtlas.Markdown
open Text

namespace Contents

/-- A text with enough headings for a table of contents that holds both marks of one, but nowhere an
opening mark and a closing one after it. -/
structure Unclosed (minimum : Int) (s : List Char) : Prop where
  enough : minimum ≤ (headings s).length
  opened : opening <:+: s
  closed : closing <:+: s
  apart : ¬∃ a b c, s = a ++ opening ++ b ++ closing ++ c

/-- A closing mark after any opening one is a closing mark after the first. -/
theorem closes_iff {s before rest : List Char} (h : cut? opening s = some (before, rest)) :
    (∃ a b c, s = a ++ opening ++ b ++ closing ++ c) ↔ closing <:+: rest := by
  constructor
  · rintro ⟨a, b, c, hs⟩
    have hlast : b ++ closing ++ c <:+ rest := suffix_of_cut? h (u := a) (by simp [hs])
    exact List.IsInfix.trans ⟨b, c, rfl⟩ hlast.isInfix
  · rintro ⟨b, c, rfl⟩
    exact ⟨before, b, c, by simp [eq_of_cut? h]⟩

theorem exists_build_iff (minimum : Int) (s : List Char) :
    (∃ text, build minimum s = .ok text) ↔ ¬Unclosed minimum s := by
  unfold build
  dsimp only
  by_cases hfew : ((headings s).length : Int) < minimum
  · rw [if_pos hfew]
    exact iff_of_true ⟨_, rfl⟩ fun h => absurd h.enough (Int.not_le.mpr hfew)
  · rw [if_neg hfew]
    cases ho : cut? opening s with
    | none => exact iff_of_true ⟨_, rfl⟩ fun h => cut?_eq_none_iff.mp ho h.opened
    | some first =>
      obtain ⟨before, rest⟩ := first
      cases hc : cut? closing s with
      | none => exact iff_of_true ⟨_, rfl⟩ fun h => cut?_eq_none_iff.mp hc h.closed
      | some last =>
        dsimp only
        cases hr : cut? closing rest with
        | some found =>
          have hcloses := (closes_iff ho).mpr (isSome_cut?_iff.mp (by rw [hr]; rfl))
          exact iff_of_true ⟨_, rfl⟩ fun h => h.apart hcloses
        | none =>
          refine iff_of_false (fun ⟨_, h⟩ => by cases h) (not_not.mpr ?_)
          refine ⟨Int.not_lt.mp hfew, ?_, ?_, ?_⟩
          · exact isSome_cut?_iff.mp (by rw [ho]; rfl)
          · exact isSome_cut?_iff.mp (by rw [hc]; rfl)
          · exact fun h => cut?_eq_none_iff.mp hr ((closes_iff ho).mp h)

end Contents

theorem exists_pageText_iff (diagrams : List Diagram) (p : Page) :
    (∃ text, pageText diagrams p = .ok text) ↔
      ∃ filled, Contents.build minimumHeadings (draft p (sections p diagrams)).toList = .ok filled :=
  exists_bind_pure_iff

theorem exists_pageTexts_iff (diagrams : List Diagram) (tree : Page) :
    (∃ texts, pageTexts diagrams tree = .ok texts) ↔
      ∀ p ∈ tree.walk, ∃ text, pageText diagrams p = .ok text := by
  have hwritten : (∃ texts, pageTexts diagrams tree = .ok texts) ↔
      ∃ ts, (tree.walk.mapM fun p => do return (p.path, ← pageText diagrams p)) = .ok ts :=
    exists_bind_pure_iff
  rw [hwritten, exists_mapM_iff]
  exact forall₂_congr fun p _ => exists_bind_pure_iff

/-- A table of contents can be written into a text, and all pages of a tree can be written, unless
the text, or a page as it is drafted, has enough headings for one and holds both marks of an earlier
one, but no closing mark after an opening one. -/
theorem tables_written_iff (minimum : Int) (s : List Char) (diagrams : List Diagram) (tree : Page) :
    ((∃ text, Contents.build minimum s = .ok text) ↔ ¬Contents.Unclosed minimum s) ∧
      ((∃ texts, pageTexts diagrams tree = .ok texts) ↔
        ∀ p ∈ tree.walk,
          ¬Contents.Unclosed minimumHeadings (draft p (sections p diagrams)).toList) := by
  refine ⟨Contents.exists_build_iff minimum s, ?_⟩
  rw [exists_pageTexts_iff]
  refine forall₂_congr fun p _ => ?_
  rw [exists_pageText_iff, Contents.exists_build_iff]

/-- A page of four sections, one of which names both marks, the closing one first. -/
def reversed : Page :=
  .mk "README" "Marks" .hub [.prose "From <!-- repodoc:end:toc --> to <!-- repodoc:begin:toc -->"
    (some "A"), .prose "b" (some "B"), .prose "c" (some "C"), .prose "d" (some "D")] []

theorem reversed_marks_fail :
    (¬∃ text, Contents.build minimumHeadings (draft reversed (sections reversed [])).toList =
      .ok text) ∧ ¬∃ texts, pageTexts [] reversed = .ok texts := by
  have hbuild : ¬∃ text, Contents.build minimumHeadings
      (draft reversed (sections reversed [])).toList = .ok text := by
    rintro ⟨text, h⟩
    have hfails : (Contents.build minimumHeadings
        (draft reversed (sections reversed [])).toList).toBool = false := by decide +kernel
    rw [h] at hfails
    cases hfails
  refine ⟨hbuild, fun h => hbuild ?_⟩
  have hself : reversed ∈ reversed.walk := by
    rw [Page.walk_eq]
    exact List.mem_cons_self
  exact (exists_pageText_iff [] reversed).mp ((exists_pageTexts_iff [] reversed).mp h reversed hself)

end DocAtlas.Markdown
