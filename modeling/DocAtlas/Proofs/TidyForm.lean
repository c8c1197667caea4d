import DocAtlas.Proofs.TidyContent

/-!
The form of tidied markdown: what stands between headings, fences and the rows next to them, and
how the text ends.
-/
namespace DocAtlas.Markdown.Lint
open Text

/-- One to six number signs, a space and some text. -/
def IsHeadingRow (row : List Char) : Prop :=
  ∃ marks text, row = marks ++ ' ' :: text ∧ (∀ c ∈ marks, c = '#') ∧ 0 < marks.length ∧
    marks.length ≤ 6 ∧ trimStart text ≠ []

/-- The row `next` may follow `row`, which has `before` before it. -/
structure Apart (before : List (List Char)) (row next : List Char) : Prop where
  opening : endsInCode false (before ++ [row]) = false → isFence next = true → row = []
  closing : endsInCode false before = true → row = fence → next = []
  beforeHeading : endsInCode false (before ++ [row]) = false → IsHeadingRow next → row = []
  afterHeading : endsInCode false before = false → IsHeadingRow row → next = []

/-- No row ends with a blank, fences begin with none either, and headings and fences stand apart
from the rows next to them. -/
structure Tidy (ls : List (List Char)) : Prop where
  ends : ∀ row ∈ ls, trimEnd row = row
  fences : ∀ row ∈ ls, isFence row = true → trim row = row
  apart : ∀ before row next after, ls = before ++ row :: next :: after → Apart before row next

/-! ### Headings and blank rows -/

theorem not_isHeadingRow_nil : ¬IsHeadingRow [] := by
  rintro ⟨marks, text, he, -⟩
  simp at he

theorem IsHeadingRow.not_fence {row : List Char} (h : IsHeadingRow row) : isFence row = false := by
  obtain ⟨marks, text, rfl, hsigns, hlow, -⟩ := h
  obtain ⟨m, ms, rfl⟩ := List.exists_cons_of_length_pos hlow
  obtain rfl := hsigns m List.mem_cons_self
  exact isFence_of_cons rfl (by simp) _

theorem IsHeadingRow.heading?_ne_none {row : List Char} (h : IsHeadingRow row) :
    heading? row ≠ none := by
  obtain ⟨marks, text, rfl, hsigns, hlow, hhigh, htext⟩ := h
  have hparts : IsHeading marks (' ' :: text.takeWhile isBlank) (trimStart text) :=
    ⟨hsigns, hlow, hhigh, List.cons_ne_nil _ _,
      List.forall_mem_cons.mpr ⟨rfl, fun c hc => List.mem_takeWhile_imp hc⟩,
      List.dropWhile_idempotent (p := isBlank) _, htext⟩
  have hrow : marks ++ ' ' :: text = marks ++ ' ' :: text.takeWhile isBlank ++ trimStart text := by
    rw [List.append_assoc, List.cons_append, trimStart, List.takeWhile_append_dropWhile]
  rw [hrow, hparts.heading?_eq]
  simp

theorem concat_eq_append_cons {α : Type} {ls before after : List α} {x row : α}
    (h : ls ++ [x] = before ++ row :: after) :
    (after = [] ∧ before = ls ∧ row = x) ∨
      ∃ rest, after = rest ++ [x] ∧ ls = before ++ row :: rest := by
  rcases List.eq_nil_or_concat after with rfl | ⟨rest, last, rfl⟩
  · obtain ⟨rfl, he⟩ := List.append_inj' h rfl
    simp_all
  · right
    refine ⟨rest, ?_⟩
    have he : ls ++ [x] = (before ++ row :: rest) ++ [last] := by simpa using h
    obtain ⟨rfl, hx⟩ := List.append_inj' he rfl
    simp_all

/-- Nothing or a blank row comes last. -/
def EndsBlank (ls : List (List Char)) : Prop := ∀ before row, ls = before ++ [row] → row = []

theorem endsBlank_concat_nil (ls : List (List Char)) : EndsBlank (ls ++ [[]]) := by
  intro before row he
  simpa using (List.append_inj' he rfl).2.symm

theorem endsBlank_gap (s : State) : EndsBlank (s.output ++ s.gap) := by
  unfold State.gap
  split
  · rename_i hb
    intro before row he
    have hw : s.written = row :: before.reverse := by
      simpa [State.output] using congrArg List.reverse he
    simpa [hw, endsBlank] using hb
  · exact endsBlank_concat_nil s.output

namespace Tidy

variable {ls : List (List Char)} {row : List Char}

theorem nil : Tidy [] := ⟨by simp, by simp, by simp⟩

theorem of_append {more : List (List Char)} (h : Tidy (ls ++ more)) : Tidy ls where
  ends := fun row hr => h.ends row (List.mem_append_left _ hr)
  fences := fun row hr => h.fences row (List.mem_append_left _ hr)
  apart := fun before row next after he => h.apart before row next (after ++ more) (by simp [he])

theorem concat (h : Tidy ls) (ends : trimEnd row = row)
    (fences : isFence row = true → trim row = row)
    (apart : ∀ before last, ls = before ++ [last] → Apart before last row) :
    Tidy (ls ++ [row]) where
  ends := by simpa [or_imp, forall_and] using ⟨h.ends, ends⟩
  fences := by simpa [or_imp, forall_and] using ⟨h.fences, fences⟩
  apart := by
    intro before a b after he
    have hsplit : ls ++ [row] = (before ++ [a]) ++ b :: after := by simpa using he
    rcases concat_eq_append_cons hsplit with ⟨-, rfl, rfl⟩ | ⟨rest, -, rfl⟩
    · exact apart before a rfl
    · exact h.apart before a b rest (by simp)

theorem concat_nil (h : Tidy ls) : Tidy (ls ++ [[]]) := by
  apply h.concat rfl (by simp)
  intro before last _
  exact ⟨by simp, by simp, fun _ hh => absurd hh not_isHeadingRow_nil, by simp⟩

theorem concat_blank (h : Tidy ls) (blank : EndsBlank ls) (ends : trimEnd row = row)
    (fences : isFence row = true → trim row = row) : Tidy (ls ++ [row]) := by
  apply h.concat ends fences
  intro before last he
  obtain rfl := blank before last he
  exact ⟨by simp, by simp [fence], by simp, fun _ hh => absurd hh not_isHeadingRow_nil⟩

/-- In a block of code any row may follow. -/
theorem concat_code (h : Tidy ls) (code : endsInCode false ls = true) (ends : trimEnd row = row)
    (fences : isFence row = true → trim row = row) : Tidy (ls ++ [row]) := by
  apply h.concat ends fences
  intro before last he
  rw [he] at code
  refine ⟨by simp [code], ?_, by simp [code], ?_⟩
  · rintro hb rfl
    rw [Contents.endsInCode_append, hb] at code
    cases code
  · intro hb hh
    rw [Contents.endsInCode_append, hb, endsInCode, hh.not_fence] at code
    cases code

end Tidy

theorem Tidy.gap {s : State} (h : Tidy s.output) : Tidy (s.output ++ s.gap) := by
  unfold State.gap
  split
  · simpa using h
  · exact h.concat_nil

/-- No heading outside blocks of code comes last. -/
def EndsPlain (ls : List (List Char)) : Prop :=
  ∀ before row, ls = before ++ [row] → endsInCode false before = false → ¬IsHeadingRow row

theorem endsPlain_concat {ls : List (List Char)} {row : List Char}
    (h : endsInCode false ls = false → ¬IsHeadingRow row) : EndsPlain (ls ++ [row]) := by
  intro before last he
  obtain ⟨rfl, hlast⟩ := List.append_inj' he rfl
  simp_all

/-! ### Rows that are written -/

variable {s : State} {row : List Char} {inCode : Bool} {new : List (List Char)}

theorem apart_of_text (plain : EndsPlain s.output) (noMark : isFence row = false)
    (noHeading : heading? row = none) (unclosed : s.written.head? ≠ some fence)
    {before : List (List Char)} {last : List Char} (he : s.output = before ++ [last]) :
    Apart before last row where
  opening := by simp [noMark]
  closing := by
    rintro - rfl
    have hw : s.written = fence :: before.reverse := by
      simpa [State.output] using congrArg List.reverse he
    simp [hw] at unclosed
  beforeHeading := fun _ hh => absurd noHeading hh.heading?_ne_none
  afterHeading := fun hb hh => absurd hh (plain before last he hb)

theorem Adds.tidy (h : Adds s row inCode new) (code : endsInCode false s.output = s.inCode)
    (tidy : Tidy s.output) (plain : EndsPlain s.output) :
    Tidy (s.output ++ new) ∧ EndsPlain (s.output ++ new) := by
  cases h with
  | opening mark outside =>
    have hmark : isFence (trim row) = true := by simpa using mark
    rw [← List.append_assoc]
    constructor
    · exact tidy.gap.concat_blank (endsBlank_gap s) (trimEnd_trim row) fun _ => trim_trim row
    · exact endsPlain_concat fun _ hh => by simp [hh.not_fence] at hmark
  | closing mark inside =>
    have hmark : isFence (trim row) = true := by simpa using mark
    constructor
    · exact tidy.concat_code (code.trans inside) (trimEnd_trim row) fun _ => trim_trim row
    · exact endsPlain_concat fun _ hh => by simp [hh.not_fence] at hmark
  | code noMark inside =>
    constructor
    · apply tidy.concat_code (code.trans inside) (trimEnd_trimEnd row)
      simp [noMark]
    · exact endsPlain_concat fun hb => by simp [code, inside] at hb
  | @heading marks blanks title noMark outside parts isHeading =>
    have hout : s.output ++ (s.gap ++ [marks ++ ' ' :: title, []]) =
        (s.output ++ s.gap ++ [marks ++ ' ' :: title]) ++ [[]] := by simp
    rw [hout]
    constructor
    · apply Tidy.concat_nil
      apply tidy.gap.concat_blank (endsBlank_gap s) (trimEnd_heading parts isHeading)
      simp [isHeading.not_fence_spaced]
    · exact endsPlain_concat fun _ => not_isHeadingRow_nil
  | again noMark outside blank ended =>
    rw [List.append_nil]
    exact ⟨tidy, plain⟩
  | parted noMark outside noHeading closed =>
    have hout : s.output ++ [[], trimEnd row] = s.output ++ [[]] ++ [trimEnd row] := by simp
    rw [hout]
    constructor
    · apply tidy.concat_nil.concat_blank (endsBlank_concat_nil s.output) (trimEnd_trimEnd row)
      simp [noMark]
    · exact endsPlain_concat fun _ hh => hh.heading?_ne_none noHeading
  | text noMark outside noHeading more unclosed =>
    constructor
    · apply tidy.concat (trimEnd_trimEnd row) (by simp [noMark])
      intro before last he
      exact apart_of_text plain (by simpa using noMark) noHeading unclosed he
    · exact endsPlain_concat fun _ hh => hh.heading?_ne_none noHeading

theorem tidy_run (ls : List (List Char)) : Tidy (run ls).output ∧ EndsPlain (run ls).output := by
  induction ls using List.reverseRecOn with
  | nil => exact ⟨.nil, fun before row he => by simp [run, State.output] at he⟩
  | append_singleton ls row ih =>
    obtain ⟨new, h, ho⟩ := run_adds ls row
    rw [ho]
    exact h.tidy (by rw [endsInCode_run, inCode_run]) ih.1 ih.2

theorem tidy_lintLines (ls : List (List Char)) : Tidy (lintLines ls) := by
  obtain ⟨blanks, -, he⟩ := output_run_balance ls
  exact Tidy.of_append (he ▸ (tidy_run (balance ls)).1)

/-! ### The whole text -/

theorem exists_mem_splitWhere {p : Char → Bool} {c : Char} (hc : p c = false) {s : List Char}
    (h : c ∈ s) : ∃ piece ∈ splitWhere p s, c ∈ piece := by
  induction s with
  | nil => cases h
  | cons d s ih =>
    obtain ⟨rest, he⟩ := splitWhere_eq_cons p s
    rw [he] at ih
    rw [splitWhere_cons, he]
    cases hd : p d with
    | true =>
      have hs : c ∈ s := by
        rcases List.mem_cons.mp h with rfl | hs
        · simp [hc] at hd
        · exact hs
      obtain ⟨piece, hp, hcp⟩ := ih hs
      exact ⟨piece, List.mem_cons_of_mem _ hp, hcp⟩
    | false =>
      rcases List.mem_cons.mp h with rfl | hs
      · exact ⟨_, List.mem_cons_self, List.mem_cons_self⟩
      · obtain ⟨piece, hp, hcp⟩ := ih hs
        rcases List.mem_cons.mp hp with rfl | hp
        · exact ⟨_, List.mem_cons_self, List.mem_cons_of_mem d hcp⟩
        · exact ⟨piece, List.mem_cons_of_mem _ hp, hcp⟩

theorem rows_blank_iff {s : List Char} :
    (∀ row ∈ rows s, trimEnd row = []) ↔ ∀ c ∈ s, isBlank c = true := by
  constructor
  · intro h c hc
    by_contra hb
    rw [Bool.not_eq_true] at hb
    have hbreak : isBreak c = false := Contents.isBreak_of_isLineEnd (isLineEnd_of_not_blank hb)
    obtain ⟨piece, hp, hcp⟩ := exists_mem_splitWhere hbreak hc
    have hrow : piece ∈ (rows s).filter (!·.isEmpty) := by
      rw [filter_rows, List.mem_filter]
      exact ⟨hp, by simpa using List.ne_nil_of_mem hcp⟩
    have hblank := trimEnd_eq_nil.mp (h piece (List.mem_filter.mp hrow).1) c hcp
    rw [hb] at hblank
    cases hblank
  · intro h row hr
    exact trimEnd_eq_nil.mpr fun c hc => h c ((infix_of_mem_rows hr).subset hc)

theorem exists_last_lintLines {ls : List (List Char)} (h : lintLines ls ≠ []) :
    ∃ before last, lintLines ls = before ++ [last] ∧ last ≠ [] := by
  obtain ⟨before, last, he⟩ := (List.eq_nil_or_concat (lintLines ls)).resolve_left h
  rw [List.concat_eq_append] at he
  exact ⟨before, last, he, ne_nil_of_trimRows (lintLines_eq ls ▸ he)⟩

theorem lintLines_eq_nil_iff {ls : List (List Char)} :
    lintLines ls = [] ↔ ∀ row ∈ ls, trimEnd row = [] := by
  have hcontent := content_lintLines ls
  have htidied := tidied_run ls
  constructor
  · intro h
    rw [h] at hcontent
    have hrun : content (run ls).output = [] := (List.append_eq_nil_iff.mp hcontent.symm).1
    rw [hrun, List.forall₂_nil_right_iff] at htidied
    exact content_eq_nil_iff.mp htidied
  · intro h
    have hnone : ls.countP isFence = 0 := by
      rw [List.countP_eq_zero]
      intro row hr
      rw [← isFence_trimEnd, h row hr]
      simp
    rw [content_eq_nil_iff.mpr h, List.forall₂_nil_left_iff] at htidied
    rw [htidied, missingFence, hnone, if_neg (by simp), List.append_nil] at hcontent
    by_contra hne
    obtain ⟨before, last, he, hlast⟩ := exists_last_lintLines hne
    have hmem : last ∈ lintLines ls := by simp [he]
    have hends := (tidy_lintLines ls).ends last hmem
    rw [content_eq_nil_iff.mp hcontent last hmem] at hends
    exact hlast hends.symm

/-- Tidied text is in order: no line ends with a blank, fences pair up, headings and fences stand
apart from other lines, and one line feed ends the last line, which is not blank unless the whole
text is. -/
theorem lint_tidy (m : String) :
    ∃ ls, rows (lint m).toList = ls ++ [[]] ∧ Tidy ls ∧ Even (ls.countP isFence) ∧
      ((∀ c ∈ m.toList, isBlank c = true) ∧ ls = [[]] ∨
        (∃ c ∈ m.toList, isBlank c = false) ∧
          ∃ before last, ls = before ++ [last] ∧ last ≠ []) := by
  rw [toList_lint, rows_lintChars]
  by_cases hblank : ∀ c ∈ m.toList, isBlank c = true
  · rw [if_pos (lintLines_eq_nil_iff.mpr (rows_blank_iff.mpr hblank))]
    exact ⟨[[]], rfl, Tidy.nil.concat_nil, by simp, .inl ⟨hblank, rfl⟩⟩
  · have hne : lintLines (rows m.toList) ≠ [] := fun hnil =>
      hblank (rows_blank_iff.mp (lintLines_eq_nil_iff.mp hnil))
    rw [if_neg hne]
    refine ⟨_, rfl, tidy_lintLines _, ?_, .inr ⟨by simpa using hblank, exists_last_lintLines hne⟩⟩
    rw [← Nat.not_odd_iff_even, ← endsInCode_iff_odd, endsInCode_lintLines]
    simp

end DocAtlas.Markdown.Lint
