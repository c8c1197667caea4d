import DocAtlas.Proofs.Filling
import Mathlib.Algebra.Ring.Parity
import Mathlib.Data.List.Forall2

/-!
What tidied markdown holds: the rows of the text in their order, each in its own kind of place. Only
blank rows outside blocks of code come and go.
-/
namespace DocAtlas.Markdown.Lint
open Text

/-- Where a row stands: at the beginning of a block of code, at its end, in it or outside. -/
inductive Place where
  | opening
  | closing
  | code
  | prose
deriving DecidableEq

def placeOf (inCode : Bool) (row : List Char) : Place :=
  if isFence row then if inCode then .closing else .opening
  else if inCode then .code
  else .prose

/-- The rows with their places, the first row being in a block of code or not. -/
def placed : Bool → List (List Char) → List (Place × List Char)
  | _, [] => []
  | inCode, row :: rest =>
    (placeOf inCode row, row) :: placed (if isFence row then !inCode else inCode) rest

/-- Whether a row in a place may not be lost: any row but a blank one outside blocks of code. -/
def counts (p : Place × List Char) : Bool := p.1 != .prose || !(trimEnd p.2).isEmpty

/-- The rows that may not be lost, with their places. -/
def contentFrom (inCode : Bool) (ls : List (List Char)) : List (Place × List Char) :=
  (placed inCode ls).filter counts

def content (ls : List (List Char)) : List (Place × List Char) := contentFrom false ls

/-- How a row is written in its place. -/
inductive Tidied : Place × List Char → Place × List Char → Prop
  | opening (row : List Char) : Tidied (.opening, row) (.opening, trim row)
  | closing (row : List Char) : Tidied (.closing, row) (.closing, trim row)
  | code (row : List Char) : Tidied (.code, row) (.code, trimEnd row)
  | heading {row marks blanks title : List Char} (parts : trimEnd row = marks ++ blanks ++ title)
    (isHeading : IsHeading marks blanks title) :
    Tidied (.prose, row) (.prose, marks ++ ' ' :: title)
  | text {row : List Char}
    (noHeading : ∀ marks blanks title, IsHeading marks blanks title →
      trimEnd row ≠ marks ++ blanks ++ title) :
    Tidied (.prose, row) (.prose, trimEnd row)

/-! ### Rows in their places -/

theorem placed_append (inCode : Bool) (as bs : List (List Char)) :
    placed inCode (as ++ bs) = placed inCode as ++ placed (endsInCode inCode as) bs := by
  induction as generalizing inCode with
  | nil => rfl
  | cons row as ih => simp [placed, endsInCode, ih]

theorem contentFrom_append (inCode : Bool) (as bs : List (List Char)) :
    contentFrom inCode (as ++ bs) =
      contentFrom inCode as ++ contentFrom (endsInCode inCode as) bs := by
  rw [contentFrom, placed_append, List.filter_append]
  rfl

theorem content_append (as bs : List (List Char)) :
    content (as ++ bs) = content as ++ contentFrom (endsInCode false as) bs :=
  contentFrom_append false as bs

theorem contentFrom_singleton (inCode : Bool) (row : List Char) :
    contentFrom inCode [row] =
      if counts (placeOf inCode row, row) then [(placeOf inCode row, row)] else [] := by
  rw [contentFrom, placed, placed, List.filter_singleton]
  cases counts (placeOf inCode row, row) <;> rfl

theorem contentFrom_blanks {blanks : List (List Char)} (h : ∀ row ∈ blanks, trimEnd row = []) :
    contentFrom false blanks = [] := by
  induction blanks with
  | nil => rfl
  | cons row blanks ih =>
    rw [List.forall_mem_cons] at h
    have hmark : isFence row = false := by rw [← isFence_trimEnd, h.1, isFence_nil]
    have hnone : contentFrom false [row] = [] := by
      simp [contentFrom_singleton, placeOf, counts, hmark, h.1]
    have hcons := contentFrom_append false [row] blanks
    rwa [hnone, endsInCode, hmark, if_neg Bool.false_ne_true, endsInCode, ih h.2] at hcons

theorem content_append_blanks {ls blanks : List (List Char)} (h : endsInCode false ls = false)
    (hb : ∀ row ∈ blanks, row = []) : content (ls ++ blanks) = content ls := by
  have hnone : contentFrom false blanks = [] :=
    contentFrom_blanks fun row hr => trimEnd_eq_nil.mpr (by simp [hb row hr])
  rw [content_append, h, hnone, List.append_nil]

theorem exists_mem_placed {row : List Char} {ls : List (List Char)} (h : row ∈ ls)
    (inCode : Bool) : ∃ place, (place, row) ∈ placed inCode ls := by
  induction ls generalizing inCode with
  | nil => cases h
  | cons first ls ih =>
    rw [placed]
    rcases List.mem_cons.mp h with rfl | h
    · exact ⟨placeOf inCode row, List.mem_cons_self⟩
    · obtain ⟨place, hp⟩ := ih h _
      exact ⟨place, List.mem_cons_of_mem _ hp⟩

theorem content_eq_nil_iff {ls : List (List Char)} :
    content ls = [] ↔ ∀ row ∈ ls, trimEnd row = [] := by
  constructor
  · intro h row hr
    obtain ⟨place, hp⟩ := exists_mem_placed hr false
    have hcounts := List.filter_eq_nil_iff.mp h (place, row) hp
    simp [counts] at hcounts
    exact hcounts.2
  · exact contentFrom_blanks

/-! ### Rows that are written -/

variable {s : State} {row : List Char} {inCode : Bool} {new : List (List Char)}

/-- A row is written as a blank one only if it is blank. -/
theorem Tidied.counts_eq {p q : Place × List Char} (h : Tidied p q) : counts p = counts q := by
  cases h with
  | opening | closing | code => rfl
  | heading parts isHeading =>
    obtain ⟨m, ms, rfl⟩ := List.exists_cons_of_length_pos isHeading.low
    rw [counts, counts, trimEnd_heading parts isHeading, parts]
    rfl
  | text noHeading => simp [counts, trimEnd_trimEnd]

theorem Tidied.singleton {written : List Char}
    (h : Tidied (placeOf inCode row, row) (placeOf inCode written, written)) :
    List.Forall₂ Tidied (contentFrom inCode [row]) (contentFrom inCode [written]) := by
  rw [contentFrom_singleton, contentFrom_singleton, h.counts_eq]
  split
  · exact .cons h .nil
  · exact .nil

/-- A row outside blocks of code that is written as text. -/
theorem tidied_text (noMark : isFence row = false) (noHeading : heading? (trimEnd row) = none) :
    List.Forall₂ Tidied (contentFrom false [row]) (contentFrom false [trimEnd row]) := by
  have htext : Tidied (.prose, row) (.prose, trimEnd row) := by
    refine .text fun marks blanks title hh he => ?_
    rw [he, hh.heading?_eq] at noHeading
    cases noHeading
  apply Tidied.singleton
  simpa [placeOf, noMark] using htext

theorem contentFrom_gap (s : State) (ls : List (List Char)) :
    contentFrom false (s.gap ++ ls) = contentFrom false ls := by
  unfold State.gap
  split
  · rfl
  · rfl

theorem Adds.tidied (h : Adds s row inCode new) :
    List.Forall₂ Tidied (contentFrom s.inCode [row]) (contentFrom s.inCode new) := by
  cases h with
  | opening mark outside =>
    rw [outside, contentFrom_gap]
    apply Tidied.singleton
    simpa [placeOf, mark] using Tidied.opening row
  | closing mark inside =>
    apply Tidied.singleton
    simpa [placeOf, mark, inside] using Tidied.closing row
  | code noMark inside =>
    apply Tidied.singleton
    simpa [placeOf, noMark, inside] using Tidied.code row
  | @heading marks blanks title noMark outside parts isHeading =>
    have hmark := isHeading.not_fence_spaced
    have hclosed : endsInCode false [marks ++ ' ' :: title] = false := by simp [endsInCode, hmark]
    have hnew : contentFrom false ([marks ++ ' ' :: title] ++ [[]]) =
        contentFrom false [marks ++ ' ' :: title] := content_append_blanks hclosed (by simp)
    rw [List.singleton_append] at hnew
    rw [outside, contentFrom_gap, hnew]
    apply Tidied.singleton
    simpa [placeOf, noMark, hmark] using Tidied.heading parts isHeading
  | again noMark outside blank ended =>
    have hblank : trimEnd row = [] := blank
    rw [contentFrom_singleton]
    simp [placeOf, counts, noMark, outside, hblank, contentFrom, placed]
  | parted noMark outside noHeading closed =>
    rw [outside]
    exact tidied_text noMark noHeading
  | text noMark outside noHeading more unclosed =>
    rw [outside]
    exact tidied_text noMark noHeading

/-! ### All rows -/

theorem tidied_run (ls : List (List Char)) :
    List.Forall₂ Tidied (content ls) (content (run ls).output) := by
  induction ls using List.reverseRecOn with
  | nil => exact .nil
  | append_singleton ls row ih =>
    obtain ⟨new, h, ho⟩ := run_adds ls row
    rw [ho, content_append, content_append, endsInCode_run, ← inCode_run]
    exact List.rel_append ih h.tidied

/-- The closing fence of a block of code that rows leave open. -/
def missingFence (ls : List (List Char)) : List (Place × List Char) :=
  if Odd (ls.countP isFence) then [(.closing, fence)] else []

theorem content_run_balance (ls : List (List Char)) :
    content (run (balance ls)).output = content (run ls).output ++ missingFence ls := by
  unfold missingFence balance
  cases h : endsInCode false ls with
  | true =>
    have hclose : Adds (run ls) fence false [fence] := .closing rfl (by rw [inCode_run, h])
    rw [if_pos rfl, if_pos (endsInCode_iff_odd.mp h), run_concat, hclose.output_eq, content_append,
      endsInCode_run, h]
    rfl
  | false =>
    have heven : ¬Odd (ls.countP isFence) := by simp [← endsInCode_iff_odd, h]
    rw [if_neg Bool.false_ne_true, if_neg heven, List.append_nil]

theorem content_lintLines (ls : List (List Char)) :
    content (lintLines ls) = content (run ls).output ++ missingFence ls := by
  obtain ⟨blanks, hb, he⟩ := output_run_balance ls
  rw [← content_run_balance, he, content_append_blanks (endsInCode_lintLines ls) hb]

/-! ### The rows of tidied markdown -/

theorem unbroken_rows (s : List Char) : ∀ row ∈ rows s, ∀ c ∈ row, isBreak c = false := by
  intro row hr c hc
  have hpiece : row ∈ (splitWhere isBreak s).filter (!·.isEmpty) := by
    rw [← filter_rows, List.mem_filter]
    exact ⟨hr, by simpa using List.ne_nil_of_mem hc⟩
  exact not_of_mem_splitWhere (List.mem_filter.mp hpiece).1 c hc

theorem unbroken_lintLines (s : List Char) :
    ∀ row ∈ lintLines (rows s), ∀ c ∈ row, isBreak c = false := by
  have hrows : ∀ row ∈ balance (rows s), ∀ c ∈ row, isBreak c = false := by
    unfold balance
    split
    · rw [List.forall_mem_append, List.forall_mem_singleton]
      exact ⟨unbroken_rows s, by simp [fence, isBreak]⟩
    · exact unbroken_rows s
  have hwritten := forall_mem_run (P := fun c => isBreak c = false) rfl hrows
  obtain ⟨blanks, -, he⟩ := output_run_balance (rows s)
  rw [he, List.forall_mem_append] at hwritten
  exact hwritten.1

/-- Each tidied row is a row of the text; the last one ends with a line feed, too. -/
theorem rows_lintChars (s : List Char) :
    rows (lintChars s) =
      (if lintLines (rows s) = [] then [[]] else lintLines (rows s)) ++ [[]] := by
  split
  · rename_i h
    have hlint : lintChars s = join ['\n'] (lintLines (rows s)) ++ ['\n'] := rfl
    rw [hlint, h]
    rfl
  · rename_i h
    exact rows_join h (unbroken_lintLines s) []

theorem exists_rows_lintChars (s : List Char) :
    ∃ blanks, (∀ row ∈ blanks, row = []) ∧ rows (lintChars s) = lintLines (rows s) ++ blanks := by
  rw [rows_lintChars]
  split
  · rename_i h
    exact ⟨[[], []], by simp, by rw [h]; rfl⟩
  · exact ⟨[[]], by simp, rfl⟩

theorem toList_lint (m : String) : (lint m).toList = lintChars m.toList := String.toList_ofList

/-- Tidying neither loses nor makes up what a text holds: fences, the rows between them and all rows
that are not blank come out in order, each in its kind of place and written as such a row is, and
after them a fence if and only if the text has an odd number of them. -/
theorem lint_keeps_content (m : String) :
    ∃ tidied, List.Forall₂ Tidied (content (rows m.toList)) tidied ∧
      content (rows (lint m).toList) = tidied ++ missingFence (rows m.toList) := by
  obtain ⟨blanks, hb, he⟩ := exists_rows_lintChars m.toList
  refine ⟨_, tidied_run (rows m.toList), ?_⟩
  rw [toList_lint, he, content_append_blanks (endsInCode_lintLines _) hb, content_lintLines]

/-! ### Headings -/

theorem whole_of_inline {row : List Char} (h : ∀ c ∈ row, isLineEnd c = false) : Whole row :=
  fun _ c hc =>
    h c ((List.dropWhile_suffix _).subset ((List.takeWhile_prefix isBlank).subset hc))

/-- Tidying changes no heading and no anchor, where lines end with line feeds and carriage returns
only. -/
theorem headings_lint {m : String}
    (ends : ∀ c ∈ m.toList, isLineEnd c = true → c = '\n' ∨ c = '\r') :
    Contents.headings (lint m).toList = Contents.headings m.toList := by
  rw [toList_lint]
  refine headings_lintChars fun row hrow => whole_of_inline fun c hc => ?_
  have hbreak := unbroken_rows m.toList row hrow c hc
  by_contra hend
  rcases ends c ((infix_of_mem_rows hrow).subset hc) (by simpa using hend) with rfl | rfl
  · cases hbreak
  · cases hbreak

/-- A heading between returns, and one in a block of code that is left open. -/
def cartText : String := "text\r##  Cart \r\n ```\n## Code"

theorem headings_lint_cart :
    (∀ c ∈ cartText.toList, isLineEnd c = true → c = '\n' ∨ c = '\r') ∧
      lint cartText = "text\n\n## Cart\n\n```\n## Code\n```\n" ∧
      Contents.headings (lint cartText).toList = Contents.headings cartText.toList := by
  have hends : ∀ c ∈ cartText.toList, isLineEnd c = true → c = '\n' ∨ c = '\r' := by
    simp [cartText, isLineEnd]
  exact ⟨hends, by decide +kernel, headings_lint hends⟩

end DocAtlas.Markdown.Lint
