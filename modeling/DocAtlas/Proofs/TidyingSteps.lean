import DocAtlas.Proofs.Headings
import Mathlib.Algebra.Ring.Parity

/-!
What the tidying of markdown adds for one row, and which rows stand in blocks of code.
-/
namespace DocAtlas.Markdown.Lint
open Text

/-! ### Fences and trimmed rows -/

/-- Blanks at the end do not matter for what begins with a fence. -/
theorem isFence_eq (row : List Char) : isFence row = fence.isPrefixOf (trim row) := by
  rw [isFence, trim, Bool.eq_iff_iff, List.isPrefixOf_iff_prefix, List.isPrefixOf_iff_prefix,
    prefix_trimEnd_iff (by decide)]

@[simp] theorem isFence_trim (row : List Char) : isFence (trim row) = isFence row := by
  rw [isFence_eq, isFence_eq, trim_trim]

@[simp] theorem isFence_trimEnd (row : List Char) : isFence (trimEnd row) = isFence row := by
  rw [isFence_eq, isFence_eq, trim_trimEnd]

@[simp] theorem isFence_nil : isFence [] = false := rfl

@[simp] theorem isFence_fence : isFence fence = true := rfl

/-- A heading is trimmed as it is written if its row is. -/
theorem trimEnd_heading {row marks blanks title : List Char}
    (parts : trimEnd row = marks ++ blanks ++ title) (h : IsHeading marks blanks title) :
    trimEnd (marks ++ ' ' :: title) = marks ++ ' ' :: title := by
  obtain ⟨a, rest, rfl⟩ := List.exists_cons_of_ne_nil h.titled
  obtain ⟨t, ht⟩ := exists_trimEnd_cons (isBlank_head h.starts) rest
  have hne : trimEnd (a :: rest) ≠ [] := ht ▸ List.cons_ne_nil a t
  have htitle : trimEnd (a :: rest) = a :: rest := by
    have hsame := trimEnd_trimEnd row
    rw [parts, trimEnd_append_of_ne _ hne] at hsame
    exact List.append_cancel_left hsame
  have hspaced : marks ++ ' ' :: a :: rest = (marks ++ [' ']) ++ a :: rest := by simp
  rw [hspaced, trimEnd_append_of_ne _ hne, htitle]

/-- A block of code is open after an odd number of fences. -/
theorem endsInCode_iff_odd {ls : List (List Char)} :
    endsInCode false ls = true ↔ Odd (ls.countP isFence) := by
  induction ls using List.reverseRecOn with
  | nil => simp [endsInCode]
  | append_singleton ls row ih =>
    rw [Contents.endsInCode_append, List.countP_append, List.countP_singleton]
    cases hf : isFence row with
    | true => simp [endsInCode, hf, Nat.odd_add_one, ← ih]
    | false => simp [endsInCode, hf, ← ih]

/-! ### One row -/

/-- The rows written so far, the first one first. -/
def State.output (s : State) : List (List Char) := s.written.reverse

/-- A blank row where one has to come before the next row. -/
def State.gap (s : State) : List (List Char) := if endsBlank s.written then [] else [[]]

theorem eq_nil_of_mem_gap {s : State} {row : List Char} (h : row ∈ s.gap) : row = [] := by
  unfold State.gap at h
  split at h
  · cases h
  · exact List.mem_singleton.mp h

theorem separate_eq (s : State) : separate s.written = s.gap.reverse ++ s.written := by
  unfold separate State.gap
  split
  · rfl
  · rfl

/-- `new` is what is added for `row`, and `inCode` whether a block of code is open after it. -/
inductive Adds (s : State) (row : List Char) : (inCode : Bool) → (new : List (List Char)) → Prop
  | opening (mark : isFence row = true) (outside : s.inCode = false) :
    Adds s row true (s.gap ++ [trim row])
  | closing (mark : isFence row = true) (inside : s.inCode = true) : Adds s row false [trim row]
  | code (noMark : isFence row = false) (inside : s.inCode = true) : Adds s row true [trimEnd row]
  | heading {marks blanks title : List Char} (noMark : isFence row = false)
    (outside : s.inCode = false) (parts : trimEnd row = marks ++ blanks ++ title)
    (isHeading : IsHeading marks blanks title) :
    Adds s row false (s.gap ++ [marks ++ ' ' :: title, []])
  | again (noMark : isFence row = false) (outside : s.inCode = false) (blank : trimEnd row = [])
    (ended : endsBlank s.written = true) : Adds s row false []
  | parted (noMark : isFence row = false) (outside : s.inCode = false)
    (noHeading : heading? (trimEnd row) = none) (closed : s.written.head? = some fence) :
    Adds s row false [[], trimEnd row]
  | text (noMark : isFence row = false) (outside : s.inCode = false)
    (noHeading : heading? (trimEnd row) = none)
    (more : trimEnd row = [] → endsBlank s.written = false)
    (unclosed : s.written.head? ≠ some fence) : Adds s row false [trimEnd row]

theorem not_endsBlank_of_head {written : List (List Char)} (h : written.head? = some fence) :
    endsBlank written = false := by
  obtain ⟨rest, rfl⟩ := List.head?_eq_some_iff.mp h
  rfl

theorem exists_adds (s : State) (row : List Char) : ∃ inCode new, Adds s row inCode new := by
  cases hf : isFence row with
  | true =>
    cases hc : s.inCode with
    | false => exact ⟨_, _, .opening hf hc⟩
    | true => exact ⟨_, _, .closing hf hc⟩
  | false =>
    cases hc : s.inCode with
    | true => exact ⟨_, _, .code hf hc⟩
    | false =>
      cases hh : heading? (trimEnd row) with
      | some found =>
        obtain ⟨marks, title⟩ := found
        obtain ⟨blanks, hparts, hp⟩ := isHeading_of_heading? hh
        exact ⟨_, _, .heading hf hc hparts hp⟩
      | none =>
        by_cases hclosed : s.written.head? = some fence
        · exact ⟨_, _, .parted hf hc hh hclosed⟩
        · by_cases hblank : trimEnd row = [] ∧ endsBlank s.written = true
          · exact ⟨_, _, .again hf hc hblank.1 hblank.2⟩
          · refine ⟨_, _, .text hf hc hh (fun hnil => ?_) hclosed⟩
            simpa [hnil] using hblank

theorem Adds.step_eq {s : State} {row : List Char} {inCode : Bool} {new : List (List Char)}
    (h : Adds s row inCode new) : step s row = ⟨inCode, new.reverse ++ s.written⟩ := by
  unfold step
  dsimp only
  rw [isFence_trimEnd, trimStart_trimEnd, separate_eq]
  cases h with
  | opening mark outside => simp [mark, outside]
  | closing mark inside => simp [mark, inside]
  | code noMark inside => simp [noMark, inside]
  | heading noMark outside parts isHeading =>
    rw [parts, isHeading.heading?_eq]
    simp [noMark, outside]
  | again noMark outside blank ended =>
    have hsame : (⟨false, s.written⟩ : State) = s := by
      rw [← outside]
    have hnone : heading? [] = none := rfl
    simp [noMark, outside, blank, hnone, ended, hsame]
  | parted noMark outside noHeading closed =>
    simp [noMark, outside, noHeading, closed, not_endsBlank_of_head closed]
  | text noMark outside noHeading more unclosed =>
    have hkept : ¬((trimEnd row).isEmpty && endsBlank s.written) = true := by
      simpa using more
    simp [noMark, outside, noHeading, hkept, unclosed]

variable {s : State} {row : List Char} {inCode : Bool} {new : List (List Char)}

theorem Adds.output_eq (h : Adds s row inCode new) : (step s row).output = s.output ++ new := by
  simp [h.step_eq, State.output]

theorem endsInCode_gap (s : State) (inCode : Bool) (ls : List (List Char)) :
    endsInCode inCode (s.gap ++ ls) = endsInCode inCode ls := by
  unfold State.gap
  split
  · rfl
  · rfl

/-- What is added for a row leaves a block of code open if the row does. -/
theorem Adds.endsInCode_new (h : Adds s row inCode new) : endsInCode s.inCode new = inCode := by
  cases h with
  | opening mark outside => simp [endsInCode_gap, endsInCode, mark, outside]
  | closing mark inside => simp [endsInCode, mark, inside]
  | code noMark inside => simp [endsInCode, noMark, inside]
  | heading noMark outside parts isHeading =>
    simp [endsInCode_gap, endsInCode, isHeading.not_fence_spaced, outside]
  | again noMark outside blank ended => exact outside
  | parted noMark outside noHeading closed => simp [endsInCode, noMark, outside]
  | text noMark outside noHeading more unclosed => simp [endsInCode, noMark, outside]

theorem Adds.inCode_eq (h : Adds s row inCode new) : inCode = endsInCode s.inCode [row] := by
  cases h with
  | opening mark outside => simp [endsInCode, mark, outside]
  | closing mark inside => simp [endsInCode, mark, inside]
  | code noMark inside => simp [endsInCode, noMark, inside]
  | heading noMark outside | again noMark outside | parted noMark outside | text noMark outside =>
    simp [endsInCode, noMark, outside]

/-- A row is written with its own characters and spaces. -/
theorem Adds.forall_mem {P : Char → Prop} (h : Adds s row inCode new) (space : P ' ')
    (own : ∀ c ∈ row, P c) : ∀ written ∈ new, ∀ c ∈ written, P c := by
  have htrim : ∀ c ∈ trim row, P c := fun c hc => own c ((trim_isInfix row).subset hc)
  have hend : ∀ c ∈ trimEnd row, P c := fun c hc => own c ((prefix_trimEnd row).subset hc)
  have hgap : ∀ blank ∈ s.gap, ∀ c ∈ blank, P c := fun blank hb => by
    simp [eq_nil_of_mem_gap hb]
  cases h with
  | opening mark outside => simpa [or_imp, forall_and] using ⟨hgap, htrim⟩
  | closing mark inside => simpa using htrim
  | code noMark inside => simpa using hend
  | heading noMark outside parts isHeading =>
    rw [parts] at hend
    simp only [List.mem_append, or_imp, forall_and] at hend
    simpa [or_imp, forall_and] using ⟨hgap, hend.1.1, space, hend.2⟩
  | again noMark outside blank ended => simp
  | parted noMark outside noHeading closed => simpa using hend
  | text noMark outside noHeading more unclosed => simpa using hend

/-! ### All rows -/

/-- The state after the given rows. -/
def run (ls : List (List Char)) : State := ls.foldl step {}

theorem run_concat (ls : List (List Char)) (row : List Char) :
    run (ls ++ [row]) = step (run ls) row := List.foldl_concat _ _ _ _

theorem run_adds (ls : List (List Char)) (row : List Char) :
    ∃ new, Adds (run ls) row (run (ls ++ [row])).inCode new ∧
      (run (ls ++ [row])).output = (run ls).output ++ new := by
  obtain ⟨inCode, new, h⟩ := exists_adds (run ls) row
  refine ⟨new, ?_, ?_⟩
  · rw [run_concat, h.step_eq]
    exact h
  · rw [run_concat, h.output_eq]

theorem inCode_run (ls : List (List Char)) : (run ls).inCode = endsInCode false ls := by
  induction ls using List.reverseRecOn with
  | nil => rfl
  | append_singleton ls row ih =>
    obtain ⟨new, h, -⟩ := run_adds ls row
    rw [h.inCode_eq, ih, Contents.endsInCode_append]

/-- The rows that are written stand in blocks of code as far as the rows that are read do. -/
theorem endsInCode_run (ls : List (List Char)) :
    endsInCode false (run ls).output = endsInCode false ls := by
  induction ls using List.reverseRecOn with
  | nil => rfl
  | append_singleton ls row ih =>
    obtain ⟨new, h, ho⟩ := run_adds ls row
    rw [ho, Contents.endsInCode_append, ih, ← inCode_run, h.endsInCode_new, inCode_run]

theorem forall_mem_run {P : Char → Prop} (space : P ' ') {ls : List (List Char)}
    (own : ∀ row ∈ ls, ∀ c ∈ row, P c) : ∀ row ∈ (run ls).output, ∀ c ∈ row, P c := by
  induction ls using List.reverseRecOn with
  | nil => simp [run, State.output]
  | append_singleton ls row ih =>
    rw [List.forall_mem_append, List.forall_mem_singleton] at own
    obtain ⟨new, h, ho⟩ := run_adds ls row
    rw [ho, List.forall_mem_append]
    exact ⟨ih own.1, h.forall_mem space own.2⟩

/-- The rows with a fence that closes the block of code they leave open. -/
def balance (ls : List (List Char)) : List (List Char) :=
  if endsInCode false ls then ls ++ [fence] else ls

theorem endsInCode_balance (ls : List (List Char)) : endsInCode false (balance ls) = false := by
  unfold balance
  split
  · rename_i h
    rw [Contents.endsInCode_append, h]
    rfl
  · rename_i h
    exact Bool.not_eq_true _ ▸ h

/-! ### Blank rows at the end -/

def trimRows (ls : List (List Char)) : List (List Char) := ls.rdropWhile (·.isEmpty)

theorem exists_blanks (ls : List (List Char)) :
    ∃ blanks, (∀ row ∈ blanks, row = []) ∧ ls = trimRows ls ++ blanks :=
  ⟨ls.rtakeWhile (·.isEmpty), fun _ hr => List.isEmpty_iff.mp (List.mem_rtakeWhile_imp hr),
    List.rdropWhile_append_rtakeWhile.symm⟩

theorem trimRows_append_blanks (ls : List (List Char)) {blanks : List (List Char)}
    (h : ∀ row ∈ blanks, row = []) : trimRows (ls ++ blanks) = trimRows ls := by
  induction blanks using List.reverseRecOn with
  | nil => rw [List.append_nil]
  | append_singleton blanks row ih =>
    rw [List.forall_mem_append, List.forall_mem_singleton] at h
    obtain ⟨hb, rfl⟩ := h
    rw [← List.append_assoc, trimRows, List.rdropWhile_concat_pos _ _ _ rfl]
    exact ih hb

/-- What comes before a row that is not blank is not dropped. -/
theorem exists_trimRows (ls : List (List Char)) {row : List Char} (h : row ≠ [])
    (more : List (List Char)) : ∃ rest, trimRows (ls ++ row :: more) = ls ++ row :: rest := by
  induction more using List.reverseRecOn with
  | nil => exact ⟨[], List.rdropWhile_concat_neg _ _ _ (by simpa using h)⟩
  | append_singleton more last ih =>
    have hconcat : ls ++ row :: (more ++ [last]) = ls ++ row :: more ++ [last] := by simp
    rw [hconcat]
    by_cases hlast : last = []
    · rwa [hlast, trimRows_append_blanks _ (by simp)]
    · exact ⟨more ++ [last], by
        rw [trimRows, List.rdropWhile_concat_neg _ _ _ (by simpa using hlast), hconcat]⟩

theorem trimRows_trimRows (ls : List (List Char)) : trimRows (trimRows ls) = trimRows ls :=
  List.rdropWhile_idempotent _ _

theorem ne_nil_of_trimRows {ls before : List (List Char)} {last : List Char}
    (h : trimRows ls = before ++ [last]) : last ≠ [] := by
  rintro rfl
  have hsame := trimRows_trimRows ls
  rw [h, trimRows_append_blanks _ (by simp)] at hsame
  have hle := (List.rdropWhile_prefix (·.isEmpty) before).length_le
  have hlength := congrArg List.length hsame
  rw [List.length_append, List.length_singleton] at hlength
  unfold trimRows at hlength
  omega

theorem endsInCode_append_blanks (inCode : Bool) (ls : List (List Char))
    {blanks : List (List Char)} (h : ∀ row ∈ blanks, row = []) :
    endsInCode inCode (ls ++ blanks) = endsInCode inCode ls := by
  rw [Contents.endsInCode_append]
  induction blanks with
  | nil => rfl
  | cons row blanks ih =>
    rw [List.forall_mem_cons] at h
    obtain ⟨rfl, h⟩ := h
    exact ih h

theorem finish_eq (s : State) :
    finish s = trimRows (if s.inCode then s.output ++ [fence] else s.output) := by
  unfold finish trimRows List.rdropWhile State.output
  split
  · simp
  · simp

/-- Tidied are the rows written for all rows, without the blank ones at their end. -/
theorem lintLines_eq (ls : List (List Char)) :
    lintLines ls = trimRows (run (balance ls)).output := by
  have hfinish : lintLines ls = finish (run ls) := rfl
  rw [hfinish, finish_eq, inCode_run, balance]
  split
  · rename_i h
    have hclose : Adds (run ls) fence false [fence] := .closing rfl (by rw [inCode_run, h])
    rw [run_concat, hclose.output_eq]
  · rfl

/-- All rows that are written are tidied rows, but for blank ones at the end. -/
theorem output_run_balance (ls : List (List Char)) :
    ∃ blanks, (∀ row ∈ blanks, row = []) ∧ (run (balance ls)).output = lintLines ls ++ blanks := by
  rw [lintLines_eq]
  exact exists_blanks (run (balance ls)).output

theorem endsInCode_lintLines (ls : List (List Char)) : endsInCode false (lintLines ls) = false := by
  obtain ⟨blanks, hb, he⟩ := output_run_balance ls
  rw [← endsInCode_append_blanks _ _ hb, ← he, endsInCode_run, endsInCode_balance]

theorem balance_eq {ls : List (List Char)} (h : endsInCode false ls = false) : balance ls = ls := by
  simp [balance, h]

theorem balance_lintLines (ls : List (List Char)) : balance (lintLines ls) = lintLines ls :=
  balance_eq (endsInCode_lintLines ls)

end DocAtlas.Markdown.Lint
