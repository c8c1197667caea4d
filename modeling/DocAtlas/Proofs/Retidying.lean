import DocAtlas.Proofs.TidyForm

/-!
Tidying once more. The main statement says which texts are tidied for good the first time: those in
which a fence of three backticks that closes a block of code has nothing but a blank row after it.
-/
namespace DocAtlas.Markdown.Lint
open Text

/-- After each closing fence of three backticks comes a blank row or none. -/
def Parted (ls : List (List Char)) : Prop :=
  ∀ before row next after, ls = before ++ row :: next :: after →
    endsInCode false before = true → trim row = fence → trimEnd next = []

/-- A closing fence of three backticks has been written last. -/
def State.Closed (s : State) : Prop := s.inCode = false ∧ s.written.head? = some fence

variable {s : State} {row : List Char} {inCode : Bool} {new : List (List Char)}

/-! ### Closing fences -/

theorem trim_ne_fence (noMark : isFence row = false) : trim row ≠ fence := by
  intro he
  rw [← isFence_trim, he] at noMark
  cases noMark

theorem trimEnd_ne_fence (noMark : isFence row = false) : trimEnd row ≠ fence := by
  intro he
  rw [← isFence_trimEnd, he] at noMark
  cases noMark

theorem closed_run_concat (ls : List (List Char)) (row : List Char) :
    (run (ls ++ [row])).Closed ↔ endsInCode false ls = true ∧ trim row = fence := by
  rw [← inCode_run, run_concat]
  obtain ⟨inCode, new, h⟩ := exists_adds (run ls) row
  rw [h.step_eq]
  cases h with
  | opening mark outside => simp [State.Closed, outside]
  | closing mark inside => simp [State.Closed, inside]
  | code noMark inside => simp [State.Closed, trim_ne_fence noMark]
  | heading noMark outside => simp [State.Closed, outside, fence]
  | again noMark outside blank ended =>
    have hopen : (run ls).written.head? ≠ some fence := fun hc => by
      rw [not_endsBlank_of_head hc] at ended
      cases ended
    simp [State.Closed, outside, hopen]
  | parted noMark outside | text noMark outside =>
    simp [State.Closed, outside, trimEnd_ne_fence noMark]

theorem parted_nil : Parted [] := by
  intro before row next after he
  simp at he

theorem parted_concat {ls : List (List Char)} {next : List Char} :
    Parted (ls ++ [next]) ↔ Parted ls ∧ ((run ls).Closed → trimEnd next = []) := by
  constructor
  · intro h
    have hls : Parted ls := fun before row next' after he =>
      h before row next' (after ++ [next]) (by simp [he])
    refine ⟨hls, ?_⟩
    intro hc
    rcases List.eq_nil_or_concat ls with rfl | ⟨before, row, rfl⟩
    · simp [State.Closed, run] at hc
    · rw [List.concat_eq_append, closed_run_concat] at hc
      exact h before row next [] (by simp) hc.1 hc.2
  · rintro ⟨h, hnext⟩ before row next' after he hcode hrow
    have hsplit : ls ++ [next] = (before ++ [row]) ++ next' :: after := by simpa using he
    rcases concat_eq_append_cons hsplit with ⟨-, rfl, rfl⟩ | ⟨rest, -, rfl⟩
    · exact hnext ((closed_run_concat before row).mpr ⟨hcode, hrow⟩)
    · exact h before row next' rest (by simp) hcode hrow

/-- Rows that are not parted have a first place where they are not. -/
theorem exists_unparted {ls : List (List Char)} (h : ¬Parted ls) :
    ∃ before next after, ls = before ++ next :: after ∧ Parted before ∧ (run before).Closed ∧
      trimEnd next ≠ [] := by
  induction ls using List.reverseRecOn with
  | nil => exact absurd parted_nil h
  | append_singleton ls next ih =>
    by_cases hp : Parted ls
    · rw [parted_concat] at h
      simp only [hp, true_and, Classical.not_imp] at h
      exact ⟨ls, next, [], rfl, hp, h.1, h.2⟩
    · obtain ⟨before, row, after, rfl, hb, hc, hr⟩ := ih hp
      exact ⟨before, row, after ++ [next], by simp, hb, hc, hr⟩

/-! ### Reading what has been written -/

/-- The state after a blank row where one has to come before the next row. -/
def State.separated (s : State) : State := ⟨false, separate s.written⟩

theorem gap_separated (s : State) : s.separated.gap = [] := by
  unfold State.separated State.gap separate
  split
  · rfl
  · rfl

theorem foldl_gap (outside : s.inCode = false) (unclosed : ¬s.Closed) :
    s.gap.foldl step s = s.separated := by
  unfold State.gap State.separated separate
  split
  · rw [← outside]
    rfl
  · rename_i hblank
    have hadds : Adds s [] false [[]] :=
      .text rfl outside rfl (fun _ => by simpa using hblank) fun hc => unclosed ⟨outside, hc⟩
    exact hadds.step_eq

theorem step_blank (outside : s.inCode = false) (ended : endsBlank s.written = true) :
    step s [] = s := by
  have hadds : Adds s [] false [] := .again rfl outside rfl ended
  rw [hadds.step_eq, ← outside]
  rfl

/-- What is added for a row is added for itself, unless it parts a closing fence from other text. -/
theorem Adds.replay (h : Adds s row inCode new) (parted : s.Closed → trimEnd row = []) :
    new.foldl step s = step s row := by
  rw [h.step_eq]
  cases h with
  | opening mark outside =>
    have hunclosed : ¬s.Closed := fun hc => by
      rw [← isFence_trimEnd, parted hc] at mark
      cases mark
    have hadds : Adds s.separated (trim row) true _ := .opening (by simpa using mark) rfl
    rw [List.foldl_append, foldl_gap outside hunclosed, List.foldl_cons, hadds.step_eq,
      gap_separated, trim_trim]
    simp [State.separated, separate_eq]
  | closing mark inside =>
    have hadds : Adds s (trim row) false _ := .closing (by simpa using mark) inside
    rw [List.foldl_cons, hadds.step_eq, trim_trim]
    rfl
  | code noMark inside =>
    have hadds : Adds s (trimEnd row) true _ := .code (by simpa using noMark) inside
    rw [List.foldl_cons, hadds.step_eq, trimEnd_trimEnd]
    rfl
  | @heading marks blanks title noMark outside parts isHeading =>
    have hunclosed : ¬s.Closed := fun hc => by
      rw [parted hc] at parts
      simp [isHeading.titled] at parts
    have hadds : Adds s.separated (marks ++ ' ' :: title) false
        (s.separated.gap ++ [marks ++ ' ' :: title, []]) :=
      .heading isHeading.not_fence_spaced rfl (by simp [trimEnd_heading parts isHeading])
        isHeading.spaced
    rw [List.foldl_append, foldl_gap outside hunclosed, List.foldl_cons, hadds.step_eq,
      gap_separated, List.foldl_cons, step_blank rfl rfl]
    simp [State.separated, separate_eq]
  | again noMark outside blank ended =>
    rw [← outside]
    rfl
  | parted noMark outside noHeading closed =>
    have hadds : Adds s [] false [[], []] := .parted rfl outside rfl closed
    rw [parted ⟨outside, closed⟩, List.foldl_cons, hadds.step_eq, List.foldl_cons,
      step_blank rfl rfl]
    rfl
  | text noMark outside noHeading more unclosed =>
    have hadds : Adds s (trimEnd row) false [trimEnd (trimEnd row)] :=
      .text (by simpa using noMark) outside (by rwa [trimEnd_trimEnd]) (by rwa [trimEnd_trimEnd])
        unclosed
    rw [List.foldl_cons, hadds.step_eq, trimEnd_trimEnd]
    rfl

theorem run_output {ls : List (List Char)} (h : Parted ls) : run (run ls).output = run ls := by
  induction ls using List.reverseRecOn with
  | nil => rfl
  | append_singleton ls row ih =>
    obtain ⟨hls, hrow⟩ := parted_concat.mp h
    obtain ⟨new, ha, ho⟩ := run_adds ls row
    have hreplay : run ((run ls).output ++ new) = new.foldl step (run (run ls).output) :=
      List.foldl_append
    rw [ho, hreplay, ih hls, ha.replay hrow, run_concat]

/-! ### Blank rows at the end -/

theorem Adds.blank (h : Adds s [] inCode new) (outside : s.inCode = false) :
    ∀ written ∈ new, written = [] := by
  cases h with
  | opening mark outside => cases mark
  | closing mark inside => cases mark
  | code noMark inside => simp [inside] at outside
  | @heading marks blanks title noMark outside parts isHeading =>
    have hempty : [] = marks ++ blanks ++ title := parts
    simp [isHeading.titled] at hempty
  | again noMark outside blank ended => simp
  | parted noMark outside noHeading closed => simp [trimEnd]
  | text noMark outside noHeading more unclosed => simp [trimEnd]

theorem exists_run_blanks {ls blanks : List (List Char)} (h : endsInCode false ls = false)
    (hb : ∀ row ∈ blanks, row = []) :
    ∃ new, (∀ row ∈ new, row = []) ∧ (run (ls ++ blanks)).output = (run ls).output ++ new := by
  induction blanks using List.reverseRecOn with
  | nil => exact ⟨[], by simp, by simp⟩
  | append_singleton blanks row ih =>
    rw [List.forall_mem_append, List.forall_mem_singleton] at hb
    obtain ⟨hb, rfl⟩ := hb
    obtain ⟨new, hnew, ho⟩ := ih hb
    obtain ⟨more, hadds, hmore⟩ := run_adds (ls ++ blanks) []
    have houtside : (run (ls ++ blanks)).inCode = false := by
      rw [inCode_run, endsInCode_append_blanks _ _ hb, h]
    refine ⟨new ++ more, ?_, ?_⟩
    · exact List.forall_mem_append.mpr ⟨hnew, hadds.blank houtside⟩
    · rw [← List.append_assoc, hmore, ho, List.append_assoc]

theorem lintLines_append_blanks {ls blanks : List (List Char)} (h : endsInCode false ls = false)
    (hb : ∀ row ∈ blanks, row = []) : lintLines (ls ++ blanks) = lintLines ls := by
  obtain ⟨new, hnew, ho⟩ := exists_run_blanks h hb
  have hboth : endsInCode false (ls ++ blanks) = false := by
    rw [endsInCode_append_blanks _ _ hb, h]
  rw [lintLines_eq, balance_eq hboth, ho, trimRows_append_blanks _ hnew, lintLines_eq, balance_eq h]

/-! ### Tidying tidied rows -/

theorem lintLines_lintLines {ls : List (List Char)} (h : Parted ls) :
    lintLines (lintLines ls) = lintLines ls := by
  have hparted : Parted (balance ls) := by
    unfold balance
    split
    · rename_i hopen
      refine parted_concat.mpr ⟨h, fun hc => ?_⟩
      rw [← inCode_run, hc.1] at hopen
      cases hopen
    · exact h
  have hclosed : endsInCode false (run (balance ls)).output = false := by
    rw [endsInCode_run, endsInCode_balance]
  obtain ⟨blanks, hb, he⟩ := output_run_balance ls
  calc lintLines (lintLines ls)
      = lintLines (lintLines ls ++ blanks) :=
        (lintLines_append_blanks (endsInCode_lintLines ls) hb).symm
    _ = trimRows (run (run (balance ls)).output).output := by
        rw [← he, lintLines_eq, balance_eq hclosed]
    _ = lintLines ls := by rw [run_output hparted, lintLines_eq]

theorem exists_run_append (ls more : List (List Char)) :
    ∃ new, (run (ls ++ more)).output = (run ls).output ++ new := by
  induction more using List.reverseRecOn with
  | nil => exact ⟨[], by simp⟩
  | append_singleton more row ih =>
    obtain ⟨new, ho⟩ := ih
    obtain ⟨last, -, hlast⟩ := run_adds (ls ++ more) row
    exact ⟨new ++ last, by rw [← List.append_assoc, hlast, ho, List.append_assoc]⟩

theorem State.Closed.gap_eq (h : s.Closed) : s.gap = [[]] := by
  rw [State.gap, not_endsBlank_of_head h.2]
  rfl

theorem Adds.exists_parting (h : Adds s row inCode new) (closed : s.Closed)
    (notBlank : trimEnd row ≠ []) : ∃ first more, new = [] :: first :: more ∧ first ≠ [] := by
  cases h with
  | opening mark outside =>
    have hfirst : trim row ≠ [] := fun he => by
      rw [← isFence_trim, he] at mark
      cases mark
    exact ⟨trim row, [], by rw [closed.gap_eq]; rfl, hfirst⟩
  | closing mark inside => simp [closed.1] at inside
  | code noMark inside => simp [closed.1] at inside
  | @heading marks blanks title noMark outside parts isHeading =>
    exact ⟨marks ++ ' ' :: title, [[]], by rw [closed.gap_eq]; rfl, by simp⟩
  | again noMark outside blank ended => exact absurd blank notBlank
  | parted noMark outside noHeading closed => exact ⟨trimEnd row, [], rfl, notBlank⟩
  | text noMark outside noHeading more unclosed => exact absurd closed.2 unclosed

/-- A blank row is written between a closing fence and a row that is not blank. -/
theorem exists_lintLines_parting {before : List (List Char)} {next : List Char}
    (after : List (List Char)) (closed : (run before).Closed) (notBlank : trimEnd next ≠ []) :
    ∃ first rest, first ≠ [] ∧
      lintLines (before ++ next :: after) = (run before).output ++ [] :: first :: rest := by
  obtain ⟨new, hadds, ho⟩ := run_adds before next
  obtain ⟨first, added, rfl, hfirst⟩ := hadds.exists_parting closed notBlank
  obtain ⟨tail, hbalance⟩ : ∃ tail,
      balance (before ++ next :: after) = before ++ [next] ++ tail := by
    unfold balance
    split
    · exact ⟨after ++ [fence], by simp⟩
    · exact ⟨after, by simp⟩
  obtain ⟨others, hall⟩ := exists_run_append (before ++ [next]) tail
  have hwritten : (run (balance (before ++ next :: after))).output =
      ((run before).output ++ [[]]) ++ first :: (added ++ others) := by
    rw [hbalance, hall, ho]
    simp
  obtain ⟨rest, hrest⟩ := exists_trimRows ((run before).output ++ [[]]) hfirst (added ++ others)
  refine ⟨first, rest, hfirst, ?_⟩
  rw [lintLines_eq, hwritten, hrest]
  simp

/-- A blank row after a closing fence is written with another one before it. -/
theorem exists_run_doubled {before : List (List Char)} (after : List (List Char))
    (closed : (run before).Closed) :
    ∃ rest, (run (before ++ [] :: after)).output = (run before).output ++ [] :: [] :: rest := by
  have hblank : Adds (run before) [] false [[], []] := .parted rfl closed.1 rfl closed.2
  obtain ⟨rest, hrest⟩ := exists_run_append (before ++ [[]]) after
  refine ⟨rest, ?_⟩
  rw [run_concat, hblank.output_eq] at hrest
  simpa using hrest

theorem lintLines_lintLines_ne {ls : List (List Char)} (h : ¬Parted ls) :
    lintLines (lintLines ls) ≠ lintLines ls := by
  intro hsame
  obtain ⟨before, next, after, rfl, hparted, hclosed, hnext⟩ := exists_unparted h
  obtain ⟨first, rest, hfirst, hrest⟩ := exists_lintLines_parting after hclosed hnext
  have hagain : run (run before).output = run before := run_output hparted
  obtain ⟨more, hmore⟩ := exists_run_doubled (first :: rest) (hagain.symm ▸ hclosed)
  obtain ⟨blanks, -, hwritten⟩ := output_run_balance (lintLines (before ++ next :: after))
  rw [balance_lintLines, hsame, hrest, hmore, hagain] at hwritten
  -- both go on with a blank row, but only one with another one
  have hfollow : first = [] ∧ more = rest ++ blanks := by simpa using hwritten
  exact hfirst hfollow.1

/-! ### The whole text -/

theorem parted_lintLines (ls : List (List Char)) : Parted (lintLines ls) := by
  intro before row next after he hcode hrow
  have htidy := tidy_lintLines ls
  have hmark : isFence row = true := by rw [← isFence_trim, hrow, isFence_fence]
  have hbare : row = fence := (htidy.fences row (by simp [he]) hmark).symm.trans hrow
  obtain rfl := (htidy.apart before row next after he).closing hcode hbare
  rfl

theorem Parted.append_blanks {ls blanks : List (List Char)} (h : Parted ls)
    (hb : ∀ row ∈ blanks, row = []) : Parted (ls ++ blanks) := by
  induction blanks using List.reverseRecOn with
  | nil => rwa [List.append_nil]
  | append_singleton blanks row ih =>
    rw [List.forall_mem_append, List.forall_mem_singleton] at hb
    obtain ⟨hb, rfl⟩ := hb
    rw [← List.append_assoc, parted_concat]
    exact ⟨ih hb, fun _ => rfl⟩

theorem parted_lintChars (s : List Char) : Parted (rows (lintChars s)) := by
  obtain ⟨blanks, hb, he⟩ := exists_rows_lintChars s
  rw [he]
  exact (parted_lintLines (rows s)).append_blanks hb

theorem lintLines_rows_lintChars (s : List Char) :
    lintLines (rows (lintChars s)) = lintLines (lintLines (rows s)) := by
  obtain ⟨blanks, hb, he⟩ := exists_rows_lintChars s
  rw [he, lintLines_append_blanks (endsInCode_lintLines _) hb]

theorem trimRows_rows_lintChars (s : List Char) :
    trimRows (rows (lintChars s)) = lintLines (rows s) := by
  obtain ⟨blanks, hb, he⟩ := exists_rows_lintChars s
  rw [he, trimRows_append_blanks _ hb, lintLines_eq, trimRows_trimRows]

theorem lintChars_lintChars_eq_iff (s : List Char) :
    lintChars (lintChars s) = lintChars s ↔ Parted (rows s) := by
  constructor
  · intro h
    by_contra hp
    apply lintLines_lintLines_ne hp
    rw [← lintLines_rows_lintChars, ← trimRows_rows_lintChars, h, trimRows_rows_lintChars]
  · intro h
    have htwice : lintChars (lintChars s) =
        join ['\n'] (lintLines (rows (lintChars s))) ++ ['\n'] := rfl
    rw [htwice, lintLines_rows_lintChars, lintLines_lintLines h]
    rfl

theorem lint_eq_iff (m n : String) : lint m = lint n ↔ lintChars m.toList = lintChars n.toList :=
  String.ofList_inj

/-- Tidying again changes nothing if and only if a blank row or none comes after each fence of three
backticks that closes a block of code. What has been tidied twice is never changed again. -/
theorem lint_lint_eq_iff (m : String) :
    (lint (lint m) = lint m ↔ Parted (rows m.toList)) ∧ lint (lint (lint m)) = lint (lint m) := by
  constructor
  · rw [lint_eq_iff, toList_lint, lintChars_lintChars_eq_iff]
  · rw [lint_eq_iff, toList_lint (lint m), lintChars_lintChars_eq_iff, toList_lint]
    exact parted_lintChars m.toList

/-- A row of text right after a block of code moves down with each of the first two tidyings. -/
theorem lint_lint_ne :
    lint (lint "```\nx\n```\nfoo") ≠ lint "```\nx\n```\nfoo" := by
  decide

end DocAtlas.Markdown.Lint
