import DocAtlas.Proofs.TidyingSteps

/-!
The tidying of markdown neither adds nor removes a heading, and leaves rows that are in order as
they are.
-/
namespace DocAtlas.Markdown.Lint
open Text

/-! ### What a text reads as -/

/-- The lines of a text that are not blank, as the tidying would write them. -/
def reading (s : List Char) : List (List Char) := (shown s).map normalLine

theorem reading_append {c : Char} (hc : isLineEnd c = true) (a b : List Char) :
    reading (a ++ c :: b) = reading a ++ reading b := by
  rw [reading, shown_append hc, List.map_append]
  rfl

theorem reading_join {e : Char} (he : isLineEnd e = true) (ls : List (List Char)) :
    reading (join [e] ls) = ls.flatMap reading := by
  rw [reading, shown_join he, List.map_flatMap]
  rfl

theorem reading_rows (s : List Char) : (rows s).flatMap reading = reading s := by
  rw [reading, ← shown_rows, List.map_flatMap]
  rfl

theorem reading_trimEnd (s : List Char) : reading (trimEnd s) = reading s := by
  rw [reading, shown_trimEnd, reading]

theorem reading_trimStart (s : List Char) : reading (trimStart s) = reading s := by
  rw [reading, shown_trimStart, reading]

theorem headings_of_reading {s t : List Char}
    (h : Contents.titles false (reading s) = Contents.titles false (reading t)) :
    Contents.headings s = Contents.headings t := by
  rw [reading, reading, Contents.titles_normal, Contents.titles_normal] at h
  rw [Contents.headings_eq, Contents.headings_eq, h]

/-- Whether the number signs that begin a row are followed by more on their own line. -/
def Whole (row : List Char) : Prop :=
  row.head? = some '#' → ∀ c ∈ (row.dropWhile (· == '#')).takeWhile isBlank, isLineEnd c = false

instance (row : List Char) : Decidable (Whole row) := by
  unfold Whole
  infer_instance

/-- A heading on one line reads as its signs and its title, whatever blanks stand between. -/
theorem reading_heading_line {marks blanks title : List Char} (h : IsHeading marks blanks title)
    (hb : ∀ c ∈ blanks, isLineEnd c = false) (ht : ∀ c ∈ title, isLineEnd c = false) :
    reading (marks ++ blanks ++ title) = [marks ++ ' ' :: trimEnd title] := by
  obtain ⟨a, t, rfl⟩ := List.exists_cons_of_ne_nil h.titled
  have ha := isBlank_head h.starts
  obtain ⟨t', he⟩ := exists_trimEnd_cons ha t
  have hne : trimEnd (a :: t) ≠ [] := he ▸ List.cons_ne_nil a t'
  have hcut : IsHeading marks blanks (trimEnd (a :: t)) :=
    { h with starts := by rw [he, trimStart_of_cons ha], titled := hne }
  have hline : ∀ c ∈ marks ++ blanks ++ a :: t, isLineEnd c = false := by
    intro c hc
    rcases List.mem_append.mp hc with hc | hc
    · rcases List.mem_append.mp hc with hc | hc
      · rw [h.signs c hc]
        rfl
      · exact hb c hc
    · exact ht c hc
  have htrim : trim (marks ++ blanks ++ a :: t) = marks ++ blanks ++ trimEnd (a :: t) := by
    obtain ⟨m, ms, rfl⟩ := List.exists_cons_of_length_pos h.low
    obtain rfl := h.signs m (List.mem_cons_self ..)
    rw [trim, List.cons_append, List.cons_append, trimStart_of_cons rfl, ← List.cons_append,
      ← List.cons_append, trimEnd_append_of_ne _ hne]
  rw [reading, shown_of_line hline, htrim, if_neg (by simp [hne]), List.map_singleton, normalLine,
    hcut.heading?_eq]

theorem isLineEnd_of_not_blank {c : Char} (h : isBlank c = false) : isLineEnd c = false := by
  by_contra hc
  rw [isBlank_of_isLineEnd (Bool.not_eq_false _ ▸ hc)] at h
  exact Bool.noConfusion h

/-- The blanks after the signs of a heading do not matter as long as they keep it on one line. -/
theorem reading_respaced {marks blanks others title : List Char}
    (h : IsHeading marks blanks title) (h' : IsHeading marks others title)
    (hb : ∀ c ∈ blanks, isLineEnd c = false) (ho : ∀ c ∈ others, isLineEnd c = false) :
    reading (marks ++ blanks ++ title) = reading (marks ++ others ++ title) := by
  rcases exists_first (p := isLineEnd) title with ht | ⟨t, e, rest, rfl, he, ht⟩
  · rw [reading_heading_line h hb ht, reading_heading_line h' ho ht]
  · have hne : t ≠ [] := by
      rintro rfl
      rw [List.nil_append] at h
      rw [isLineEnd_of_not_blank (isBlank_head h.starts)] at he
      exact Bool.noConfusion he
    have hstarts : trimStart t = t := by
      obtain ⟨a, t, rfl⟩ := List.exists_cons_of_ne_nil hne
      exact trimStart_of_cons (isBlank_head (s := t ++ e :: rest) h.starts) t
    rw [← List.append_assoc, ← List.append_assoc, reading_append he, reading_append he,
      reading_heading_line { h with starts := hstarts, titled := hne } hb ht,
      reading_heading_line { h' with starts := hstarts, titled := hne } ho ht]

theorem reading_heading {row marks title : List Char} (hw : Whole row)
    (h : heading? (trimEnd row) = some (marks, title)) :
    reading (marks ++ ' ' :: title) = reading row := by
  obtain ⟨blanks, he, hp⟩ := isHeading_of_heading? h
  obtain ⟨b, -, hrow⟩ := exists_blank_trimEnd row
  obtain ⟨a, t, rfl⟩ := List.exists_cons_of_ne_nil hp.titled
  have ha := isBlank_head hp.starts
  have hsigns : ∀ c ∈ marks, (c == '#') = true := fun c hc => beq_iff_eq.mpr (hp.signs c hc)
  have hblanks : ∀ c ∈ blanks, isLineEnd c = false := by
    rw [he, List.append_assoc, List.append_assoc] at hrow
    obtain ⟨m, ms, hm⟩ := List.exists_cons_of_length_pos hp.low
    have hhead : row.head? = some '#' := by
      rw [hrow, hm, List.cons_append, List.head?_cons, hp.signs m (by simp [hm])]
    obtain ⟨d, ds, hd⟩ := List.exists_cons_of_ne_nil hp.parted
    have hdrop : row.dropWhile (· == '#') = blanks ++ (a :: t ++ b) := by
      have hne : d ≠ '#' := by
        rintro rfl
        exact absurd (hp.blank '#' (by simp [hd])) (by decide)
      rw [hrow, List.dropWhile_append_of_pos hsigns, hd, List.cons_append, List.dropWhile_cons,
        if_neg (by simpa using hne)]
    have htake : (row.dropWhile (· == '#')).takeWhile isBlank = blanks := by
      rw [hdrop, List.takeWhile_append_of_pos hp.blank, List.cons_append, List.takeWhile_cons,
        if_neg (by simp [ha]), List.append_nil]
    exact htake ▸ hw hhead
  have hspaced := reading_respaced hp.spaced hp (by decide) hblanks
  rw [← he, reading_trimEnd, List.append_assoc] at hspaced
  exact hspaced

/-! ### One row after the other -/

/-- What the rows written so far read as. -/
def State.reading (s : State) : List (List Char) := s.written.reverse.flatMap Lint.reading

theorem reading_blanks {blanks : List (List Char)} (h : ∀ row ∈ blanks, row = []) :
    blanks.flatMap reading = [] := by
  rw [List.flatMap_eq_nil_iff]
  intro row hr
  rw [h row hr]
  rfl

theorem reading_gap (s : State) : s.gap.flatMap reading = [] :=
  reading_blanks fun _ => eq_nil_of_mem_gap

/-- What is added for a row reads as the row. -/
theorem Adds.reading_new {s : State} {row : List Char} {inCode : Bool} {new : List (List Char)}
    (h : Adds s row inCode new) (hw : Whole row) : new.flatMap reading = reading row := by
  cases h with
  | opening mark outside =>
    rw [List.flatMap_append, reading_gap, List.flatMap_singleton, trim, reading_trimEnd,
      reading_trimStart]
    rfl
  | closing mark inside =>
    rw [List.flatMap_singleton, trim, reading_trimEnd, reading_trimStart]
  | code noMark inside => rw [List.flatMap_singleton, reading_trimEnd]
  | @heading marks blanks title noMark outside parts isHeading =>
    have hh : heading? (trimEnd row) = some (marks, title) := by rw [parts, isHeading.heading?_eq]
    rw [List.flatMap_append, reading_gap, List.flatMap_cons, reading_heading hw hh]
    exact List.append_nil _
  | again noMark outside blank ended =>
    rw [← reading_trimEnd, blank]
    rfl
  | parted noMark outside noHeading closed =>
    rw [List.flatMap_cons, List.flatMap_singleton, reading_trimEnd]
    rfl
  | text noMark outside noHeading more unclosed => rw [List.flatMap_singleton, reading_trimEnd]

theorem step_reading (s : State) {row : List Char} (hw : Whole row) :
    (step s row).reading = s.reading ++ reading row := by
  obtain ⟨inCode, new, h⟩ := exists_adds s row
  have houtput : (step s row).reading = (s.output ++ new).flatMap reading := by
    rw [← h.output_eq]
    rfl
  rw [houtput, List.flatMap_append, h.reading_new hw]
  rfl

theorem foldl_reading (s : State) {ls : List (List Char)} (hw : ∀ row ∈ ls, Whole row) :
    (ls.foldl step s).reading = s.reading ++ ls.flatMap reading := by
  induction ls generalizing s with
  | nil => simp
  | cons row ls ih =>
    rw [List.forall_mem_cons] at hw
    rw [List.foldl_cons, ih _ hw.2, step_reading s hw.1, List.append_assoc, List.flatMap_cons]

theorem finish_reading (s : State) :
    (finish s).flatMap reading = s.reading ++ if s.inCode then [fence] else [] := by
  obtain ⟨blanks, hb, he⟩ := exists_blanks (if s.inCode then s.output ++ [fence] else s.output)
  have hsame := congrArg (List.flatMap reading) he
  rw [List.flatMap_append, reading_blanks hb, List.append_nil, ← finish_eq] at hsame
  rw [← hsame]
  split
  · rw [List.flatMap_append]
    rfl
  · exact (List.append_nil _).symm

/-- Tidying keeps what the rows read as; it may close a block of code at the end. -/
theorem reading_lintChars {s : List Char} (hw : ∀ row ∈ rows s, Whole row) :
    ∃ close, reading (lintChars s) = reading s ++ close ∧ (close = [] ∨ close = [fence]) := by
  have hlint : reading (lintChars s) = (finish ((rows s).foldl step {})).flatMap reading := by
    rw [lintChars, reading_append rfl, reading_join rfl]
    exact List.append_nil _
  refine ⟨if ((rows s).foldl step {}).inCode then [fence] else [], ?_, ?_⟩
  · rw [hlint, finish_reading, foldl_reading _ hw, reading_rows]
    rfl
  · split
    · exact .inr rfl
    · exact .inl rfl

/-- Tidying neither adds nor removes a heading. -/
theorem headings_lintChars {s : List Char} (hw : ∀ row ∈ rows s, Whole row) :
    Contents.headings (lintChars s) = Contents.headings s := by
  obtain ⟨close, he, hclose⟩ := reading_lintChars hw
  apply headings_of_reading
  rw [he, Contents.titles_append]
  have hnone : ∀ inCode, Contents.titles inCode close = [] := by
    intro inCode
    rcases hclose with rfl | rfl
    · rfl
    · cases inCode <;> rfl
  rw [hnone, List.append_nil]

/-! ### Rows that stay as they are -/

/-- The first sign of a mark; no row gets it by being tidied. -/
def IsMark (m : List Char) : Prop := m.head? = some '<'

theorem infix_of_cons {m : List Char} (hm : IsMark m) {c : Char} (hc : c ≠ '<') {s : List Char}
    (h : m <:+: c :: s) : m <:+: s := by
  rcases List.infix_cons_iff.mp h with hp | hi
  · obtain ⟨t, ht⟩ := hp
    cases m with
    | nil => exact List.nil_infix
    | cons a m =>
      obtain rfl : a = '<' := Option.some.inj hm
      exact absurd (List.cons.inj ht).1.symm hc
  · exact hi

theorem infix_of_heading {m marks title : List Char} (hm : IsMark m)
    (hmarks : ∀ c ∈ marks, c = '#') (h : m <:+: marks ++ ' ' :: title) : m <:+: title := by
  induction marks with
  | nil => exact infix_of_cons hm (by decide) h
  | cons c marks ih =>
    rw [List.forall_mem_cons] at hmarks
    have hc : c ≠ '<' := by
      rw [hmarks.1]
      decide
    exact ih hmarks.2 (infix_of_cons hm hc h)

theorem IsMark.not_infix_nil {m : List Char} (hm : IsMark m) : ¬m <:+: [] := by
  intro h
  rw [List.infix_nil.mp h] at hm
  cases hm

/-- A mark in a row that is added for another one is in that. -/
theorem Adds.infix_of_new {m : List Char} (hm : IsMark m) {s : State} {row : List Char}
    {inCode : Bool} {new : List (List Char)} (h : Adds s row inCode new) :
    ∀ w ∈ new, m <:+: w → m <:+: row := by
  have hnil := hm.not_infix_nil
  have hgap : ∀ w ∈ s.gap, m <:+: w → m <:+: row := fun w hw h =>
    absurd (eq_nil_of_mem_gap hw ▸ h) hnil
  have htrim : m <:+: trim row → m <:+: row := fun h => h.trans (trim_isInfix row)
  have hend : m <:+: trimEnd row → m <:+: row := fun h => h.trans (prefix_trimEnd row).isInfix
  cases h with
  | opening mark outside => simpa [or_imp, forall_and] using ⟨hgap, htrim⟩
  | closing mark inside => simpa using htrim
  | code noMark inside => simpa using hend
  | @heading marks blanks title noMark outside parts isHeading =>
    have htitle : m <:+: marks ++ ' ' :: title → m <:+: row := by
      intro h
      apply hend
      rw [parts]
      exact (infix_of_heading hm isHeading.signs h).trans (List.suffix_append _ _).isInfix
    simpa [or_imp, forall_and, hnil] using ⟨hgap, htitle⟩
  | again noMark outside blank ended => simp
  | parted noMark outside noHeading closed => simpa [hnil] using hend
  | text noMark outside noHeading more unclosed => simpa using hend

theorem written_foldl {m : List Char} (hm : IsMark m) (s : State) (ls : List (List Char)) :
    ∃ new, (ls.foldl step s).written = new ++ s.written ∧
      ∀ w ∈ new, m <:+: w → ∃ row ∈ ls, m <:+: row := by
  induction ls generalizing s with
  | nil => exact ⟨[], rfl, by simp⟩
  | cons row ls ih =>
    obtain ⟨inCode, first, hadds⟩ := exists_adds s row
    obtain ⟨new, hnew, hls⟩ := ih (step s row)
    refine ⟨new ++ first.reverse, ?_, ?_⟩
    · rw [List.foldl_cons, hnew, hadds.step_eq, List.append_assoc]
    · intro w hw h
      rcases List.mem_append.mp hw with hw | hw
      · obtain ⟨r, hr, hi⟩ := hls w hw h
        exact ⟨r, List.mem_cons_of_mem _ hr, hi⟩
      · exact ⟨row, List.mem_cons_self .., hadds.infix_of_new hm w (List.mem_reverse.mp hw) h⟩

/-- A row that the tidying leaves as it is. -/
structure Settled (row : List Char) : Prop where
  trimmed : trimEnd row = row
  noFence : isFence row = false
  noHeading : heading? row = none

theorem Settled.ne_fence {row : List Char} (h : Settled row) : row ≠ fence := by
  rintro rfl
  exact Bool.noConfusion h.noFence

theorem Settled.written_step {s : State} {row : List Char} (h : Settled row)
    (more : row = [] → endsBlank s.written = false) (unclosed : s.written.head? ≠ some fence) :
    (step s row).written = row :: s.written := by
  cases hc : s.inCode with
  | true =>
    have hadds : Adds s row true [trimEnd row] := .code h.noFence hc
    simp [hadds.step_eq, h.trimmed]
  | false =>
    have hadds : Adds s row false [trimEnd row] :=
      .text h.noFence hc (by rw [h.trimmed, h.noHeading]) (by rwa [h.trimmed]) unclosed
    simp [hadds.step_eq, h.trimmed]

/-- A settled row goes to the others; a blank one may come first. -/
theorem step_settled (s : State) {row : List Char} (h : Settled row) (hne : row ≠ []) :
    (step s row).written = row :: s.written ∨ (step s row).written = row :: [] :: s.written := by
  by_cases hclosed : s.written.head? = some fence
  · cases hc : s.inCode with
    | true =>
      have hadds : Adds s row true [trimEnd row] := .code h.noFence hc
      simp [hadds.step_eq, h.trimmed]
    | false =>
      have hadds : Adds s row false [[], trimEnd row] :=
        .parted h.noFence hc (by rw [h.trimmed, h.noHeading]) hclosed
      simp [hadds.step_eq, h.trimmed]
  · exact .inl (h.written_step (fun hnil => absurd hnil hne) hclosed)

/-- After a row that is no fence, a settled row is only added. -/
theorem step_after {s : State} {last : List Char} {before : List (List Char)} {row : List Char}
    (hs : s.written = last :: before) (hlast : last ≠ fence) (h : Settled row)
    (hne : row ≠ [] ∨ last ≠ []) : (step s row).written = row :: s.written := by
  apply h.written_step
  · simpa [hs, endsBlank, or_iff_not_imp_left] using hne
  · simpa [hs] using hlast

theorem foldl_settled {s : State} {last : List Char} {before : List (List Char)}
    (hs : s.written = last :: before) (hlast : last ≠ fence) {ls : List (List Char)}
    (h : ∀ row ∈ ls, Settled row ∧ row ≠ []) :
    (ls.foldl step s).written = ls.reverse ++ s.written := by
  induction ls generalizing s last before with
  | nil => rfl
  | cons row ls ih =>
    rw [List.forall_mem_cons] at h
    have hstep := step_after hs hlast h.1.1 (.inl h.1.2)
    rw [List.foldl_cons, ih hstep h.1.1.ne_fence h.2, hstep, List.reverse_cons, List.append_assoc]
    rfl

/-- Settled rows, of which a blank one parts the first two from the rest. -/
structure IsBlock (block : List (List Char)) : Prop where
  settled : ∀ row ∈ block, Settled row
  parted : ∃ first second rest, block = first :: second :: [] :: rest ∧ first ≠ [] ∧
    second ≠ [] ∧ rest ≠ [] ∧ ∀ row ∈ rest, row ≠ []

theorem foldl_block (s : State) {block : List (List Char)} (h : IsBlock block) :
    (block.foldl step s).written = block.reverse ++ s.written ∨
      (block.foldl step s).written = block.reverse ++ [] :: s.written := by
  obtain ⟨first, second, rest, rfl, hfirst, hsecond, -, hrest⟩ := h.parted
  have hall := h.settled
  simp only [List.forall_mem_cons] at hall
  obtain ⟨h₁, h₂, h₃, hr⟩ := hall
  have hfrom : ∀ before, (step s first).written = first :: before →
      ((first :: second :: [] :: rest).foldl step s).written =
        (first :: second :: [] :: rest).reverse ++ before := by
    intro before hb
    have hs₂ := step_after hb h₁.ne_fence h₂ (.inl hsecond)
    have hs₃ := step_after hs₂ h₂.ne_fence h₃ (.inr hsecond)
    rw [List.foldl_cons, List.foldl_cons, List.foldl_cons,
      foldl_settled hs₃ (by decide) fun row hrow => ⟨hr row hrow, hrest row hrow⟩, hs₃, hs₂, hb]
    simp
  rcases step_settled s h₁ hfirst with hb | hb
  · exact .inl (hfrom _ hb)
  · exact .inr (hfrom _ hb)

/-! ### All rows -/

/-- A mark in a row that is written was in a row that was read. -/
theorem mark_of_lintLines {m : List Char} (hm : IsMark m) {ls : List (List Char)} {w : List Char}
    (hw : w ∈ lintLines ls) (h : m <:+: w) : ∃ row ∈ ls, m <:+: row := by
  obtain ⟨new, hnew, hmarks⟩ := written_foldl hm {} ls
  have hall : w ∈ (if (ls.foldl step {}).inCode then fence :: (ls.foldl step {}).written
      else (ls.foldl step {}).written) :=
    (List.dropWhile_suffix _).subset (List.mem_reverse.mp hw)
  rw [hnew, List.append_nil] at hall
  split at hall
  · rcases List.mem_cons.mp hall with rfl | hw
    · have hcut := infix_of_cons hm (by decide) (infix_of_cons hm (by decide)
        (infix_of_cons hm (by decide) h))
      exact absurd hcut hm.not_infix_nil
    · exact hmarks w hw h
  · exact hmarks w hall h

/-- Rows that end with one that is not blank are not dropped at the end. -/
theorem exists_finish {s : State} {late early : List (List Char)} {last : List Char}
    (hs : s.written = late ++ last :: early) (hlast : last ≠ []) :
    ∃ after, finish s = (last :: early).reverse ++ after := by
  obtain ⟨more, hmore⟩ : ∃ more, (if s.inCode then s.output ++ [fence] else s.output) =
      early.reverse ++ last :: more := by
    rw [State.output, hs]
    split
    · exact ⟨late.reverse ++ [fence], by simp⟩
    · exact ⟨late.reverse, by simp⟩
  obtain ⟨rest, hrest⟩ := exists_trimRows early.reverse hlast more
  exact ⟨rest, by rw [finish_eq, hmore, hrest]; simp⟩

/-- A block of settled rows stays together, and marks before it were there before. -/
theorem lintLines_block {m : List Char} (hm : IsMark m) (pre post : List (List Char))
    {block : List (List Char)} (h : IsBlock block) :
    ∃ before after, lintLines (pre ++ block ++ post) = before ++ block ++ after ∧
      ∀ w ∈ before, m <:+: w → ∃ row ∈ pre, m <:+: row := by
  obtain ⟨early, hearly, hmarks⟩ := written_foldl hm {} pre
  obtain ⟨late, hlate, -⟩ := written_foldl hm (block.foldl step (pre.foldl step {})) post
  rw [List.append_nil] at hearly
  obtain ⟨first, second, rest, rfl, hfirst, hsecond, hne, hrest⟩ := h.parted
  obtain ⟨front, last, rfl⟩ := (List.eq_nil_or_concat rest).resolve_left hne
  have hlast : last ≠ [] := hrest last (by simp)
  have hfound : ∃ gap, (∀ w ∈ gap, w = []) ∧
      ((first :: second :: [] :: front.concat last).foldl step (pre.foldl step {})).written =
        (first :: second :: [] :: front.concat last).reverse ++ (gap ++ early) := by
    rcases foldl_block (pre.foldl step {}) h with hb | hb
    · exact ⟨[], by simp, by rw [hb, hearly]; rfl⟩
    · exact ⟨[[]], by simp, by rw [hb, hearly]; rfl⟩
  obtain ⟨gap, hgap, hwritten⟩ := hfound
  have hall :
      ((pre ++ (first :: second :: [] :: front.concat last) ++ post).foldl step {}).written =
        late ++ last :: (front.reverse ++ [] :: second :: first :: (gap ++ early)) := by
    rw [List.foldl_append, List.foldl_append, hlate, hwritten]
    simp
  obtain ⟨after, hafter⟩ := exists_finish hall hlast
  refine ⟨(gap ++ early).reverse, after, ?_, ?_⟩
  · rw [lintLines, hafter]
    simp
  · intro w hw hi
    rcases List.mem_append.mp (List.mem_reverse.mp hw) with hw | hw
    · rw [hgap w hw] at hi
      exact absurd hi hm.not_infix_nil
    · exact hmarks w hw hi

end DocAtlas.Markdown.Lint
