import DocAtlas.Proofs.Anchors
import DocAtlas.Proofs.Cutting
import DocAtlas.Proofs.Tidying

/-!
The table of contents of a text: where it is written, what it lists, and that neither it nor the
tidying after it changes what headings the text has.
-/
namespace DocAtlas.Text

/-! ### Rows of a text in pieces -/

/-- A return before a line feed is dropped or not whatever comes after the line feed. -/
theorem exists_dropReturns_append (a : List Char) :
    ∃ d, ∀ b, dropReturns (a ++ '\n' :: b) = d ++ '\n' :: dropReturns b := by
  induction a with
  | nil => exact ⟨[], fun b => by simp [dropReturns_cons]⟩
  | cons c a ih =>
    obtain ⟨d, hd⟩ := ih
    have hhead : ∀ b, (a ++ '\n' :: b).head? = (a ++ ['\n']).head? := by
      intro b
      cases a <;> rfl
    by_cases hskip : (c == '\r' && (a ++ ['\n']).head? == some '\n') = true
    · refine ⟨d, fun b => ?_⟩
      rw [List.cons_append, dropReturns_cons, hhead, if_pos hskip, hd]
    · refine ⟨c :: d, fun b => ?_⟩
      rw [List.cons_append, dropReturns_cons, hhead, if_neg hskip, hd, List.cons_append]

/-- A line feed parts the rows; those before it do not depend on what comes after. -/
theorem exists_rows_append (a : List Char) :
    ∃ front, (∀ row ∈ front, row <:+: a) ∧ ∀ b, rows (a ++ '\n' :: b) = front ++ rows b := by
  obtain ⟨d, hd⟩ := exists_dropReturns_append a
  have hrows : ∀ b, rows (a ++ '\n' :: b) = splitAt '\n' (replaceChar '\r' '\n' d) ++ rows b := by
    intro b
    have hreplace : replaceChar '\r' '\n' (d ++ '\n' :: dropReturns b) =
        replaceChar '\r' '\n' d ++ '\n' :: unifyBreaks b := by
      simp [replaceChar, unifyBreaks]
    rw [rows, unifyBreaks, hd, hreplace, splitAt_append]
    rfl
  refine ⟨_, fun row hrow => ?_, hrows⟩
  have hmem : row ∈ rows (a ++ '\n' :: []) := by
    rw [hrows]
    exact List.mem_append_left _ hrow
  have hbreak : '\n' ∉ row := by
    intro hn
    simpa using not_of_mem_splitWhere hrow '\n' hn
  rcases infix_of_append_cons hbreak (infix_of_mem_rows hmem) with ha | hnil
  · exact ha
  · rw [List.infix_nil.mp hnil]
    exact List.nil_infix

theorem not_return {c : Char} (h : isBreak c = false) : (c == '\r') = false :=
  (Bool.or_eq_false_iff.mp h).2

/-- A row without breaks is the first one of what it begins. -/
theorem rows_cons {row : List Char} (hrow : ∀ c ∈ row, isBreak c = false) (b : List Char) :
    rows (row ++ '\n' :: b) = row :: rows b := by
  have hdrop : dropReturns (row ++ '\n' :: b) = row ++ '\n' :: dropReturns b := by
    induction row with
    | nil => simp [dropReturns_cons]
    | cons c row ih =>
      rw [List.forall_mem_cons] at hrow
      rw [List.cons_append, dropReturns_cons, not_return hrow.1, Bool.false_and,
        if_neg Bool.false_ne_true, ih hrow.2, List.cons_append]
  have hsame : replaceChar '\r' '\n' row = row := by
    refine (List.map_congr_left fun c hc => ?_).trans (List.map_id row)
    rw [not_return (hrow c hc), if_neg Bool.false_ne_true]
    rfl
  have hreplace : replaceChar '\r' '\n' (row ++ '\n' :: dropReturns b) =
      row ++ '\n' :: unifyBreaks b := by
    rw [unifyBreaks]
    conv_rhs => rw [← hsame]
    simp [replaceChar]
  have hnone : '\n' ∉ row := fun hn => Bool.noConfusion (hrow '\n' hn)
  rw [rows, unifyBreaks, hdrop, hreplace, splitAt_append, splitAt_of_not_mem hnone]
  rfl

theorem rows_join {ls : List (List Char)} (hne : ls ≠ [])
    (hls : ∀ row ∈ ls, ∀ c ∈ row, isBreak c = false) (b : List Char) :
    rows (join ['\n'] ls ++ '\n' :: b) = ls ++ rows b := by
  induction ls with
  | nil => contradiction
  | cons row ls ih =>
    rw [List.forall_mem_cons] at hls
    cases ls with
    | nil => simpa [join] using rows_cons hls.1 b
    | cons row' ls =>
      rw [join_cons_cons, List.append_assoc, List.append_assoc, List.singleton_append,
        rows_cons hls.1, ih (List.cons_ne_nil row' ls) hls.2]
      rfl

end DocAtlas.Text

namespace DocAtlas.Markdown
open Text

/-! ### Lines that are no headings -/

/-- Neither a heading nor a fence. -/
def IsAside (line : List Char) : Prop :=
  Lint.isFence line = false ∧ Lint.heading? line = none

theorem isAside_of_cons {a : Char} (hb : isBlank a = false) (hfence : a ≠ '`') (hsign : a ≠ '#')
    (s : List Char) : IsAside (a :: s) := by
  refine ⟨isFence_of_cons hb hfence s, ?_⟩
  have hmarks : (a :: s).takeWhile (· == '#') = [] :=
    List.takeWhile_cons_of_neg (by simpa using hsign)
  rw [Lint.heading?, hmarks, if_pos]
  rfl

theorem titlesOf_aside {line : List Char} (h : IsAside line) (inCode : Bool) :
    Contents.titlesOf inCode line = [] := by
  rw [Contents.titlesOf, h.1, Contents.heading?, h.2]
  split
  · rfl
  · rfl

theorem titles_asides {ls : List (List Char)} (h : ∀ line ∈ ls, IsAside line) (inCode : Bool) :
    Contents.titles inCode ls = [] ∧ endsInCode inCode ls = inCode := by
  induction ls with
  | nil => exact ⟨rfl, rfl⟩
  | cons line ls ih =>
    rw [List.forall_mem_cons] at h
    rw [Contents.titles_cons, titlesOf_aside h.1, endsInCode, h.1.1, if_neg Bool.false_ne_true]
    exact ih h.2

/-- Such lines between others leave all headings as they are. -/
theorem headings_asides {s t : List Char} (as bs : List (List Char)) {xs : List (List Char)}
    (hx : ∀ line ∈ xs, IsAside line) (hs : shown s = as ++ (xs ++ bs)) (ht : shown t = as ++ bs) :
    Contents.headings s = Contents.headings t := by
  obtain ⟨htitles, hcode⟩ := titles_asides hx (endsInCode false as)
  rw [Contents.headings_eq, Contents.headings_eq, hs, ht, Contents.titles_append,
    Contents.titles_append, Contents.titles_append, htitles, hcode]
  rfl

theorem headings_insert (a b : List Char) {x : List Char} (hx : ∀ line ∈ shown x, IsAside line) :
    Contents.headings (a ++ '\n' :: '\n' :: (x ++ '\n' :: b)) =
      Contents.headings (a ++ '\n' :: b) := by
  have hbreak : isLineEnd '\n' = true := rfl
  refine headings_asides (shown a) (shown b) hx ?_ (shown_append hbreak a b)
  have hnil : '\n' :: (x ++ '\n' :: b) = [] ++ '\n' :: (x ++ '\n' :: b) := rfl
  rw [shown_append hbreak, hnil, shown_append hbreak, shown_append hbreak]
  rfl

namespace Contents

/-! ### The block of a table of contents -/

/-- A title and an anchor on one line each. -/
structure IsInline (h : Heading) : Prop where
  title : ∀ c ∈ h.title, isLineEnd c = false
  anchor : ∀ c ∈ h.anchor, isLineEnd c = false

theorem isLineEnd_of_mark {c : Char} (h : Slug.IsMark c) : isLineEnd c = false := by
  rcases h with h | rfl
  · simp only [Slug.isPlain, Bool.or_eq_true, Bool.and_eq_true, decide_eq_true_eq, Char.le_def,
      UInt32.le_iff_toNat_le] at h
    have ha : ('a' : Char).val.toNat = 97 := rfl
    have hz : ('z' : Char).val.toNat = 122 := rfl
    have hzero : ('0' : Char).val.toNat = 48 := rfl
    have hnine : ('9' : Char).val.toNat = 57 := rfl
    simp only [isLineEnd, Char.toNat, Bool.or_eq_false_iff, Bool.and_eq_false_iff,
      decide_eq_false_iff_not, beq_eq_false_iff_ne]
    omega
  · rfl

theorem inline_of_mem_shown {s line : List Char} (h : line ∈ shown s) :
    ∀ c ∈ line, isLineEnd c = false := by
  rw [shown_eq, visible] at h
  obtain ⟨piece, hpiece, rfl⟩ := List.mem_map.mp (List.mem_filter.mp h).1
  exact fun c hc => not_of_mem_splitWhere hpiece c ((trim_isInfix piece).subset hc)

theorem headings_inline (s : List Char) : ∀ h ∈ headings s, IsInline h := by
  intro h hh
  obtain ⟨⟨line, hline, he⟩, -⟩ := exists_of_mem_headings hh
  refine ⟨fun c hc => ?_, fun c hc => isLineEnd_of_mark (anchor_marks hh c hc)⟩
  exact inline_of_mem_shown hline c ((title_suffix he).subset hc)

/-- The link of an entry, without the blanks before it. -/
def link (h : Heading) : List Char :=
  '-' :: ' ' :: '[' :: (h.title ++ "](#".toList ++ h.anchor ++ [')'])

theorem entry_eq (h : Heading) : entry h = List.replicate (2 * (h.level - 2)) ' ' ++ link h := by
  simp [entry, link]

theorem trimEnd_link (h : Heading) : trimEnd (link h) = link h := by
  have hlink : link h = '-' :: ' ' :: '[' :: (h.title ++ "](#".toList ++ h.anchor) ++ [')'] := by
    simp [link]
  rw [hlink, trimEnd_append_of_ne _ (by decide)]
  rfl

theorem blank_indent (n : Nat) : ∀ c ∈ List.replicate n ' ', isBlank c = true := by
  intro c hc
  rw [List.eq_of_mem_replicate hc]
  rfl

theorem entry_settled (h : Heading) : Lint.Settled (entry h) := by
  have hne : trimEnd (link h) ≠ [] := by
    rw [trimEnd_link]
    exact List.cons_ne_nil _ _
  refine ⟨?_, ?_, ?_⟩
  · rw [entry_eq, trimEnd_append_of_ne _ hne, trimEnd_link]
  · have hstart : trimStart (entry h) = trimStart (link h) := by
      rw [entry_eq, trimStart_append, trimStart_eq_nil.mpr (blank_indent _)]
      rfl
    rw [Lint.isFence, hstart]
    exact isFence_of_cons (by decide) (by decide) _
  · have hmarks : (entry h).takeWhile (· == '#') = [] := by
      rw [entry_eq]
      cases 2 * (h.level - 2) with
      | zero => rfl
      | succ n => rfl
    rw [Lint.heading?, hmarks, if_pos]
    rfl

/-- The rows of the block. -/
def blockRows (hs : List Heading) : List (List Char) :=
  opening :: "**Contents**".toList :: [] :: (hs.map entry ++ [closing])

theorem block_eq (hs : List Heading) : block hs = join ['\n'] (blockRows hs) := by
  simp [block, blockRows]

theorem isBlock_blockRows (hs : List Heading) : Lint.IsBlock (blockRows hs) := by
  have hrest : ∀ row ∈ hs.map entry ++ [closing], Lint.Settled row ∧ row ≠ [] := by
    rw [List.forall_mem_append, List.forall_mem_singleton]
    refine ⟨fun row hrow => ?_, ⟨by decide, by decide, by decide⟩, by decide⟩
    obtain ⟨h, -, rfl⟩ := List.mem_map.mp hrow
    exact ⟨entry_settled h, by simp [entry_eq, link]⟩
  refine ⟨?_, _, _, _, rfl, by decide, by decide, by simp, fun row hrow => (hrest row hrow).2⟩
  simp only [blockRows, List.forall_mem_cons]
  exact ⟨⟨by decide, by decide, by decide⟩, ⟨by decide, by decide, by decide⟩,
    ⟨by decide, by decide, by decide⟩, fun row hrow => (hrest row hrow).1⟩

theorem isBreak_of_isLineEnd {c : Char} (h : isLineEnd c = false) : isBreak c = false := by
  by_contra hb
  simp only [isBreak, Bool.not_eq_false, Bool.or_eq_true, beq_iff_eq] at hb
  rcases hb with rfl | rfl
  · cases h
  · cases h

theorem entry_inline {h : Heading} (hi : IsInline h) : ∀ c ∈ entry h, isLineEnd c = false := by
  have hopen : ∀ c ∈ "](#".toList, isLineEnd c = false := by decide
  rw [entry_eq, link]
  simp only [List.forall_mem_append, List.forall_mem_cons]
  refine ⟨fun c hc => ?_, rfl, rfl, rfl, ⟨⟨hi.title, hopen⟩, hi.anchor⟩, rfl, List.forall_mem_nil _⟩
  rw [List.eq_of_mem_replicate hc]
  rfl

theorem blockRows_inline {hs : List Heading} (hi : ∀ h ∈ hs, IsInline h) :
    ∀ row ∈ blockRows hs, ∀ c ∈ row, isLineEnd c = false := by
  simp only [blockRows, List.forall_mem_cons, List.forall_mem_append]
  refine ⟨by decide, by decide, List.forall_mem_nil _, fun row hrow => ?_, by decide,
    List.forall_mem_nil _⟩
  obtain ⟨h, hh, rfl⟩ := List.mem_map.mp hrow
  exact entry_inline (hi h hh)

theorem unbroken {hs : List Heading} (hi : ∀ h ∈ hs, IsInline h) :
    ∀ row ∈ blockRows hs, ∀ c ∈ row, isBreak c = false :=
  fun row hrow c hc => isBreak_of_isLineEnd (blockRows_inline hi row hrow c hc)

/-- The block shows no headings and no fences. -/
theorem block_aside {hs : List Heading} (hi : ∀ h ∈ hs, IsInline h) :
    ∀ line ∈ shown (block hs), IsAside line := by
  have hinline := blockRows_inline hi
  rw [block_eq, shown_join rfl]
  intro line hline
  obtain ⟨row, hrow, hl⟩ := List.mem_flatMap.mp hline
  rw [shown_of_line (hinline row hrow)] at hl
  split at hl
  · cases hl
  · rw [List.mem_singleton.mp hl]
    simp only [blockRows, List.mem_cons, List.mem_append, List.mem_map, List.not_mem_nil,
      or_false] at hrow
    rcases hrow with rfl | rfl | rfl | ⟨h, -, rfl⟩ | rfl
    · exact isAside_of_cons (a := '<') (by decide) (by decide) (by decide) _
    · exact isAside_of_cons (a := '*') (by decide) (by decide) (by decide) _
    · exact ⟨by decide, by decide⟩
    · have hstart : trimStart (link h) = link h := trimStart_of_cons (by decide) _
      have htrim : trim (entry h) = link h := by
        rw [entry_eq, trim_blank_append _ (blank_indent _), trim, hstart, trimEnd_link]
      rw [htrim]
      exact isAside_of_cons (by decide) (by decide) (by decide) _
    · exact isAside_of_cons (a := '<') (by decide) (by decide) (by decide) _

/-! ### Writing the table -/

theorem replaceFirst_of_absent {old s : List Char} (h : ¬old <:+: s) (new : List Char) :
    replaceFirst old new s = s := by
  rw [replaceFirst, cut?_eq_none_iff.mpr h]

/-- A text without marks stays as it is. -/
theorem build_of_unmarked (minimum : Int) {s : List Char} (hopen : ¬opening <:+: s)
    (hplace : ¬placeholder <:+: s) : build minimum s = .ok s := by
  unfold build
  dsimp only
  rw [cut?_eq_none_iff.mpr hopen]
  split
  · rw [replaceFirst_of_absent hplace]
  · dsimp only
    rw [replaceFirst_of_absent hplace]

/-- A text with a place for a table of contents, on a line of its own. -/
def withPlace (a b : List Char) : List Char := a ++ '\n' :: '\n' :: (placeholder ++ '\n' :: b)

theorem not_infix_insert {m a b x : List Char} (hbreak : '\n' ∉ m) (h : ¬m <:+: a ++ '\n' :: b)
    (hx : ¬m <:+: x) : ¬m <:+: a ++ '\n' :: '\n' :: (x ++ '\n' :: b) := by
  have ha : ¬m <:+: a := fun ha => h (ha.trans (List.prefix_append a _).isInfix)
  have hb : ¬m <:+: b := fun hb =>
    h (hb.trans ((List.suffix_cons '\n' b).trans (List.suffix_append a _)).isInfix)
  intro hm
  rcases infix_of_append_cons hbreak hm with hm | hm
  · exact ha hm
  · rcases infix_of_append_cons (a := []) hbreak hm with hm | hm
    · exact ha (List.infix_nil.mp hm ▸ List.nil_infix)
    · exact (infix_of_append_cons hbreak hm).elim hx hb

theorem replaceFirst_withPlace {a : List Char} (h : ¬placeholder <:+: a) (new b : List Char) :
    replaceFirst placeholder new (withPlace a b) = a ++ '\n' :: '\n' :: (new ++ '\n' :: b) := by
  have hfront : ¬placeholder <:+: a ++ ['\n'] := by
    intro hm
    rcases infix_of_append_cons (by decide) hm with ha | hnil
    · exact h ha
    · exact absurd (List.infix_nil.mp hnil) (by decide)
  have hsplit : withPlace a b = a ++ ['\n'] ++ '\n' :: (placeholder ++ '\n' :: b) := by
    simp [withPlace]
  rw [replaceFirst, hsplit, cut?_append_cons (by decide) hfront, cut?_self]
  simp

theorem placeholder_aside : ∀ line ∈ shown placeholder, IsAside line := by
  intro line hline
  have hshown : shown placeholder = [placeholder] := by decide +kernel
  rw [hshown] at hline
  rw [List.mem_singleton.mp hline]
  exact ⟨by decide, by decide⟩

/-- Where few headings are found, the place is left empty; else the table is written there. -/
theorem build_withPlace (minimum : Int) {a b : List Char} (hopen : ¬opening <:+: a ++ '\n' :: b)
    (hplace : ¬placeholder <:+: a ++ '\n' :: b) :
    build minimum (withPlace a b) = .ok (a ++ '\n' :: '\n' ::
      ((if ((headings (a ++ '\n' :: b)).length : Int) < minimum then []
        else block (headings (a ++ '\n' :: b))) ++ '\n' :: b)) := by
  have hsame : headings (withPlace a b) = headings (a ++ '\n' :: b) :=
    headings_insert a b placeholder_aside
  have habsent : ¬opening <:+: withPlace a b :=
    not_infix_insert (by decide) hopen (by decide +kernel)
  have ha : ¬placeholder <:+: a := fun ha => hplace (ha.trans (List.prefix_append a _).isInfix)
  unfold build
  dsimp only
  rw [hsame, cut?_eq_none_iff.mpr habsent]
  split
  · rw [replaceFirst_withPlace ha]
  · dsimp only
    rw [replaceFirst_withPlace ha]

end Contents

/-! ### The tidied text -/

theorem not_infix_lintChars {m s : List Char} (hm : Lint.IsMark m) (hbreak : '\n' ∉ m)
    (h : ¬m <:+: s) : ¬m <:+: Lint.lintChars s := by
  have hne : m ≠ [] := by
    rintro rfl
    cases hm
  intro hi
  rcases infix_of_append_cons hbreak hi with hj | hnil
  · obtain ⟨w, hw, hi⟩ := infix_of_join hbreak hne hj
    obtain ⟨row, hrow, hi⟩ := Lint.mark_of_lintLines hm hw hi
    exact h (hi.trans (infix_of_mem_rows hrow))
  · exact hne (List.infix_nil.mp hnil)

theorem opening_mark : Lint.IsMark Contents.opening := rfl

/-- How a text comes out that is tidied after its table of contents is written, if one is wanted. -/
structure Carries (wanted : Bool) (minimum : Nat) (bare final : List Char) : Prop where
  /-- The headings stay. -/
  headings : Contents.headings final = Contents.headings bare
  /-- The table is there if it is wanted and there are enough headings. -/
  table_iff : Contents.opening <:+: final ↔
    wanted = true ∧ minimum ≤ (Contents.headings bare).length
  /-- It lists all headings. -/
  table : Contents.opening <:+: final → ∃ before after,
    final = before ++ Contents.block (Contents.headings bare) ++ after ∧
      ¬Contents.opening <:+: before

theorem carries_plain {minimum : Nat} {wanted : Bool} {bare text : List Char}
    (hfew : ¬(wanted = true ∧ minimum ≤ (Contents.headings bare).length))
    (hopen : ¬Contents.opening <:+: text) (hwhole : ∀ row ∈ rows text, Lint.Whole row)
    (hsame : Contents.headings text = Contents.headings bare) :
    Carries wanted minimum bare (Lint.lintChars text) := by
  have hnone := not_infix_lintChars opening_mark (by decide) hopen
  exact ⟨(Lint.headings_lintChars hwhole).trans hsame, iff_of_false hnone hfew,
    fun h => absurd h hnone⟩

theorem exists_join_append (sep : List Char) (before after : List (List Char))
    {mid : List (List Char)} (hne : mid ≠ []) :
    ∃ b a, join sep (before ++ mid ++ after) = b ++ join sep mid ++ a ∧
      (b = [] ∨ b = join sep before ++ sep) := by
  have hafter : ∃ a, join sep (mid ++ after) = join sep mid ++ a := by
    by_cases ha : after = []
    · exact ⟨[], by rw [ha, List.append_nil, List.append_nil]⟩
    · exact ⟨sep ++ join sep after, by rw [join_append sep hne ha, List.append_assoc]⟩
  obtain ⟨a, ha⟩ := hafter
  by_cases hb : before = []
  · exact ⟨[], a, by rw [hb, List.nil_append, ha]; rfl, .inl rfl⟩
  · refine ⟨join sep before ++ sep, a, ?_, .inr rfl⟩
    rw [List.append_assoc, join_append sep hb (by simp [hne]), ha, List.append_assoc,
      List.append_assoc, List.append_assoc]

theorem opening_infix_block (hs : List Heading) : Contents.opening <:+: Contents.block hs := by
  rw [Contents.block_eq, Contents.blockRows, join_cons_cons, List.append_assoc]
  exact (List.prefix_append _ _).isInfix

/-- The rows of a text with another one put in, on lines of its own. -/
theorem exists_rows_insert (a b : List Char) :
    ∃ front, (∀ row ∈ front, row <:+: a) ∧ rows (a ++ '\n' :: b) = front ++ rows b ∧
      ∀ ls : List (List Char), ls ≠ [] → (∀ row ∈ ls, ∀ c ∈ row, isBreak c = false) →
        rows (a ++ '\n' :: '\n' :: (join ['\n'] ls ++ '\n' :: b)) =
          front ++ [[]] ++ ls ++ rows b := by
  obtain ⟨front, hfront, hrows⟩ := exists_rows_append a
  refine ⟨front, hfront, hrows b, fun ls hne hls => ?_⟩
  have hnil : '\n' :: (join ['\n'] ls ++ '\n' :: b) =
      [] ++ '\n' :: (join ['\n'] ls ++ '\n' :: b) := rfl
  rw [hrows, hnil, rows_cons (List.forall_mem_nil _), rows_join hne hls]
  simp

theorem whole_of_head {row : List Char} (h : row.head? ≠ some '#') : Lint.Whole row :=
  fun hs => absurd hs h

theorem blockRows_whole (hs : List Heading) : ∀ row ∈ Contents.blockRows hs, Lint.Whole row := by
  simp only [Contents.blockRows, List.forall_mem_cons, List.forall_mem_append]
  refine ⟨whole_of_head (by decide), whole_of_head (by decide), whole_of_head (by decide),
    fun row hrow => ?_, whole_of_head (by decide), List.forall_mem_nil _⟩
  obtain ⟨h, -, rfl⟩ := List.mem_map.mp hrow
  rw [Contents.entry_eq]
  apply whole_of_head
  cases 2 * (h.level - 2) with
  | zero => simp [Contents.link]
  | succ n => simp [List.replicate_succ]

/-- The rows of a text stay whole when a block is put in. -/
theorem whole_insert_block {a b : List Char} {hs : List Heading}
    (hi : ∀ h ∈ hs, Contents.IsInline h) (hw : ∀ row ∈ rows (a ++ '\n' :: b), Lint.Whole row) :
    ∀ row ∈ rows (a ++ '\n' :: '\n' :: (Contents.block hs ++ '\n' :: b)), Lint.Whole row := by
  obtain ⟨front, -, hbare, hinsert⟩ := exists_rows_insert a b
  have hrows := hinsert (Contents.blockRows hs) (List.cons_ne_nil _ _) (Contents.unbroken hi)
  rw [hbare, List.forall_mem_append] at hw
  rw [Contents.block_eq, hrows, List.forall_mem_append, List.forall_mem_append,
    List.forall_mem_append, List.forall_mem_singleton]
  exact ⟨⟨⟨hw.1, whole_of_head (by decide)⟩, blockRows_whole hs⟩, hw.2⟩

/-- A block that is put in stands whole in the tidied text, with no opening mark before it. -/
theorem exists_lintChars_block {a b : List Char} {hs : List Heading}
    (hi : ∀ h ∈ hs, Contents.IsInline h) (hopen : ¬Contents.opening <:+: a) :
    ∃ before after, Lint.lintChars (a ++ '\n' :: '\n' :: (Contents.block hs ++ '\n' :: b)) =
        before ++ Contents.block hs ++ after ∧ ¬Contents.opening <:+: before := by
  obtain ⟨front, hfront, -, hinsert⟩ := exists_rows_insert a b
  have hrows := hinsert (Contents.blockRows hs) (List.cons_ne_nil _ _) (Contents.unbroken hi)
  obtain ⟨early, late, hlint, hmarks⟩ := Lint.lintLines_block opening_mark (front ++ [[]])
    (rows b) (Contents.isBlock_blockRows hs)
  obtain ⟨before, after, hjoin, hbefore⟩ := exists_join_append ['\n'] early late
    (show Contents.blockRows hs ≠ [] from List.cons_ne_nil _ _)
  refine ⟨before, after ++ ['\n'], ?_, ?_⟩
  · rw [Lint.lintChars]
    change join ['\n'] (Lint.lintLines (rows _)) ++ ['\n'] = _
    rw [Contents.block_eq, hrows, hlint, hjoin, List.append_assoc _ after]
  · rcases hbefore with rfl | rfl
    · decide
    · intro hinfix
      rcases infix_of_append_cons (by decide) hinfix with hj | hnil
      · obtain ⟨w, hw, hi⟩ := infix_of_join (by decide) (by decide) hj
        obtain ⟨row, hrow, hi⟩ := hmarks w hw hi
        rcases List.mem_append.mp hrow with hrow | hrow
        · exact hopen (hi.trans (hfront row hrow))
        · rw [List.mem_singleton.mp hrow] at hi
          exact absurd (List.infix_nil.mp hi) (by decide)
      · exact absurd (List.infix_nil.mp hnil) (by decide)

theorem carries_table {minimum : Nat} {a b : List Char}
    (hopen : ¬Contents.opening <:+: a ++ '\n' :: b)
    (hwhole : ∀ row ∈ rows (a ++ '\n' :: b), Lint.Whole row)
    (henough : minimum ≤ (Contents.headings (a ++ '\n' :: b)).length) :
    Carries true minimum (a ++ '\n' :: b) (Lint.lintChars (a ++ '\n' :: '\n' ::
      (Contents.block (Contents.headings (a ++ '\n' :: b)) ++ '\n' :: b))) := by
  have hinline := Contents.headings_inline (a ++ '\n' :: b)
  have hsame := headings_insert a b (Contents.block_aside hinline)
  have ha : ¬Contents.opening <:+: a := fun ha => hopen (ha.trans (List.prefix_append a _).isInfix)
  obtain ⟨before, after, hfinal, hclean⟩ := exists_lintChars_block (b := b) hinline ha
  refine ⟨?_, iff_of_true ?_ ⟨rfl, henough⟩, fun _ => ⟨before, after, hfinal, hclean⟩⟩
  · rw [Lint.headings_lintChars (whole_insert_block hinline hwhole), hsame]
  · rw [hfinal]
    exact (opening_infix_block _).trans ⟨before, after, rfl⟩

/-- A text without marks, whose rows are whole, is written with its table of contents, if one is
wanted, on a line of its own between two others. -/
theorem exists_carries (minimum : Nat) (wanted : Bool) {a b : List Char}
    (hopen : ¬Contents.opening <:+: a ++ '\n' :: b)
    (hplace : ¬Contents.placeholder <:+: a ++ '\n' :: b)
    (hwhole : ∀ row ∈ rows (a ++ '\n' :: b), Lint.Whole row) :
    ∃ filled, Contents.build minimum
        (if wanted then Contents.withPlace a b else a ++ '\n' :: b) = .ok filled ∧
      Carries wanted minimum (a ++ '\n' :: b) (Lint.lintChars filled) := by
  cases wanted with
  | false =>
    refine ⟨_, Contents.build_of_unmarked minimum hopen hplace, ?_⟩
    exact carries_plain (fun h => Bool.noConfusion h.1) hopen hwhole rfl
  | true =>
    refine ⟨_, Contents.build_withPlace minimum hopen hplace, ?_⟩
    by_cases hfew : (Contents.headings (a ++ '\n' :: b)).length < minimum
    · rw [if_pos (by exact_mod_cast hfew)]
      obtain ⟨front, hfront, hbare, hinsert⟩ := exists_rows_insert a b
      have hrows := hinsert [[]] (List.cons_ne_nil _ _) (by simp)
      refine carries_plain (fun h => Nat.not_lt.mpr h.2 hfew) ?_ ?_ ?_
      · exact Contents.not_infix_insert (by decide) hopen (by decide)
      · rw [hbare, List.forall_mem_append] at hwhole
        change ∀ row ∈ rows (a ++ '\n' :: '\n' :: (join ['\n'] [[]] ++ '\n' :: b)), Lint.Whole row
        rw [hrows]
        simp only [List.forall_mem_append, List.forall_mem_singleton]
        exact ⟨⟨⟨hwhole.1, whole_of_head (by decide)⟩, whole_of_head (by decide)⟩, hwhole.2⟩
      · exact headings_insert a b (x := []) (List.forall_mem_nil _)
    · rw [if_neg (by exact_mod_cast hfew)]
      exact carries_table hopen hwhole (Nat.le_of_not_lt hfew)

end DocAtlas.Markdown
