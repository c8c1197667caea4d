import DocAtlas.Proofs.Filling

/-!
A table of contents written where its place stands alone on a line: the rest of the text stays, its
headings stay, and written once more it comes out the same.
-/
namespace DocAtlas.Text

/-! ### Places on a line -/

/-- What comes next is the first on its line that is not blank. -/
inductive OpensLine : List Char → Prop
  | first {blanks : List Char} (blank : ∀ c ∈ blanks, isBlank c = true) : OpensLine blanks
  | later (before : List Char) {e : Char} {blanks : List Char} (ends : isLineEnd e = true)
    (blank : ∀ c ∈ blanks, isBlank c = true) : OpensLine (before ++ e :: blanks)

/-- What came before is the last on its line that is not blank. -/
inductive ClosesLine : List Char → Prop
  | last {blanks : List Char} (blank : ∀ c ∈ blanks, isBlank c = true) : ClosesLine blanks
  | earlier {e : Char} {blanks : List Char} (blank : ∀ c ∈ blanks, isBlank c = true)
    (ends : isLineEnd e = true) (after : List Char) : ClosesLine (blanks ++ e :: after)

theorem OpensLine.shown_append {a : List Char} (h : OpensLine a) (t : List Char) :
    shown (a ++ t) = shown a ++ shown t := by
  cases h with
  | first blank =>
    rw [shown_blank_append _ blank, shown_blank blank]
    rfl
  | later before ends blank =>
    rw [List.append_assoc, List.cons_append, Text.shown_append ends, Text.shown_append ends,
      shown_blank blank, List.append_nil, shown_blank_append _ blank]

theorem ClosesLine.shown_append {b : List Char} (h : ClosesLine b) (t : List Char) :
    shown (t ++ b) = shown t ++ shown b := by
  cases h with
  | last blank => rw [shown_append_blank _ blank, shown_blank blank, List.append_nil]
  | earlier blank ends after =>
    rw [← List.append_assoc, Text.shown_append ends, Text.shown_append ends, shown_blank blank,
      List.nil_append, shown_append_blank _ blank]

theorem mem_splitWhere_of_mem_lines {s line : List Char} (h : line ∈ lines s) (hne : line ≠ []) :
    line ∈ splitWhere isLineEnd s := by
  have hpiece : line ∈ splitWhere isLineEnd (dropReturns s) := by
    unfold lines at h
    dsimp only at h
    split at h
    · exact List.mem_of_mem_dropLast h
    · exact h
  have hkept : line ∈ (splitWhere isLineEnd (dropReturns s)).filter (!·.isEmpty) :=
    List.mem_filter.mpr ⟨hpiece, by simpa using hne⟩
  rw [filter_splitWhere_dropReturns rfl rfl] at hkept
  exact (List.mem_filter.mp hkept).1

/-- A line without the blanks around it, and what stands around it. -/
theorem exists_place {s m : List Char} (hne : m ≠ []) (h : m ∈ (lines s).map trim) :
    ∃ before after, s = before ++ m ++ after ∧ OpensLine before ∧ ClosesLine after := by
  obtain ⟨line, hline, rfl⟩ := List.mem_map.mp h
  have hsome : line ≠ [] := by
    rintro rfl
    exact hne rfl
  obtain ⟨front, rest, rfl, hfront, hrest⟩ :=
    exists_around (mem_splitWhere_of_mem_lines hline hsome)
  obtain ⟨x, hx, hstart⟩ := exists_blank_trimStart line
  obtain ⟨y, hy, hend⟩ := exists_blank_trimEnd (trimStart line)
  refine ⟨front ++ x, y ++ rest, ?_, ?_, ?_⟩
  · conv_lhs => rw [hstart, hend]
    simp [trim]
  · rcases hfront with rfl | ⟨before, e, rfl, he⟩
    · exact .first hx
    · simpa using OpensLine.later before he hx
  · rcases hrest with rfl | ⟨e, after, rfl, he⟩
    · simpa using ClosesLine.last hy
    · exact .earlier hy he after

/-- Where a text stands only once in another one, there is one way to part that. -/
theorem eq_of_once {sep s a b u v : List Char}
    (once : s.tails.countP (sep.isPrefixOf ·) = 1) (h : s = a ++ sep ++ b)
    (h' : s = u ++ sep ++ v) : a = u ∧ b = v := by
  rw [List.countP_eq_length_filter, List.length_eq_one_iff] at once
  obtain ⟨tail, honly⟩ := once
  have hmem : ∀ a b, s = a ++ sep ++ b → sep ++ b = tail := by
    intro a b he
    have htail : sep ++ b ∈ s.tails :=
      (List.mem_tails _ _).mpr ⟨a, by rw [he, List.append_assoc]⟩
    have hfound : sep ++ b ∈ s.tails.filter (sep.isPrefixOf ·) :=
      List.mem_filter.mpr ⟨htail, List.isPrefixOf_iff_prefix.mpr (List.prefix_append sep b)⟩
    rw [honly] at hfound
    exact List.mem_singleton.mp hfound
  have hb : b = v := List.append_cancel_left ((hmem a b h).trans (hmem u v h').symm)
  subst hb
  rw [h, List.append_assoc, List.append_assoc] at h'
  exact ⟨List.append_cancel_right h', rfl⟩

theorem not_infix_of_once {sep a b : List Char} (hne : sep ≠ [])
    (once : (a ++ sep ++ b).tails.countP (sep.isPrefixOf ·) = 1) : ¬sep <:+: a ∧ ¬sep <:+: b := by
  have hlong : 0 < sep.length := List.length_pos_of_ne_nil hne
  have hplace : ∀ u v, a ++ sep ++ b = u ++ sep ++ v → a.length = u.length := fun u v h =>
    congrArg List.length (eq_of_once once rfl h).1
  constructor
  · rintro ⟨u, v, rfl⟩
    have hlength := hplace u (v ++ sep ++ b) (by simp)
    simp only [List.length_append] at hlength
    omega
  · rintro ⟨u, v, rfl⟩
    have hlength := hplace (a ++ sep ++ u) v (by simp)
    simp only [List.length_append] at hlength
    omega

end DocAtlas.Text

namespace DocAtlas.Markdown
open Text

/-! ### Marks at the beginning of a line -/

/-- A mark that stands on one line. -/
structure IsLabel (m : List Char) : Prop where
  mark : Lint.IsMark m
  inline : ∀ c ∈ m, isLineEnd c = false

namespace IsLabel
variable {m a : List Char}

theorem mem (hm : IsLabel m) : '<' ∈ m := List.mem_of_mem_head? hm.mark

theorem cut?_blanks (hm : IsLabel m) (h : ∀ c ∈ a, isBlank c = true) (t : List Char) :
    cut? m (a ++ t) = (cut? m t).map fun p => (a ++ p.1, p.2) := by
  refine cut?_append t fun v hne hv hp => ?_
  obtain ⟨c, v, rfl⟩ := List.exists_cons_of_ne_nil hne
  obtain ⟨m, rfl⟩ := List.head?_eq_some_iff.mp hm.mark
  obtain ⟨rfl, -⟩ := List.cons_prefix_cons.mp hp
  exact absurd (h '<' (hv.subset List.mem_cons_self)) (by decide)

theorem cut?_opens (hm : IsLabel m) (h : OpensLine a) (hn : ¬m <:+: a) (t : List Char) :
    cut? m (a ++ t) = (cut? m t).map fun p => (a ++ p.1, p.2) := by
  cases h with
  | first blank => exact hm.cut?_blanks blank t
  | @later before e blanks ends blank =>
    have he : e ∉ m := fun he => by simp [hm.inline e he] at ends
    have hbefore : ¬m <:+: before := fun hi => hn (hi.trans (List.prefix_append _ _).isInfix)
    rw [List.append_assoc, List.cons_append, cut?_append_cons he hbefore, hm.cut?_blanks blank,
      Option.map_map]
    simp [Function.comp_def]

/-- A mark stands on one side of the beginning of a line. -/
theorem infix_of_opens (hm : IsLabel m) (h : OpensLine a) {t : List Char} (hi : m <:+: a ++ t) :
    m <:+: a ∨ m <:+: t := by
  by_cases ha : m <:+: a
  · exact .inl ha
  · rw [← isSome_cut?_iff, hm.cut?_opens h ha, Option.isSome_map, isSome_cut?_iff] at hi
    exact .inr hi

end IsLabel

namespace Contents

theorem placeholder_label : IsLabel placeholder := ⟨rfl, by decide⟩

theorem opening_label : IsLabel opening := ⟨rfl, by decide⟩

theorem closing_label : IsLabel closing := ⟨rfl, by decide⟩

/-! ### The closing mark of a block -/

theorem infix_of_mem_headings {s : List Char} {h : Heading} (hh : h ∈ headings s) :
    h.title <:+: s := by
  obtain ⟨⟨line, hline, he⟩, -⟩ := exists_of_mem_headings hh
  rw [shown_eq, visible] at hline
  obtain ⟨piece, hpiece, rfl⟩ := List.mem_map.mp (List.mem_filter.mp hline).1
  exact (title_suffix he).isInfix.trans ((trim_isInfix piece).trans (infix_of_mem_splitWhere hpiece))

theorem not_closing_entry {s : List Char} (hs : ¬closing <:+: s) {h : Heading}
    (hh : h ∈ headings s) : ¬closing <:+: entry h := by
  have hentry : entry h = (List.replicate (2 * (h.level - 2)) ' ' ++ ['-', ' ']) ++ '[' ::
      (h.title ++ ']' :: ('(' :: '#' :: (h.anchor ++ [')']))) := by
    simp [entry]
  rw [hentry]
  intro hi
  rcases infix_of_append_cons (by decide) hi with hindent | hi
  · have hmem := hindent.subset closing_label.mem
    simp at hmem
  · rcases infix_of_append_cons (by decide) hi with htitle | hanchor
    · exact hs (htitle.trans (infix_of_mem_headings hh))
    · have hmem := hanchor.subset closing_label.mem
      have hanchor : '<' ∉ h.anchor := fun h => by
        simpa [Slug.IsMark, Slug.isPlain] using anchor_marks hh '<' h
      simp [hanchor] at hmem

/-- What stands between the marks of a block. -/
def inner (hs : List Heading) : List Char :=
  join ['\n'] ("**Contents**".toList :: [] :: hs.map entry)

theorem block_marked (hs : List Heading) :
    block hs = opening ++ '\n' :: (inner hs ++ '\n' :: closing) := by
  have hrows : blockRows hs =
      opening :: (("**Contents**".toList :: [] :: hs.map entry) ++ [closing]) := rfl
  rw [block_eq, hrows, join_cons _ _ (by simp), join_append _ (by simp) (by simp), inner]
  simp [join]

theorem not_closing_inner {s : List Char} (hs : ¬closing <:+: s) :
    ¬closing <:+: '\n' :: inner (headings s) := by
  intro hi
  have hjoin : closing <:+: inner (headings s) :=
    Lint.infix_of_cons closing_label.mark (by decide) hi
  obtain ⟨row, hrow, hi⟩ := infix_of_join (by decide) (by decide) hjoin
  simp only [List.mem_cons, List.mem_map] at hrow
  rcases hrow with rfl | rfl | ⟨h, hh, rfl⟩
  · exact absurd hi (by decide +kernel)
  · exact closing_label.mark.not_infix_nil hi
  · exact not_closing_entry hs hh hi

/-! ### Writing in the place -/

/-- What is written in the place of a table of contents: nothing where there are few headings. -/
def table (minimum : Int) (hs : List Heading) : List Char :=
  if (hs.length : Int) < minimum then [] else block hs

theorem table_asides (minimum : Int) (s : List Char) :
    ∀ line ∈ shown (table minimum (headings s)), IsAside line := by
  unfold table
  split
  · exact List.forall_mem_nil _
  · exact block_aside (headings_inline s)

variable {before after : List Char}

theorem headings_between (hb : OpensLine before) (ha : ClosesLine after) {x : List Char}
    (hx : ∀ line ∈ shown x, IsAside line) :
    headings (before ++ x ++ after) = headings (before ++ after) := by
  refine headings_asides (shown before) (shown after) hx ?_ (hb.shown_append after)
  rw [List.append_assoc, hb.shown_append, ha.shown_append]

theorem build_placeholder (minimum : Int) (hb : OpensLine before)
    (hopen : ¬opening <:+: before ++ placeholder ++ after) (hfirst : ¬placeholder <:+: before) :
    build minimum (before ++ placeholder ++ after) =
      .ok (before ++ table minimum (headings (before ++ placeholder ++ after)) ++ after) := by
  have hreplace : ∀ new, replaceFirst placeholder new (before ++ placeholder ++ after) =
      before ++ new ++ after := by
    intro new
    rw [replaceFirst, List.append_assoc, placeholder_label.cut?_opens hb hfirst, cut?_self]
    simp
  unfold build table
  dsimp only
  rw [cut?_eq_none_iff.mpr hopen, hreplace, hreplace]
  split
  · rfl
  · rfl

/-- A block that stands at the beginning of a line is written again as it is. -/
theorem build_block {minimum : Int} {s : List Char} (hb : OpensLine before)
    (hopen : ¬opening <:+: before) (hclose : ¬closing <:+: s)
    (hsame : headings (before ++ block (headings s) ++ after) = headings s)
    (henough : ¬((headings s).length : Int) < minimum) :
    build minimum (before ++ block (headings s) ++ after) =
      .ok (before ++ block (headings s) ++ after) := by
  have hfirst : cut? opening (before ++ block (headings s) ++ after) =
      some (before, '\n' :: (inner (headings s)) ++ '\n' :: (closing ++ after)) := by
    rw [List.append_assoc, opening_label.cut?_opens hb hopen, block_marked, List.append_assoc,
      cut?_self]
    simp
  have hlast : cut? closing ('\n' :: (inner (headings s)) ++ '\n' :: (closing ++ after)) =
      some ('\n' :: inner (headings s) ++ ['\n'], after) := by
    rw [cut?_append_cons (by decide) (not_closing_inner hclose), cut?_self]
    simp
  have hclosed : closing <:+: before ++ block (headings s) ++ after := by
    rw [block_marked]
    exact ⟨before ++ opening ++ '\n' :: (inner (headings s) ++ ['\n']), after, by simp⟩
  obtain ⟨front, rest, hcut⟩ := exists_cut? hclosed
  unfold build
  dsimp only
  rw [hsame, if_neg henough, hfirst, hcut]
  dsimp only
  rw [hlast]

theorem build_absent {minimum : Int} {s : List Char} (hplace : ¬placeholder <:+: s)
    (hfew : ((headings s).length : Int) < minimum) : build minimum s = .ok s := by
  unfold build
  dsimp only
  rw [if_pos hfew, replaceFirst_of_absent hplace]

/-! ### Once more -/

/-- The place of a table of contents stands in the text once, alone on its line but for blanks, and
no marks of an earlier table do. -/
structure Placed (s : List Char) : Prop where
  once : s.tails.countP (placeholder.isPrefixOf ·) = 1
  alone : placeholder ∈ (lines s).map trim
  unopened : ¬opening <:+: s
  unclosed : ¬closing <:+: s

theorem Placed.exists_around {s : List Char} (h : Placed s) :
    ∃ before after, s = before ++ placeholder ++ after ∧ OpensLine before ∧ ClosesLine after ∧
      ¬placeholder <:+: before ∧ ¬placeholder <:+: after := by
  obtain ⟨before, after, rfl, hb, ha⟩ := exists_place (by decide) h.alone
  obtain ⟨hbefore, hafter⟩ := not_infix_of_once (by decide) h.once
  exact ⟨before, after, rfl, hb, ha, hbefore, hafter⟩

/-- Where its place stands alone on a line, a table of contents is written there, or nothing where
there are few headings, and no more of the text is changed. The text then has the headings that it
had, and comes out as it is when the table is written again. -/
theorem build_build (minimum : Int) {s : List Char} (h : Placed s) :
    ∃ before after built, s = before ++ placeholder ++ after ∧
      built = before ++ table minimum (headings s) ++ after ∧ build minimum s = .ok built ∧
      headings built = headings s ∧ build minimum built = .ok built := by
  obtain ⟨before, after, rfl, hb, ha, hfirst, hlast⟩ := h.exists_around
  have hbare := headings_between hb ha placeholder_aside
  have hsame : headings (before ++ table minimum (headings (before ++ placeholder ++ after)) ++
      after) = headings (before ++ placeholder ++ after) := by
    rw [headings_between hb ha (table_asides minimum _), hbare]
  refine ⟨before, after, _, rfl, rfl, build_placeholder minimum hb h.unopened hfirst, hsame, ?_⟩
  by_cases hfew : ((headings (before ++ placeholder ++ after)).length : Int) < minimum
  · have hnone : ¬placeholder <:+: before ++ after := fun hi =>
      (placeholder_label.infix_of_opens hb hi).elim hfirst hlast
    rw [table, if_pos hfew, List.append_nil]
    exact build_absent hnone (hbare ▸ hfew)
  · have hopen : ¬opening <:+: before := fun hi =>
      h.unopened (hi.trans ⟨[], placeholder ++ after, by simp⟩)
    rw [table, if_neg hfew] at hsame ⊢
    exact build_block hb hopen h.unclosed hsame hfew

/-- A page with two headings of one title, a block of code, and blanks around the place. -/
def cartPage : List Char :=
  "# Shop\r\n  <!-- repodoc:toc -->\t\n## Cart\n```\n## Code\n```\n## Cart".toList

theorem build_build_cart :
    Placed cartPage ∧ headings cartPage =
        [⟨2, "Cart".toList, "cart".toList⟩, ⟨2, "Cart".toList, "cart-1".toList⟩] ∧
      ∃ before after built, cartPage = before ++ placeholder ++ after ∧
        built = before ++ table 2 (headings cartPage) ++ after ∧ build 2 cartPage = .ok built ∧
        headings built = headings cartPage ∧ build 2 built = .ok built := by
  have hplaced : Placed cartPage :=
    ⟨by decide +kernel, by decide +kernel, by decide +kernel, by decide +kernel⟩
  exact ⟨hplaced, by decide +kernel, build_build 2 hplaced⟩

end Contents

end DocAtlas.Markdown
