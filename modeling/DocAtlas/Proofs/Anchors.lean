import DocAtlas.Proofs.Headings
import DocAtlas.Proofs.Slugs
import Mathlib.Data.List.Nodup

/-!
The anchors of headings: small letters, digits and hyphens of the title, and a number where the same
ones came up before. Two headings get one anchor exactly where a numbered anchor is what another
title gives by itself.
-/
namespace DocAtlas.Markdown.Contents
open Text

/-! ### The headings found -/

theorem mem_titles {inCode : Bool} {ls : List (List Char)} {found : Nat × List Char}
    (h : found ∈ titles inCode ls) : ∃ line ∈ ls, heading? line = some found := by
  induction ls generalizing inCode with
  | nil => cases h
  | cons line ls ih =>
    rw [titles_cons] at h
    rcases List.mem_append.mp h with hl | hls
    · refine ⟨line, List.mem_cons_self, ?_⟩
      rw [titlesOf] at hl
      split at hl
      · cases hl
      · exact Option.mem_toList.mp hl
    · obtain ⟨other, ho, he⟩ := ih hls
      exact ⟨other, List.mem_cons_of_mem _ ho, he⟩

theorem title_suffix {line : List Char} {found : Nat × List Char}
    (h : heading? line = some found) : found.2 <:+ line := by
  rw [heading?] at h
  split at h
  · rename_i marks title hl
    split at h
    · cases h
      obtain ⟨blanks, rfl, -⟩ := isHeading_of_heading? hl
      exact List.suffix_append _ _
    · cases h
  · cases h

theorem exists_of_mem_assign {seen : List (List Char)} {found : List (Nat × List Char)}
    {h : Heading} (hh : h ∈ assign seen found) :
    (h.level, h.title) ∈ found ∧ ∃ count, h.anchor = numbered (anchorOf h.title) count := by
  induction found generalizing seen with
  | nil => cases hh
  | cons f found ih =>
    obtain ⟨level, title⟩ := f
    rcases List.mem_cons.mp hh with rfl | hh
    · exact ⟨List.mem_cons_self, _, rfl⟩
    · obtain ⟨hmem, hanchor⟩ := ih hh
      exact ⟨List.mem_cons_of_mem _ hmem, hanchor⟩

/-- A heading is a line that the text shows, and its anchor is made of its title. -/
theorem exists_of_mem_headings {s : List Char} {h : Heading} (hh : h ∈ headings s) :
    (∃ line ∈ shown s, heading? line = some (h.level, h.title)) ∧
      ∃ count, h.anchor = numbered (anchorOf h.title) count := by
  rw [headings_eq] at hh
  obtain ⟨hmem, hanchor⟩ := exists_of_mem_assign hh
  exact ⟨mem_titles hmem, hanchor⟩

/-! ### The characters of an anchor -/

theorem mem_of_mem_trimHyphens {s : List Char} {c : Char} (h : c ∈ trimHyphens s) : c ∈ s := by
  have hfront := (List.dropWhile_suffix (· == '-')).subset (List.mem_reverse.mp h)
  exact (List.dropWhile_suffix (· == '-')).subset (List.mem_reverse.mp hfront)

theorem anchorOf_marks (title : List Char) : ∀ c ∈ anchorOf title, Slug.IsMark c := by
  intro c hc
  obtain ⟨d, hd, rfl⟩ := List.mem_map.mp (mem_of_mem_trimHyphens hc)
  have hanchor : isAnchorChar d = true := (List.mem_filter.mp hd).2
  split
  · exact .inr rfl
  · rename_i hblank
    simpa [Slug.IsMark, Slug.isPlain, isAnchorChar, hblank] using hanchor

theorem numbered_marks {anchor : List Char} (h : ∀ c ∈ anchor, Slug.IsMark c) (count : Nat) :
    ∀ c ∈ numbered anchor count, Slug.IsMark c := by
  unfold numbered
  split
  · exact h
  · rw [List.forall_mem_append, List.forall_mem_cons]
    exact ⟨h, .inr rfl, fun c hc => .inl (plain_number count c hc)⟩

theorem anchor_marks {s : List Char} {h : Heading} (hh : h ∈ headings s) :
    ∀ c ∈ h.anchor, Slug.IsMark c := by
  obtain ⟨-, count, he⟩ := exists_of_mem_headings hh
  rw [he]
  exact numbered_marks (anchorOf_marks h.title) count

/-! ### Numbered anchors -/

theorem no_hyphen_number (n : Nat) : '-' ∉ (toString n).toList := fun h =>
  absurd (plain_number n '-' h) (by decide)

/-- Two anchors with numbers are one only if they have one number. -/
theorem numbered_inj {a b : List Char} {i j : Nat} (hi : i ≠ 0) (hj : j ≠ 0)
    (h : numbered a i = numbered b j) : a = b ∧ i = j := by
  rw [numbered, if_neg hi, numbered, if_neg hj] at h
  have hdigits : (toString i).toList = (toString j).toList := by
    rw [← afterLast_append a (no_hyphen_number i), h, afterLast_append b (no_hyphen_number j)]
  constructor
  · rw [hdigits] at h
    exact List.append_cancel_right h
  · exact number_injective (String.toList_inj.mp hdigits)

/-- Anchors that are one for two titles have one base and number, or one of them has no number and
is what the other title gets with its number. -/
theorem numbered_cases {a b : List Char} {i j : Nat} (h : numbered a i = numbered b j) :
    (a = b ∧ i = j) ∨ (0 < j ∧ a = numbered b j) ∨ (0 < i ∧ b = numbered a i) := by
  rcases Nat.eq_zero_or_pos i with rfl | hi
  · rcases Nat.eq_zero_or_pos j with rfl | hj
    · exact .inl ⟨h, rfl⟩
    · exact .inr (.inl ⟨hj, h⟩)
  · rcases Nat.eq_zero_or_pos j with rfl | hj
    · exact .inr (.inr ⟨hi, h.symm⟩)
    · exact .inl (numbered_inj hi.ne' hj.ne' h)

/-- Each item with the number of times it came up before; `seen` holds those that came first. -/
def ranked : List (List Char) → List (List Char) → List (List Char × Nat)
  | _, [] => []
  | seen, a :: rest => (a, seen.count a) :: ranked (a :: seen) rest

theorem mem_ranked {seen items : List (List Char)} {a : List Char} {k : Nat} :
    (a, k) ∈ ranked seen items ↔ seen.count a ≤ k ∧ k < seen.count a + items.count a := by
  induction items generalizing seen with
  | nil => simp [ranked]
  | cons b rest ih =>
    rw [ranked, List.mem_cons, ih, Prod.mk.injEq]
    by_cases hb : b = a
    · subst hb
      simp only [List.count_cons_self, true_and]
      omega
    · simp only [List.count_cons_of_ne hb, Ne.symm hb, false_and, false_or]

theorem mem_ranked_nil {items : List (List Char)} {a : List Char} {k : Nat} :
    (a, k) ∈ ranked [] items ↔ k < items.count a := by
  rw [mem_ranked, List.count_nil]
  omega

theorem ranked_nodup (seen items : List (List Char)) : (ranked seen items).Nodup := by
  induction items generalizing seen with
  | nil => exact List.nodup_nil
  | cons a rest ih =>
    refine List.nodup_cons.mpr ⟨fun h => ?_, ih (a :: seen)⟩
    have hlater := (mem_ranked.mp h).1
    rw [List.count_cons_self] at hlater
    omega

/-! ### Anchors that two headings share -/

/-- The anchors that titles give by themselves, without a number. -/
def plainAnchors (hs : List Heading) : List (List Char) := hs.map fun h => anchorOf h.title

theorem anchors_assign (seen : List (List Char)) (found : List (Nat × List Char)) :
    (assign seen found).map (·.anchor) =
      (ranked seen (plainAnchors (assign seen found))).map fun p => numbered p.1 p.2 := by
  induction found generalizing seen with
  | nil => rfl
  | cons f found ih => exact congrArg (List.cons _) (ih _)

/-- The headings of a text have different anchors if and only if no title gives by itself an anchor
that another one gets with a number. An anchor gets the numbers below the count of titles that give
it. -/
theorem anchors_nodup_iff (s : List Char) :
    ((headings s).map (·.anchor)).Nodup ↔
      ∀ anchor count, 0 < count → count < (plainAnchors (headings s)).count anchor →
        numbered anchor count ∉ plainAnchors (headings s) := by
  rw [headings, anchors_assign, ← headings, List.nodup_map_iff_inj_on (ranked_nodup _ _)]
  constructor
  · intro hinj anchor count hpos hcount hmem
    have hfirst : (numbered anchor count, 0) ∈ ranked [] (plainAnchors (headings s)) :=
      mem_ranked_nil.mpr (List.count_pos_iff.mpr hmem)
    have hsame := hinj _ hfirst (anchor, count) (mem_ranked_nil.mpr hcount) rfl
    have hzero : 0 = count := congrArg Prod.snd hsame
    omega
  · intro hfree p hp q hq he
    obtain ⟨a, i⟩ := p
    obtain ⟨b, j⟩ := q
    rw [mem_ranked_nil] at hp hq
    rcases numbered_cases he with ⟨rfl, rfl⟩ | ⟨hj, rfl⟩ | ⟨hi, rfl⟩
    · rfl
    · exact absurd (List.count_pos_iff.mp (Nat.zero_lt_of_lt hp)) (hfree b j hj hq)
    · exact absurd (List.count_pos_iff.mp (Nat.zero_lt_of_lt hq)) (hfree a i hi hp)

/-- The second of two equal titles gets the anchor of a third one. -/
theorem numbered_anchor_is_taken :
    ¬((headings "## Foo\n## Foo\n## Foo 1".toList).map (·.anchor)).Nodup := by
  decide +kernel

end DocAtlas.Markdown.Contents
