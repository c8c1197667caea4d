import DocAtlas.Naming
import DocAtlas.Proofs.Splitting
import DocAtlas.Proofs.Trimming
import Mathlib.Data.List.Chain

/-!
Words on one line with single spaces between them, and the short descriptions that are cut from
them.
-/
namespace DocAtlas.Text

/-- Some characters, none of which is a blank. -/
def IsWord (w : List Char) : Prop := w ≠ [] ∧ ∀ c ∈ w, isBlank c = false

/-- The only blanks are spaces, each of which stands alone between two words. -/
structure Spaced (s : List Char) : Prop where
  spaces : ∀ c ∈ s, isBlank c = true → c = ' '
  alone : s.IsChain fun a b => isBlank a = true → isBlank b = false
  starts : ∀ c ∈ s.head?, isBlank c = false
  ends : ∀ c ∈ s.getLast?, isBlank c = false

/-- The longest beginning of `s` of at most `n` characters that does not end with a blank. -/
structure IsCut (n : Int) (s kept : List Char) : Prop where
  begins : kept <+: s
  fits : (kept.length : Int) ≤ n
  ends : ∀ c ∈ kept.getLast?, isBlank c = false
  longest : ∀ p, p <+: s → (p.length : Int) ≤ n → (∀ c ∈ p.getLast?, isBlank c = false) →
    p <+: kept

variable {s t w : List Char} {ws : List (List Char)}

/-! ### Words -/

/-- A blank ends one word and begins another, whatever stands on both sides. -/
theorem words_append {c : Char} (hc : isBlank c = true) (a b : List Char) :
    words (a ++ c :: b) = words a ++ words b := by
  rw [words, splitWhere_append hc, List.filter_append]
  rfl

theorem IsWord.words_eq (h : IsWord w) : words w = [w] := by
  rw [words, splitWhere_of_none h.2]
  simp [h.1]

theorem isWord_of_mem_words (h : w ∈ words s) : IsWord w := by
  obtain ⟨hw, hne⟩ := List.mem_filter.mp h
  exact ⟨by simpa using hne, not_of_mem_splitWhere hw⟩

theorem words_join (h : ∀ w ∈ ws, IsWord w) : words (join [' '] ws) = ws := by
  induction ws with
  | nil => rfl
  | cons w ws ih =>
    rw [List.forall_mem_cons] at h
    cases ws with
    | nil => simpa [join] using h.1.words_eq
    | cons v ws =>
      rw [join_cons_cons, List.append_assoc, List.singleton_append, words_append rfl,
        h.1.words_eq, ih h.2]
      rfl

theorem words_collapse (s : List Char) : words (collapse s) = words s :=
  words_join fun _ => isWord_of_mem_words

/-! ### Single spaces -/

theorem Spaced.nil : Spaced [] :=
  ⟨by simp, List.isChain_nil, by simp, by simp⟩

theorem IsWord.spaced (h : IsWord w) : Spaced w where
  spaces c hc hblank := by simp [h.2 c hc] at hblank
  alone := by
    have hpairs : w.Pairwise fun a b => isBlank a = true → isBlank b = false :=
      List.pairwise_of_forall_mem_list fun _ _ b hb _ => h.2 b hb
    exact hpairs.isChain
  starts c hc := h.2 c (List.mem_of_mem_head? hc)
  ends c hc := h.2 c (List.mem_of_mem_getLast? hc)

/-- A word may follow at once. -/
theorem Spaced.append_word (h : Spaced s) (hw : IsWord w) : Spaced (s ++ w) where
  spaces c hc := by
    rcases List.mem_append.mp hc with hc | hc
    · exact h.spaces c hc
    · exact hw.spaced.spaces c hc
  alone := h.alone.append hw.spaced.alone fun _ _ b hb _ => hw.spaced.starts b hb
  starts := by
    cases s with
    | nil => exact hw.spaced.starts
    | cons a s => exact h.starts
  ends := by
    rw [List.getLast?_append_of_ne_nil _ hw.1]
    exact hw.spaced.ends

/-- A word may come before, with a space in between. -/
theorem Spaced.cons_word (h : Spaced s) (hne : s ≠ []) (hw : IsWord w) :
    Spaced (w ++ ' ' :: s) where
  spaces c hc := by
    rcases List.mem_append.mp hc with hc | hc
    · exact hw.spaced.spaces c hc
    · rcases List.mem_cons.mp hc with rfl | hc
      · exact fun _ => rfl
      · exact h.spaces c hc
  alone := by
    have hspace : (' ' :: s).IsChain fun a b => isBlank a = true → isBlank b = false :=
      List.isChain_cons.mpr ⟨fun b hb _ => h.starts b hb, h.alone⟩
    refine hw.spaced.alone.append hspace fun a ha b _ hblank => ?_
    simp [hw.spaced.ends a ha] at hblank
  starts := by
    rw [List.head?_append_of_ne_nil _ hw.1]
    exact hw.spaced.starts
  ends := by
    rw [List.getLast?_append_of_ne_nil _ (List.cons_ne_nil _ _), List.getLast?_cons_of_ne_nil hne]
    exact h.ends

theorem spaced_join (h : ∀ w ∈ ws, IsWord w) : Spaced (join [' '] ws) := by
  induction ws with
  | nil => exact Spaced.nil
  | cons w ws ih =>
    rw [List.forall_mem_cons] at h
    cases ws with
    | nil => simpa [join] using h.1.spaced
    | cons v ws =>
      have hne : join [' '] (v :: ws) ≠ [] := by
        intro hnil
        have hwords := words_join h.2
        rw [hnil] at hwords
        cases hwords
      rw [join_cons_cons, List.append_assoc, List.singleton_append]
      exact (ih h.2).cons_word hne h.1

theorem spaced_collapse (s : List Char) : Spaced (collapse s) :=
  spaced_join fun _ => isWord_of_mem_words

/-- A text with single spaces is one word, or its first word, a space and the others. -/
theorem Spaced.cases (h : Spaced s) (hne : s ≠ []) :
    IsWord s ∨ ∃ w t, s = w ++ ' ' :: t ∧ IsWord w ∧ t ≠ [] ∧ Spaced t := by
  by_cases hmem : ' ' ∈ s
  · right
    obtain ⟨w, t, rfl, hw⟩ := List.eq_append_cons_of_mem hmem
    have hword : w ≠ [] := by
      rintro rfl
      cases h.starts ' ' rfl
    have ht : t ≠ [] := by
      rintro rfl
      have hlast := h.ends ' ' (by simp)
      cases hlast
    obtain ⟨hstarts, halone⟩ := List.isChain_cons.mp h.alone.right_of_append
    refine ⟨w, t, rfl, ⟨hword, fun c hc => ?_⟩, ht, ?_, halone, fun b hb => hstarts b hb rfl, ?_⟩
    · by_contra hblank
      have hspace := h.spaces c (by simp [hc]) (by simpa using hblank)
      exact hw (hspace ▸ hc)
    · exact fun c hc => h.spaces c (by simp [hc])
    · have hends := h.ends
      rwa [List.getLast?_append_of_ne_nil _ (List.cons_ne_nil _ _),
        List.getLast?_cons_of_ne_nil ht] at hends
  · left
    refine ⟨hne, fun c hc => ?_⟩
    by_contra hblank
    have hspace := h.spaces c hc (by simpa using hblank)
    exact hmem (hspace ▸ hc)

theorem Spaced.collapse_eq (h : Spaced s) : collapse s = s := by
  -- On the length: what stands behind the first word is shorter by more than one character.
  induction hn : s.length using Nat.strong_induction_on generalizing s with
  | _ n ih =>
    subst hn
    by_cases hne : s = []
    · rw [hne]
      rfl
    rcases h.cases hne with hw | ⟨w, t, rfl, hw, ht, hspaced⟩
    · rw [collapse, hw.words_eq]
      simp [join]
    · have hrest : join [' '] (words t) = t := ih t.length (by simp; omega) hspaced rfl
      have hwords : words t ≠ [] := by
        intro hnil
        rw [hnil] at hrest
        exact ht hrest.symm
      rw [collapse, words_append rfl, hw.words_eq, List.singleton_append, join_cons _ _ hwords,
        hrest, List.append_assoc, List.singleton_append]

/-- The words of a text on one line are the only text with these words and single spaces. -/
theorem collapse_eq_iff : collapse s = t ↔ Spaced t ∧ words t = words s := by
  constructor
  · rintro rfl
    exact ⟨spaced_collapse s, words_collapse s⟩
  · rintro ⟨h, hwords⟩
    rw [← h.collapse_eq, collapse, collapse, hwords]

/-! ### Cutting -/

/-- What begins a text with single spaces has single spaces too, unless it ends with one. -/
theorem Spaced.of_begins (h : Spaced s) (hp : t <+: s)
    (hends : ∀ c ∈ t.getLast?, isBlank c = false) : Spaced t := by
  obtain ⟨rest, rfl⟩ := hp
  refine ⟨fun c hc => h.spaces c (List.mem_append_left rest hc), h.alone.left_of_append, ?_, hends⟩
  cases t with
  | nil => simp
  | cons a t => exact h.starts

theorem isCut_trimEnd {n : Int} (hn : 0 ≤ n) (s : List Char) :
    IsCut n s (trimEnd (takeSigned n s)) := by
  have htake : takeSigned n s = s.take n.toNat := if_pos hn
  rw [htake]
  refine ⟨(prefix_trimEnd _).trans (List.take_prefix _ s), ?_,
    trimEnd_eq_self_iff.mp (trimEnd_trimEnd _), ?_⟩
  · have hshort := (prefix_trimEnd (s.take n.toNat)).length_le
    rw [List.length_take] at hshort
    omega
  · intro p hp hlen hends
    rw [prefix_trimEnd_iff (trimEnd_eq_self_iff.mpr hends), List.prefix_take_iff]
    exact ⟨hp, by omega⟩

end DocAtlas.Text

namespace DocAtlas
open Text

/-! ### Short descriptions -/

/-- The ellipsis behind a description that has been cut. -/
theorem isWord_ellipsis : IsWord ['.', '.', '.'] :=
  ⟨List.cons_ne_nil _ _, by simp [isBlank]⟩

theorem boundWords_of_fits {limit : Int} {s : List Char}
    (h : ((collapse s).length : Int) ≤ limit) : boundWords limit s = collapse s := if_pos h

theorem exists_boundWords {limit : Int} (hl : 3 ≤ limit) {s : List Char}
    (h : limit < (collapse s).length) :
    ∃ kept, IsCut (limit - 3) (collapse s) kept ∧ boundWords limit s = kept ++ ['.', '.', '.'] :=
  ⟨_, isCut_trimEnd (by omega) _, if_neg (by omega)⟩

/-- Whether the words fit or are cut, what is left is short enough and has single spaces. -/
theorem boundWords_short_spaced {limit : Int} (hl : 3 ≤ limit) (s : List Char) :
    ((boundWords limit s).length : Int) ≤ limit ∧ Spaced (boundWords limit s) := by
  by_cases h : ((collapse s).length : Int) ≤ limit
  · rw [boundWords_of_fits h]
    exact ⟨h, spaced_collapse s⟩
  · obtain ⟨kept, hcut, he⟩ := exists_boundWords hl (Int.not_le.mp h)
    rw [he]
    refine ⟨?_, ((spaced_collapse s).of_begins hcut.begins hcut.ends).append_word isWord_ellipsis⟩
    have hlength : (kept ++ ['.', '.', '.']).length = kept.length + 3 := List.length_append
    have hfits := hcut.fits
    omega

/-- A description made from a text has at most `limit` characters, and its only blanks are single
spaces between words. It is the words of the text on one line if they fit, and else as much of that
line as leaves room for an ellipsis and does not end with a space. A description made from such a
description is the same one. -/
theorem boundWords_abridges {limit : Int} (hl : 3 ≤ limit) (s : List Char) :
    ((boundWords limit s).length : Int) ≤ limit ∧ Spaced (boundWords limit s) ∧
      (Spaced (collapse s) ∧ words (collapse s) = words s) ∧
      (((collapse s).length : Int) ≤ limit → boundWords limit s = collapse s) ∧
      (limit < (collapse s).length → ∃ kept, IsCut (limit - 3) (collapse s) kept ∧
        boundWords limit s = kept ++ ['.', '.', '.']) ∧
      boundWords limit (boundWords limit s) = boundWords limit s := by
  obtain ⟨hshort, hspaced⟩ := boundWords_short_spaced hl s
  refine ⟨hshort, hspaced, collapse_eq_iff.mp rfl, boundWords_of_fits, exists_boundWords hl, ?_⟩
  have hline : collapse (boundWords limit s) = boundWords limit s := hspaced.collapse_eq
  rw [boundWords_of_fits (by rwa [hline]), hline]

/-- The room ends behind a space here, so the space goes as well. -/
theorem boundWords_abridges_places :
    3 ≤ (14 : Int) ∧
      boundWords 14 "  Places\tthe\n\n order ".toList = "Places the...".toList ∧
      ("Places the...".toList.length : Int) ≤ 14 ∧ Spaced "Places the...".toList ∧
      (∃ kept, IsCut 11 "Places the order".toList kept ∧
        "Places the...".toList = kept ++ ['.', '.', '.']) ∧
      boundWords 14 "Places the...".toList = "Places the...".toList := by
  have hl : 3 ≤ (14 : Int) := by decide
  have hline : collapse "  Places\tthe\n\n order ".toList = "Places the order".toList := by decide
  have hcut : boundWords 14 "  Places\tthe\n\n order ".toList = "Places the...".toList := by decide
  obtain ⟨hshort, hspaced, -, -, hkept, hagain⟩ :=
    boundWords_abridges hl "  Places\tthe\n\n order ".toList
  rw [hline] at hkept
  rw [hcut] at hshort hspaced hkept hagain
  exact ⟨hl, hcut, hshort, hspaced, hkept (by decide), hagain⟩

/-- Below three the ellipsis alone is longer than the limit. -/
example : boundWords 2 "cart".toList = "car...".toList := by decide

end DocAtlas
