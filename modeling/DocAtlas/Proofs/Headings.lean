import DocAtlas.Markdown.Contents
import DocAtlas.Proofs.LineReading

/-!
The headings that lines show, outside blocks of code.
-/
namespace DocAtlas.Markdown
open Text

/-! ### One heading -/

/-- The parts of a line that is a heading. -/
structure IsHeading (marks blanks title : List Char) : Prop where
  signs : ∀ c ∈ marks, c = '#'
  low : 0 < marks.length
  high : marks.length ≤ 6
  parted : blanks ≠ []
  blank : ∀ c ∈ blanks, isBlank c = true
  starts : trimStart title = title
  titled : title ≠ []

theorem IsHeading.heading?_eq {marks blanks title : List Char} (h : IsHeading marks blanks title) :
    Lint.heading? (marks ++ blanks ++ title) = some (marks, title) := by
  obtain ⟨b, bs, rfl⟩ := List.exists_cons_of_ne_nil h.parted
  have hsigns : ∀ c ∈ marks, (c == '#') = true := fun c hc => beq_iff_eq.mpr (h.signs c hc)
  have hb : (b == '#') = false := by
    rw [beq_eq_false_iff_ne]
    rintro rfl
    exact absurd (h.blank '#' (List.mem_cons_self ..)) (by decide)
  have hrest : (marks ++ (b :: bs ++ title)).dropWhile (· == '#') = b :: bs ++ title := by
    rw [List.dropWhile_append_of_pos hsigns, List.cons_append, List.dropWhile_cons,
      if_neg (by simp [hb])]
  have hmarks : (marks ++ (b :: bs ++ title)).takeWhile (· == '#') = marks := by
    rw [List.takeWhile_append_of_pos hsigns, List.cons_append, List.takeWhile_cons,
      if_neg (by simp [hb]), List.append_nil]
  have htitle : trimStart (b :: bs ++ title) = title := by
    rw [trimStart_append, trimStart_eq_nil.mpr h.blank, h.starts]
    rfl
  have hlow := List.length_pos_iff.mp h.low
  have hlen : title.length ≠ (b :: bs ++ title).length := by simp; omega
  rw [List.append_assoc, Lint.heading?, hmarks, hrest, htitle, if_neg]
  simpa [hlow, h.titled, h.high] using hlen

theorem isHeading_of_heading? {line marks title : List Char}
    (h : Lint.heading? line = some (marks, title)) :
    ∃ blanks, line = marks ++ blanks ++ title ∧ IsHeading marks blanks title := by
  simp only [Lint.heading?, Option.ite_none_left_eq_some, Bool.or_eq_true, not_or,
    Option.some.injEq, Prod.mk.injEq, List.isEmpty_iff, decide_eq_true_eq, beq_iff_eq,
    Nat.not_lt] at h
  obtain ⟨⟨⟨⟨hlow, hhigh⟩, hparted⟩, htitled⟩, rfl, rfl⟩ := h
  have hrest := List.takeWhile_append_dropWhile (p := isBlank) (l := line.dropWhile (· == '#'))
  refine ⟨(line.dropWhile (· == '#')).takeWhile isBlank, ?_, ?_, ?_, hhigh, ?_, ?_, ?_, htitled⟩
  · rw [List.append_assoc, trimStart, hrest, List.takeWhile_append_dropWhile]
  · exact fun c hc => beq_iff_eq.mp (List.mem_takeWhile_imp (p := (· == '#')) hc)
  · exact List.length_pos_iff.mpr hlow
  · intro hnil
    rw [hnil, List.nil_append] at hrest
    exact hparted (congrArg List.length hrest)
  · exact fun c hc => List.mem_takeWhile_imp hc
  · exact List.dropWhile_idempotent (p := isBlank) _

/-- A line as the tidying writes it: one space stands between the signs and the title of a heading.
-/
def normalLine (line : List Char) : List Char :=
  match Lint.heading? line with
  | some (marks, title) => marks ++ ' ' :: title
  | none => line

theorem IsHeading.spaced {marks blanks title : List Char} (h : IsHeading marks blanks title) :
    IsHeading marks [' '] title :=
  ⟨h.signs, h.low, h.high, List.cons_ne_nil _ _, by simp; decide, h.starts, h.titled⟩

theorem heading?_normalLine (line : List Char) :
    Lint.heading? (normalLine line) = Lint.heading? line := by
  cases h : Lint.heading? line with
  | none => rw [normalLine, h, h]
  | some found =>
    obtain ⟨marks, title⟩ := found
    obtain ⟨blanks, -, hp⟩ := isHeading_of_heading? h
    have hspaced := hp.spaced.heading?_eq
    rw [List.append_assoc] at hspaced
    rw [normalLine, h]
    exact hspaced

theorem isFence_of_cons {a : Char} (hb : isBlank a = false) (ha : a ≠ '`') (s : List Char) :
    Lint.isFence (a :: s) = false := by
  have hne : ('`' == a) = false := beq_eq_false_iff_ne.mpr ha.symm
  rw [Lint.isFence, trimStart_of_cons hb, Lint.fence, List.isPrefixOf, hne]
  rfl

theorem IsHeading.not_fence {marks blanks title : List Char} (h : IsHeading marks blanks title) :
    Lint.isFence (marks ++ blanks ++ title) = false := by
  obtain ⟨a, marks, rfl⟩ := List.exists_cons_of_length_pos h.low
  obtain rfl := h.signs a (List.mem_cons_self ..)
  exact isFence_of_cons (by decide) (by decide) _

/-- A heading is no fence as it is written either. -/
theorem IsHeading.not_fence_spaced {marks blanks title : List Char}
    (h : IsHeading marks blanks title) : Lint.isFence (marks ++ ' ' :: title) = false := by
  have hspaced := h.spaced.not_fence
  rwa [List.append_assoc, List.singleton_append] at hspaced

theorem isFence_normalLine (line : List Char) :
    Lint.isFence (normalLine line) = Lint.isFence line := by
  cases h : Lint.heading? line with
  | none => rw [normalLine, h]
  | some found =>
    obtain ⟨marks, title⟩ := found
    obtain ⟨blanks, rfl, hp⟩ := isHeading_of_heading? h
    rw [normalLine, h, hp.not_fence]
    exact hp.not_fence_spaced

/-! ### The headings of many lines -/

/-- Whether lines end inside a block of code. -/
def endsInCode : Bool → List (List Char) → Bool
  | inCode, [] => inCode
  | inCode, line :: rest => endsInCode (if Lint.isFence line then !inCode else inCode) rest

namespace Contents

/-- The headings of one line. -/
def titlesOf (inCode : Bool) (line : List Char) : List (Nat × List Char) :=
  if Lint.isFence line || inCode then [] else (heading? line).toList

theorem titles_cons (inCode : Bool) (line : List Char) (rest : List (List Char)) :
    titles inCode (line :: rest) =
      titlesOf inCode line ++ titles (if Lint.isFence line then !inCode else inCode) rest := by
  rw [titles, titlesOf]
  cases hf : Lint.isFence line with
  | true => simp
  | false =>
    cases inCode with
    | true => simp
    | false => cases hh : heading? line <;> simp

theorem titles_append (inCode : Bool) (as bs : List (List Char)) :
    titles inCode (as ++ bs) = titles inCode as ++ titles (endsInCode inCode as) bs := by
  induction as generalizing inCode with
  | nil => rfl
  | cons line as ih =>
    rw [List.cons_append, titles_cons, titles_cons, ih, List.append_assoc]
    rfl

theorem endsInCode_append (inCode : Bool) (as bs : List (List Char)) :
    endsInCode inCode (as ++ bs) = endsInCode (endsInCode inCode as) bs := by
  induction as generalizing inCode with
  | nil => rfl
  | cons line as ih => exact ih _

theorem titles_visible (inCode : Bool) (ls : List (List Char)) :
    titles inCode (visible ls) = titles inCode (ls.map trim) := by
  induction ls generalizing inCode with
  | nil => rfl
  | cons l ls ih =>
    have hcons : visible (l :: ls) = visible [l] ++ visible ls := visible_append [l] ls
    rw [hcons, List.map_cons]
    cases ht : trim l with
    | nil =>
      have hnone : titlesOf inCode [] = [] := by cases inCode <;> rfl
      have hvisible : visible [l] = [] := by simp [visible, ht]
      rw [hvisible, titles_cons, hnone]
      exact ih inCode
    | cons c t => simp [visible, ht, titles_cons, ← ih]

theorem headings_eq (s : List Char) : headings s = assign [] (titles false (shown s)) := by
  rw [headings, shown, titles_visible]

theorem titles_normal (inCode : Bool) (ls : List (List Char)) :
    titles inCode (ls.map normalLine) = titles inCode ls := by
  induction ls generalizing inCode with
  | nil => rfl
  | cons l ls ih =>
    rw [List.map_cons, titles_cons, titles_cons, ih, titlesOf, titlesOf, isFence_normalLine,
      heading?, heading?, heading?_normalLine]

end Contents

end DocAtlas.Markdown
