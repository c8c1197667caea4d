import DocAtlas.Proofs.Splitting
import DocAtlas.Proofs.Trimming
import DocAtlas.Text.Lines

/-!
What a text shows when it is read line by line and blanks do not count.
-/
namespace DocAtlas.Text

/-! ### Lines and their ends -/

/-- Decided on the characters of the text, not on all that there are. -/
instance (s : List Char) : Decidable (∀ c ∈ s, isLineEnd c = false) := List.decidableBAll _ _

theorem isBlank_of_isLineEnd {c : Char} (h : isLineEnd c = true) : isBlank c = true := by
  simp only [isLineEnd, isBlank, Bool.or_eq_true, Bool.and_eq_true, decide_eq_true_eq,
    beq_iff_eq] at h ⊢
  omega

theorem dropReturns_cons (c : Char) (s : List Char) :
    dropReturns (c :: s) =
      if c == '\r' && s.head? == some '\n' then dropReturns s else c :: dropReturns s := by
  have hhead : ∀ s : List Char, (s.foldr (fun c found =>
      (some c, if c == '\r' && found.1 == some '\n' then found.2 else c :: found.2))
      ((none : Option Char), [])).1 = s.head? := by
    intro s
    cases s <;> rfl
  rw [← hhead s]
  rfl

theorem splitWhere_eq_cons (p : Char → Bool) (s : List Char) :
    ∃ rest, splitWhere p s = s.takeWhile (!p ·) :: rest := by
  induction s with
  | nil => exact ⟨[], rfl⟩
  | cons c s ih =>
    obtain ⟨rest, he⟩ := ih
    rw [splitWhere_cons, he]
    cases hc : p c with
    | true => exact ⟨s.takeWhile (!p ·) :: rest, by simp [hc]⟩
    | false => exact ⟨rest, by simp [hc]⟩

/-- Where both characters of a line end separate, only empty pieces are lost with the first. -/
theorem splitWhere_dropReturns {p : Char → Bool} (hr : p '\r' = true) (hn : p '\n' = true)
    (s : List Char) :
    ∃ first rest others, splitWhere p s = first :: rest ∧
      splitWhere p (dropReturns s) = first :: others ∧
      others.filter (!·.isEmpty) = rest.filter (!·.isEmpty) := by
  induction s with
  | nil => exact ⟨[], [], [], rfl, rfl, rfl⟩
  | cons c s ih =>
    obtain ⟨first, rest, others, hs, hd, hf⟩ := ih
    rw [dropReturns_cons, splitWhere_cons]
    by_cases hc : (c == '\r' && s.head? == some '\n') = true
    · simp only [Bool.and_eq_true, beq_iff_eq] at hc
      obtain ⟨rfl, hhead⟩ := hc
      obtain ⟨s', rfl⟩ : ∃ s', s = '\n' :: s' := List.head?_eq_some_iff.mp hhead
      rw [splitWhere_cons, if_pos hn] at hs
      obtain ⟨rfl, rfl⟩ := List.cons.inj hs
      refine ⟨[], [] :: splitWhere p s', others, ?_, ?_, ?_⟩
      · rw [if_pos hr, splitWhere_cons, if_pos hn]
      · exact hd
      · simpa using hf
    · rw [if_neg hc, splitWhere_cons, hs, hd]
      cases p c with
      | true =>
        refine ⟨[], first :: rest, first :: others, rfl, rfl, ?_⟩
        rw [List.filter_cons, List.filter_cons, hf]
      | false => exact ⟨c :: first, rest, others, rfl, rfl, hf⟩

theorem filter_splitWhere_dropReturns {p : Char → Bool} (hr : p '\r' = true) (hn : p '\n' = true)
    (s : List Char) :
    (splitWhere p (dropReturns s)).filter (!·.isEmpty) =
      (splitWhere p s).filter (!·.isEmpty) := by
  obtain ⟨first, rest, others, hs, hd, hf⟩ := splitWhere_dropReturns hr hn s
  rw [hs, hd, List.filter_cons, List.filter_cons, hf]

/-! ### What is shown -/

/-- The pieces of a text that are not blank, without the blanks around them. -/
def visible (pieces : List (List Char)) : List (List Char) :=
  (pieces.map trim).filter (!·.isEmpty)

/-- The lines of a text that are not blank, without the blanks around them. -/
def shown (s : List Char) : List (List Char) := visible (lines s)

theorem visible_append (as bs : List (List Char)) :
    visible (as ++ bs) = visible as ++ visible bs := by
  simp [visible]

theorem visible_filter (pieces : List (List Char)) :
    visible (pieces.filter (!·.isEmpty)) = visible pieces := by
  induction pieces with
  | nil => rfl
  | cons l ls ih =>
    cases l with
    | nil => simpa [visible, trim, trimStart, trimEnd] using ih
    | cons c l =>
      have hcons (ls : List (List Char)) :
          visible ((c :: l) :: ls) = visible [c :: l] ++ visible ls := visible_append [c :: l] ls
      rw [List.filter_cons_of_pos rfl, hcons (ls.filter _), ih, ← hcons]

theorem shown_eq (s : List Char) : shown s = visible (splitWhere isLineEnd s) := by
  have hlines : visible (lines s) = visible (splitWhere isLineEnd (dropReturns s)) := by
    unfold lines
    dsimp only
    split
    · next hl =>
      obtain ⟨pieces, hp⟩ := List.getLast?_eq_some_iff.mp (beq_iff_eq.mp hl)
      rw [hp, List.dropLast_concat, visible_append]
      exact (List.append_nil _).symm
    · rfl
  rw [shown, hlines, ← visible_filter, filter_splitWhere_dropReturns rfl rfl, visible_filter]

/-- A line end parts what is shown. -/
theorem shown_append {c : Char} (hc : isLineEnd c = true) (a b : List Char) :
    shown (a ++ c :: b) = shown a ++ shown b := by
  rw [shown_eq, shown_eq, shown_eq, splitWhere_append hc, visible_append]

theorem shown_of_line {s : List Char} (h : ∀ c ∈ s, isLineEnd c = false) :
    shown s = if (trim s).isEmpty then [] else [trim s] := by
  rw [shown_eq, splitWhere_of_none h]
  cases ht : trim s <;> simp [visible, ht]

theorem exists_first {p : Char → Bool} (s : List Char) :
    (∀ c ∈ s, p c = false) ∨
      ∃ a c b, s = a ++ c :: b ∧ p c = true ∧ ∀ d ∈ a, p d = false := by
  induction s with
  | nil => simp
  | cons d s ih =>
    cases hd : p d with
    | true => exact .inr ⟨[], d, s, rfl, hd, by simp⟩
    | false =>
      rcases ih with hs | ⟨a, c, b, rfl, hc, ha⟩
      · exact .inl (by simpa [hd] using hs)
      · exact .inr ⟨d :: a, c, b, rfl, hc, by simpa [hd] using ha⟩

theorem exists_last {p : Char → Bool} (s : List Char) :
    (∀ c ∈ s, p c = false) ∨
      ∃ a c b, s = a ++ c :: b ∧ p c = true ∧ ∀ d ∈ b, p d = false := by
  rcases exists_first (p := p) s.reverse with hs | ⟨a, c, b, he, hc, ha⟩
  · exact .inl fun c hc => hs c (List.mem_reverse.mpr hc)
  · refine .inr ⟨b.reverse, c, a.reverse, ?_, hc, fun d hd => ha d (List.mem_reverse.mp hd)⟩
    simpa using congrArg List.reverse he

/-- A piece stands between separators or at an end of the text. -/
theorem exists_around {p : Char → Bool} {s piece : List Char} (h : piece ∈ splitWhere p s) :
    ∃ before after, s = before ++ piece ++ after ∧
      (before = [] ∨ ∃ front c, before = front ++ [c] ∧ p c = true) ∧
      (after = [] ∨ ∃ c rest, after = c :: rest ∧ p c = true) := by
  induction hn : s.length using Nat.strong_induction_on generalizing s with
  | _ n ih =>
    rcases exists_first (p := p) s with hs | ⟨a, c, b, rfl, hc, ha⟩
    · rw [splitWhere_of_none hs, List.mem_singleton] at h
      exact ⟨[], [], by simp [h], .inl rfl, .inl rfl⟩
    · rw [splitWhere_append hc, splitWhere_of_none ha] at h
      rcases List.mem_cons.mp h with rfl | hb
      · exact ⟨[], c :: b, rfl, .inl rfl, .inr ⟨c, b, rfl, hc⟩⟩
      · have hlength : b.length < n := by
          rw [← hn, List.length_append, List.length_cons]
          omega
        obtain ⟨before, after, rfl, hbefore, hafter⟩ := ih b.length hlength hb rfl
        refine ⟨a ++ c :: before, after, by simp, .inr ?_, hafter⟩
        rcases hbefore with rfl | ⟨front, d, rfl, hd⟩
        · exact ⟨a, c, rfl, hc⟩
        · exact ⟨a ++ c :: front, d, by simp, hd⟩

theorem infix_of_mem_splitWhere {p : Char → Bool} {s l : List Char} (h : l ∈ splitWhere p s) :
    l <:+: s := by
  obtain ⟨before, after, he, -, -⟩ := exists_around h
  exact ⟨before, after, he.symm⟩

theorem shown_blank {s : List Char} (h : ∀ c ∈ s, isBlank c = true) : shown s = [] := by
  rw [shown_eq, visible, List.filter_eq_nil_iff]
  intro l hl
  obtain ⟨piece, hp, rfl⟩ := List.mem_map.mp hl
  have hb : trim piece = [] := trim_blank fun c hc => h c ((infix_of_mem_splitWhere hp).subset hc)
  simp [hb]

theorem shown_append_blank (a : List Char) {b : List Char} (h : ∀ c ∈ b, isBlank c = true) :
    shown (a ++ b) = shown a := by
  have hline : ∀ l : List Char, (∀ c ∈ l, isLineEnd c = false) → shown (l ++ b) = shown l := by
    intro l hl
    rcases exists_first (p := isLineEnd) b with hb | ⟨b₁, e, b₂, rfl, he, hb⟩
    · rw [shown_of_line (by simpa [or_imp, forall_and] using And.intro hl hb), shown_of_line hl,
        trim_append_blank l h]
    · simp only [List.mem_append, List.mem_cons, or_imp, forall_and] at h
      rw [← List.append_assoc, shown_append he, shown_blank h.2.2, List.append_nil,
        shown_of_line (by simpa [or_imp, forall_and] using And.intro hl hb), shown_of_line hl,
        trim_append_blank l h.1]
  rcases exists_last (p := isLineEnd) a with ha | ⟨a', e, l, rfl, he, hl⟩
  · exact hline a ha
  · rw [List.append_assoc, List.cons_append, shown_append he, shown_append he, hline l hl]

theorem shown_blank_append {b : List Char} (a : List Char) (h : ∀ c ∈ b, isBlank c = true) :
    shown (b ++ a) = shown a := by
  have hline : ∀ l : List Char, (∀ c ∈ l, isLineEnd c = false) → shown (b ++ l) = shown l := by
    intro l hl
    rcases exists_last (p := isLineEnd) b with hb | ⟨b₁, e, b₂, rfl, he, hb⟩
    · rw [shown_of_line (by simpa [or_imp, forall_and] using And.intro hb hl), shown_of_line hl,
        trim_blank_append l h]
    · simp only [List.mem_append, List.mem_cons, or_imp, forall_and] at h
      rw [List.append_assoc, List.cons_append, shown_append he, shown_blank h.1, List.nil_append,
        shown_of_line (by simpa [or_imp, forall_and] using And.intro hb hl), shown_of_line hl,
        trim_blank_append l h.2.2]
  rcases exists_first (p := isLineEnd) a with ha | ⟨l, e, a', rfl, he, hl⟩
  · exact hline a ha
  · rw [← List.append_assoc, shown_append he, shown_append he, hline l hl]

theorem shown_trimEnd (s : List Char) : shown (trimEnd s) = shown s := by
  obtain ⟨b, hb, he⟩ := exists_blank_trimEnd s
  conv_rhs => rw [he]
  exact (shown_append_blank _ hb).symm

theorem shown_trimStart (s : List Char) : shown (trimStart s) = shown s := by
  obtain ⟨b, hb, he⟩ := exists_blank_trimStart s
  conv_rhs => rw [he]
  exact (shown_blank_append _ hb).symm

theorem shown_join {e : Char} (he : isLineEnd e = true) (ls : List (List Char)) :
    shown (join [e] ls) = ls.flatMap shown := by
  induction ls with
  | nil => rfl
  | cons l ls ih =>
    cases ls with
    | nil => simp [join]
    | cons l' ls =>
      rw [join_cons_cons, List.append_assoc, List.singleton_append, shown_append he, ih]
      rfl

/-! ### Rows -/

/-- The characters that end a row; a line can end otherwise, too. -/
def isBreak (c : Char) : Bool := c == '\n' || c == '\r'

/-- The rows of a text, once its line ends of two characters and of one are line feeds. -/
def rows (s : List Char) : List (List Char) := splitAt '\n' (unifyBreaks s)

theorem splitWhere_replaceReturns {p q : Char → Bool} (hr : q '\r' = true) (hn : p '\n' = true)
    (hpq : ∀ c, c ≠ '\r' → p c = q c) (s : List Char) :
    splitWhere p (replaceChar '\r' '\n' s) = splitWhere q s := by
  induction s with
  | nil => rfl
  | cons c s ih =>
    have hcons : replaceChar '\r' '\n' (c :: s) =
        (if c == '\r' then '\n' else c) :: replaceChar '\r' '\n' s := rfl
    rw [hcons, splitWhere_cons, splitWhere_cons, ih]
    by_cases hc : c = '\r'
    · subst hc
      simp [hr, hn]
    · simp [hc, hpq c hc]

theorem shown_unifyBreaks (s : List Char) : shown (unifyBreaks s) = shown s := by
  rw [shown_eq, shown_eq, unifyBreaks, splitWhere_replaceReturns rfl rfl fun _ _ => rfl,
    ← visible_filter, filter_splitWhere_dropReturns rfl rfl, visible_filter]

theorem shown_rows (s : List Char) : (rows s).flatMap shown = shown s := by
  rw [rows, ← shown_join (e := '\n') rfl, join_splitAt, shown_unifyBreaks]

/-- The rows that are not empty are the pieces between the breaks. -/
theorem filter_rows (s : List Char) :
    (rows s).filter (!·.isEmpty) = (splitWhere isBreak s).filter (!·.isEmpty) := by
  have hbreak : ∀ c : Char, c ≠ '\r' → (c == '\n') = isBreak c := by
    intro c hc
    simp [isBreak, hc]
  rw [rows, splitAt, unifyBreaks, splitWhere_replaceReturns rfl rfl hbreak,
    filter_splitWhere_dropReturns rfl rfl]

theorem infix_of_mem_rows {s row : List Char} (h : row ∈ rows s) : row <:+: s := by
  cases row with
  | nil => exact List.nil_infix
  | cons c row =>
    have hmem : c :: row ∈ (splitWhere isBreak s).filter (!·.isEmpty) := by
      rw [← filter_rows]
      exact List.mem_filter.mpr ⟨h, rfl⟩
    exact infix_of_mem_splitWhere (List.mem_filter.mp hmem).1

end DocAtlas.Text
