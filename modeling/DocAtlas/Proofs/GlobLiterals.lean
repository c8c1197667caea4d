import DocAtlas.Proofs.GlobReading

/-!
Glob patterns that stand for one text, their own. Any other pattern stands for a text that is
shorter than it, or with each of its texts for one beside it.
-/
namespace DocAtlas.Glob

/-! ### Literal patterns -/

/-- Every character of the pattern stands for itself. -/
structure IsLiteral (pattern : List Char) : Prop where
  star : '*' ∉ pattern
  mark : '?' ∉ pattern
  bracket : ∀ before after, pattern = before ++ '[' :: after → ']' ∉ after

theorem isLiteral_nil : IsLiteral [] where
  star := List.not_mem_nil
  mark := List.not_mem_nil
  bracket := by simp

theorem isLiteral_cons {c : Char} {rest : List Char} :
    IsLiteral (c :: rest) ↔ (c ≠ '*' ∧ c ≠ '?' ∧ (c = '[' → ']' ∉ rest)) ∧ IsLiteral rest := by
  constructor
  · rintro ⟨star, mark, bracket⟩
    simp only [List.mem_cons, not_or] at star mark
    refine ⟨⟨Ne.symm star.1, Ne.symm mark.1, ?_⟩, star.2, mark.2, ?_⟩
    · rintro rfl
      exact bracket [] rest rfl
    · rintro before after rfl
      exact bracket (c :: before) after rfl
  · rintro ⟨⟨star, mark, bracket⟩, h⟩
    refine ⟨?_, ?_, ?_⟩
    · rw [List.mem_cons, not_or]
      exact ⟨Ne.symm star, h.star⟩
    · rw [List.mem_cons, not_or]
      exact ⟨Ne.symm mark, h.mark⟩
    · intro before after he
      cases before with
      | nil =>
        obtain ⟨rfl, rfl⟩ := List.cons.inj he
        exact bracket rfl
      | cons d before =>
        obtain ⟨rfl, rfl⟩ := List.cons.inj he
        exact h.bracket before after rfl

theorem IsLiteral.legible {pattern : List Char} (h : IsLiteral pattern) : Legible false pattern := by
  induction pattern with
  | nil => rw [Legible]
  | cons c rest ih =>
    obtain ⟨⟨star, mark, bracket⟩, hrest⟩ := isLiteral_cons.mp h
    exact (legible_char star mark bracket).mpr (ih hrest)

theorem Wild.not_literal {piece : List Char} {item : Item} (h : Wild piece item)
    (rest : List Char) : ¬IsLiteral (piece ++ rest) := by
  intro hp
  cases h with
  | directories => exact hp.star (by simp)
  | text => exact hp.star (by simp)
  | names => exact hp.star (by simp)
  | nameChar => exact hp.mark (by simp)
  | @set body more _ _ _ =>
    exact hp.bracket [] (body ++ ']' :: more ++ rest) (by simp) (by simp)

/-- A literal pattern accepts itself and nothing else. -/
theorem Spells.accepted_of_literal {pattern : List Char} {items : List Item}
    (h : Spells pattern items) (hp : IsLiteral pattern) : accepted items = {pattern} := by
  induction h with
  | nil => exact accepted_nil
  | @char c rest items star mark bracket h ih =>
    rw [accepted_cons, texts_only, ih (isLiteral_cons.mp hp).2]
    ext s
    rw [Language.mem_mul]
    constructor
    · rintro ⟨_, rfl, _, rfl, rfl⟩
      rfl
    · rintro rfl
      exact ⟨[c], rfl, rest, rfl, rfl⟩
  | wild hpiece h ih => exact absurd hp (hpiece.not_literal _)

/-! ### Texts beside a text -/

/-- The second text has one character in place of others of the first, or between two of its
characters; none of them is a slash. -/
def Beside (s t : List Char) : Prop :=
  ∃ (before old after : List Char) (c : Char), s = before ++ (old ++ after) ∧
    t = before ++ c :: after ∧ '/' ∉ old ∧ c ≠ '/' ∧ old ≠ [c] ∧ (old ≠ [] ∨ after ≠ [])

theorem Beside.append_left {s t : List Char} (h : Beside s t) (start : List Char) :
    Beside (start ++ s) (start ++ t) := by
  obtain ⟨before, old, after, c, rfl, rfl, h⟩ := h
  exact ⟨start ++ before, old, after, c, by simp, by simp, h⟩

theorem Beside.append_right {s t : List Char} (h : Beside s t) (rest : List Char) :
    Beside (s ++ rest) (t ++ rest) := by
  obtain ⟨before, old, after, c, rfl, rfl, name, slash, other, inner⟩ := h
  exact ⟨before, old, after ++ rest, c, by simp, by simp, name, slash, other,
    inner.imp_right fun h => List.append_ne_nil_of_left_ne_nil h _⟩

/-- A character that is doubled gives a text beside. -/
theorem beside_double {c : Char} (hc : c ≠ '/') (before after : List Char) :
    Beside (before ++ c :: after) (before ++ c :: c :: after) :=
  ⟨before, [], c :: after, c, rfl, rfl, List.not_mem_nil, hc, by simp,
    .inr (List.cons_ne_nil c after)⟩

/-- A text without two slashes side by side has a character that is no slash, or is a slash at most.
-/
theorem exists_name_or_short {s : List Char} (hs : ¬['/', '/'] <:+: s) :
    (∃ before c after, c ≠ '/' ∧ s = before ++ c :: after) ∨ s = [] ∨ s = ['/'] := by
  by_cases hname : ∃ c ∈ s, c ≠ '/'
  · obtain ⟨c, hc, hne⟩ := hname
    obtain ⟨before, after, he⟩ := List.append_of_mem hc
    exact .inl ⟨before, c, after, hne, he⟩
  · simp only [not_exists, not_and, not_not] at hname
    right
    rw [List.eq_replicate_of_mem hname] at hs ⊢
    match s.length, hs with
    | 0, _ => exact .inl rfl
    | 1, _ => exact .inr rfl
    | n + 2, hs => exact absurd ⟨[], List.replicate n '/', rfl⟩ hs

theorem many_short_or_beside {k : Class} {s : List Char} (hs : s ∈ Item.texts (.many k))
    (hslashes : ¬['/', '/'] <:+: s) :
    s = [] ∨ s = ['/'] ∨ ∃ t ∈ Item.texts (.many k), Beside s t := by
  rcases exists_name_or_short hslashes with ⟨before, c, after, hc, rfl⟩ | hshort
  · refine .inr (.inr ⟨_, ?_, beside_double hc before after⟩)
    intro d hd
    apply hs d
    simp only [List.mem_append, List.mem_cons] at hd ⊢
    tauto
  · exact hshort.imp_right .inl

theorem directories_short_or_beside {s : List Char} (hs : s ∈ directoryTexts)
    (hslashes : ¬['/', '/'] <:+: s) : s = [] ∨ s = ['/'] ∨ ∃ t ∈ directoryTexts, Beside s t := by
  rcases exists_name_or_short hslashes with ⟨before, c, after, hc, rfl⟩ | hshort
  · obtain ⟨hbreak, hlast⟩ := hs.resolve_left (by simp)
    refine .inr (.inr ⟨_, .inr ⟨?_, ?_⟩, beside_double hc before after⟩)
    · simpa using hbreak
    · rwa [List.getLast?_append_cons, List.getLast?_cons_cons, ← List.getLast?_append_cons]
  · exact hshort.imp_right .inl

theorem nameChar_beside {s : List Char} (hs : s ∈ nameCharTexts) : ∃ t ∈ nameCharTexts, Beside s t := by
  obtain ⟨c, hc, rfl⟩ := hs
  obtain ⟨d, hd, hother⟩ : ∃ d : Char, d ≠ '/' ∧ c ≠ d := by
    by_cases hx : c = 'x'
    · exact ⟨'y', by decide, by rw [hx]; decide⟩
    · exact ⟨'x', by decide, hx⟩
  exact ⟨[d], ⟨d, hd, rfl⟩, [], [c], [], d, rfl, rfl, by simpa using Ne.symm hc, hd,
    by simpa using hother, .inl (List.cons_ne_nil c [])⟩

/-- Each text of a wild piece is shorter than it, or another text of the piece stands beside it. -/
theorem Wild.short_or_beside {piece : List Char} {item : Item} (h : Wild piece item)
    {s : List Char} (hs : s ∈ item.texts) (hslashes : ¬['/', '/'] <:+: s) :
    s.length < piece.length ∨ ∃ t ∈ item.texts, Beside s t := by
  cases h with
  | directories =>
    rcases directories_short_or_beside hs hslashes with rfl | rfl | hbeside
    · exact .inl (by decide)
    · exact .inl (by decide)
    · exact .inr hbeside
  | text =>
    rcases many_short_or_beside hs hslashes with rfl | rfl | hbeside
    · exact .inl (by decide)
    · exact .inl (by decide)
    · exact .inr hbeside
  | names =>
    rcases many_short_or_beside hs hslashes with rfl | rfl | hbeside
    · exact .inl (by decide)
    · rw [texts_names] at hs
      exact absurd (List.mem_singleton_self '/') hs
    · exact .inr hbeside
  | nameChar =>
    rw [texts_nameChars] at hs ⊢
    exact .inr (nameChar_beside hs)
  | @set body more _ held kind =>
    have hlong : 3 ≤ ('[' :: body ++ ']' :: more).length := by
      rcases held with hbody | hmore
      · have := List.length_pos_of_ne_nil hbody
        simp only [List.length_append, List.length_cons]
        omega
      · have := List.length_pos_of_ne_nil hmore
        simp only [List.length_append, List.length_cons]
        omega
    cases item with
    | one k =>
      obtain ⟨c, -, rfl⟩ := hs
      exact .inl (Nat.lt_of_lt_of_le (by simp) hlong)
    | many k =>
      rcases many_short_or_beside hs hslashes with rfl | rfl | hbeside
      · exact .inl (Nat.lt_of_lt_of_le (by decide) hlong)
      · exact .inl (Nat.lt_of_lt_of_le (by decide) hlong)
      · exact .inr hbeside
    | directories => exact absurd rfl kind

/-- Each text of a pattern is shorter than it, or another of its texts stands beside it, or the
pattern is literal and the text its own. -/
theorem Spells.short_or_beside {pattern : List Char} {items : List Item} (h : Spells pattern items)
    {s : List Char} (hs : s ∈ accepted items) (hslashes : ¬['/', '/'] <:+: s) :
    s.length < pattern.length ∨ (∃ t ∈ accepted items, Beside s t) ∨
      s = pattern ∧ IsLiteral pattern := by
  induction h generalizing s with
  | nil =>
    rw [accepted_nil, Language.mem_one] at hs
    exact .inr (.inr ⟨hs, isLiteral_nil⟩)
  | @char c rest items star mark bracket h ih =>
    rw [accepted_cons] at hs ⊢
    obtain ⟨_, ⟨d, hd, rfl⟩, after, hafter, rfl⟩ := Language.mem_mul.mp hs
    rcases ih hafter (fun hm => hslashes (hm.trans (List.suffix_append _ _).isInfix)) with
      hshort | ⟨t, ht, hbeside⟩ | ⟨rfl, hliteral⟩
    · exact .inl (Nat.succ_lt_succ hshort)
    · exact .inr (.inl ⟨[d] ++ t, Language.append_mem_mul ⟨d, hd, rfl⟩ ht, hbeside.append_left [d]⟩)
    · obtain rfl : d = c := by simpa [Class.has] using hd
      exact .inr (.inr ⟨rfl, isLiteral_cons.mpr ⟨⟨star, mark, bracket⟩, hliteral⟩⟩)
  | @wild piece rest item items hpiece h ih =>
    rw [accepted_cons] at hs ⊢
    obtain ⟨front, hfront, after, hafter, rfl⟩ := Language.mem_mul.mp hs
    have hfrontSlashes : ¬['/', '/'] <:+: front :=
      fun hm => hslashes (hm.trans (List.prefix_append _ _).isInfix)
    have hafterSlashes : ¬['/', '/'] <:+: after :=
      fun hm => hslashes (hm.trans (List.suffix_append _ _).isInfix)
    rw [List.length_append, List.length_append]
    rcases hpiece.short_or_beside hfront hfrontSlashes with hshort | ⟨t, ht, hbeside⟩
    · rcases ih hafter hafterSlashes with hrest | ⟨t, ht, hbeside⟩ | ⟨rfl, -⟩
      · exact .inl (Nat.add_lt_add hshort hrest)
      · exact .inr (.inl ⟨front ++ t, Language.append_mem_mul hfront ht, hbeside.append_left front⟩)
      · exact .inl (Nat.add_lt_add_right hshort _)
    · exact .inr (.inl ⟨t ++ after, Language.append_mem_mul ht hafter, hbeside.append_right after⟩)

end DocAtlas.Glob
