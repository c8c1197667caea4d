import DocAtlas.Text.Blank
import Mathlib.Data.List.TakeWhile

/-!
How splitting a text at a separator and joining its pieces fit together.
-/
namespace DocAtlas.Text

theorem splitWhere_ne_nil (p : Char → Bool) (s : List Char) : splitWhere p s ≠ [] := by
  cases s with
  | nil => simp [splitWhere]
  | cons c s =>
    simp only [splitWhere, List.foldr_cons]
    split
    · simp
    · split <;> simp

theorem splitWhere_cons (p : Char → Bool) (c : Char) (s : List Char) :
    splitWhere p (c :: s) =
      if p c then [] :: splitWhere p s
      else match splitWhere p s with
        | [] => [[c]]
        | piece :: rest => (c :: piece) :: rest := rfl

/-- A separator ends one piece and begins another, whatever stands on both sides. -/
theorem splitWhere_append {p : Char → Bool} {c : Char} (hc : p c = true) (a b : List Char) :
    splitWhere p (a ++ c :: b) = splitWhere p a ++ splitWhere p b := by
  induction a with
  | nil => simp [splitWhere_cons, hc, show splitWhere p [] = [[]] from rfl]
  | cons d a ih =>
    rw [List.cons_append, splitWhere_cons, splitWhere_cons, ih]
    split
    · rfl
    · cases h : splitWhere p a with
      | nil => exact absurd h (splitWhere_ne_nil p a)
      | cons piece rest => rfl

theorem splitAt_append (sep : Char) (a b : List Char) :
    splitAt sep (a ++ sep :: b) = splitAt sep a ++ splitAt sep b :=
  splitWhere_append (by simp) a b

theorem join_cons_cons (sep a b : List Char) (rest : List (List Char)) :
    join sep (a :: b :: rest) = a ++ sep ++ join sep (b :: rest) := by
  simp [join]

theorem join_cons (sep a : List Char) {rest : List (List Char)} (h : rest ≠ []) :
    join sep (a :: rest) = a ++ sep ++ join sep rest := by
  cases rest with
  | nil => contradiction
  | cons b rest => exact join_cons_cons sep a b rest

theorem join_append (sep : List Char) {as bs : List (List Char)} (ha : as ≠ []) (hb : bs ≠ []) :
    join sep (as ++ bs) = join sep as ++ sep ++ join sep bs := by
  induction as with
  | nil => contradiction
  | cons a as ih =>
    cases as with
    | nil => simpa [join] using join_cons sep a hb
    | cons a' as =>
      have ht := ih (by simp)
      simp only [List.cons_append] at ht ⊢
      rw [join_cons_cons, join_cons_cons, ht]
      simp only [List.append_assoc]

/-- Joining gives back what was split. -/
theorem join_splitAt (sep : Char) (s : List Char) : join [sep] (splitAt sep s) = s := by
  induction s with
  | nil => rfl
  | cons c s ih =>
    unfold splitAt at ih ⊢
    rw [splitWhere_cons]
    have hn := splitWhere_ne_nil (· == sep) s
    split
    · rename_i hc
      rw [join_cons _ _ hn, ih]
      simpa using (beq_iff_eq.mp hc).symm
    · cases h : splitWhere (· == sep) s with
      | nil => exact absurd h hn
      | cons piece rest =>
        rw [h] at ih
        cases rest with
        | nil => simpa [join] using ih
        | cons b rest =>
          dsimp only
          rw [join_cons_cons] at ih ⊢
          rw [← ih]
          rfl

theorem splitWhere_of_none {p : Char → Bool} {s : List Char} (h : ∀ c ∈ s, p c = false) :
    splitWhere p s = [s] := by
  induction s with
  | nil => rfl
  | cons c s ih =>
    rw [List.forall_mem_cons] at h
    rw [splitWhere_cons, h.1, ih h.2]
    rfl

theorem splitAt_of_not_mem {sep : Char} {s : List Char} (h : sep ∉ s) : splitAt sep s = [s] := by
  apply splitWhere_of_none
  intro c hc
  rw [beq_eq_false_iff_ne]
  rintro rfl
  exact h hc

/-- Splitting gives back what was joined, if no piece holds a separator. -/
theorem splitWhere_join {p : Char → Bool} {sep : Char} (hs : p sep = true)
    {pieces : List (List Char)} (hne : pieces ≠ [])
    (hp : ∀ piece ∈ pieces, ∀ c ∈ piece, p c = false) :
    splitWhere p (join [sep] pieces) = pieces := by
  induction pieces with
  | nil => contradiction
  | cons a rest ih =>
    rw [List.forall_mem_cons] at hp
    cases rest with
    | nil =>
      have ha : join [sep] [a] = a := by simp [join]
      rw [ha, splitWhere_of_none hp.1]
    | cons b rest =>
      rw [join_cons_cons, List.append_assoc, List.singleton_append, splitWhere_append hs,
        splitWhere_of_none hp.1, ih (List.cons_ne_nil b rest) hp.2]
      rfl

/-- No piece holds a separator. -/
theorem not_of_mem_splitWhere {p : Char → Bool} {s piece : List Char} (h : piece ∈ splitWhere p s) :
    ∀ c ∈ piece, p c = false := by
  induction s generalizing piece with
  | nil => simp_all [splitWhere]
  | cons c s ih =>
    rw [splitWhere_cons] at h
    cases hc : p c with
    | true =>
      rw [hc, if_pos rfl] at h
      rcases List.mem_cons.mp h with rfl | hs
      · simp
      · exact ih hs
    | false =>
      rw [hc, if_neg Bool.false_ne_true] at h
      cases hs : splitWhere p s with
      | nil => exact absurd hs (splitWhere_ne_nil p s)
      | cons first rest =>
        rw [hs, List.mem_cons] at h
        rcases h with rfl | hr
        · exact List.forall_mem_cons.mpr ⟨hc, ih (hs ▸ List.mem_cons_self)⟩
        · exact ih (hs ▸ List.mem_cons_of_mem first hr)

theorem ne_of_not_mem {sep : Char} {s : List Char} (h : sep ∉ s) :
    ∀ c ∈ s.reverse, (c != sep) = true := by
  intro c hc
  rw [bne_iff_ne]
  rintro rfl
  exact h (List.mem_reverse.mp hc)

theorem afterLast_append {sep : Char} (a : List Char) {b : List Char} (h : sep ∉ b) :
    afterLast sep (a ++ sep :: b) = b := by
  rw [afterLast, List.reverse_append, List.reverse_cons, List.append_assoc,
    List.takeWhile_append_of_pos (ne_of_not_mem h)]
  simp

theorem afterLast_of_not_mem {sep : Char} {s : List Char} (h : sep ∉ s) : afterLast sep s = s := by
  have hall : s.reverse.takeWhile (· != sep) = s.reverse :=
    List.takeWhile_eq_self_iff.mpr (ne_of_not_mem h)
  rw [afterLast, hall, List.reverse_reverse]

theorem beforeLast?_append {sep : Char} (a : List Char) {b : List Char} (h : sep ∉ b) :
    beforeLast? sep (a ++ sep :: b) = some a := by
  rw [beforeLast?, List.reverse_append, List.reverse_cons, List.append_assoc,
    List.dropWhile_append_of_pos (ne_of_not_mem h)]
  simp

theorem beforeLast?_of_not_mem {sep : Char} {s : List Char} (h : sep ∉ s) :
    beforeLast? sep s = none := by
  rw [beforeLast?, List.dropWhile_eq_nil_iff.mpr (ne_of_not_mem h)]

theorem exists_last_sep {sep : Char} {s : List Char} (h : sep ∈ s) :
    ∃ a b, s = a ++ sep :: b ∧ sep ∉ b := by
  obtain ⟨b, a, he, hb⟩ := List.eq_append_cons_of_mem (List.mem_reverse.mpr h)
  refine ⟨a.reverse, b.reverse, ?_, by simpa using hb⟩
  rw [← List.reverse_reverse s, he]
  simp

/-- Without its last piece, a text stands before all others in the same way. -/
theorem exists_splitAt_append (sep : Char) (a : List Char) :
    ∃ before x, sep ∉ x ∧ ∀ s, splitAt sep (a ++ s) = before ++ splitAt sep (x ++ s) := by
  by_cases ha : sep ∈ a
  · obtain ⟨front, x, rfl, hx⟩ := exists_last_sep ha
    refine ⟨splitAt sep front, x, hx, fun s => ?_⟩
    rw [List.append_assoc, List.cons_append, splitAt_append]
  · exact ⟨[], a, ha, fun s => rfl⟩

/-- What stands between two texts without holding a separator belongs to one piece. -/
theorem exists_splitAt_between (sep : Char) (a b : List Char) :
    ∃ before x y after, ∀ w, sep ∉ w →
      splitAt sep (a ++ (w ++ b)) = before ++ (x ++ w ++ y) :: after := by
  obtain ⟨before, x, hx, hsplit⟩ := exists_splitAt_append sep a
  by_cases hb : sep ∈ b
  · obtain ⟨y, rest, rfl, hy⟩ := List.eq_append_cons_of_mem hb
    refine ⟨before, x, y, splitAt sep rest, fun w hw => ?_⟩
    have hpiece : sep ∉ x ++ w ++ y := by simp [hx, hw, hy]
    rw [hsplit, ← List.append_assoc, ← List.append_assoc, splitAt_append,
      splitAt_of_not_mem hpiece, List.singleton_append]
  · refine ⟨before, x, b, [], fun w hw => ?_⟩
    have hpiece : sep ∉ x ++ w ++ b := by simp [hx, hw, hb]
    rw [hsplit, ← List.append_assoc, splitAt_of_not_mem hpiece]

/-- An ending without separators is one of the last piece. -/
theorem suffix_afterLast {sep : Char} {tail s : List Char} (h : tail <:+ s) (ht : sep ∉ tail) :
    tail <:+ afterLast sep s := by
  obtain ⟨front, rfl⟩ := h
  by_cases hf : sep ∈ front
  · obtain ⟨a, b, rfl, hb⟩ := exists_last_sep hf
    rw [List.append_assoc, List.cons_append, afterLast_append]
    · exact List.suffix_append _ _
    · simp [ht, hb]
  · rw [afterLast_of_not_mem]
    · exact List.suffix_append _ _
    · simp [ht, hf]

/-- What stands after the last separator is the last piece. -/
theorem getLast?_splitAt (sep : Char) (s : List Char) :
    (splitAt sep s).getLast? = some (afterLast sep s) := by
  by_cases hs : sep ∈ s
  · obtain ⟨a, b, rfl, hb⟩ := exists_last_sep hs
    rw [splitAt_append, afterLast_append _ hb, splitAt_of_not_mem hb, List.getLast?_concat]
  · rw [afterLast_of_not_mem hs, splitAt_of_not_mem hs]
    rfl

/-- The last pieces of a text are those of another one if it ends with that after a separator. -/
theorem splitAt_suffix_iff {sep : Char} {tail s : List Char} :
    splitAt sep tail <:+ splitAt sep s ↔ s = tail ∨ sep :: tail <:+ s := by
  constructor
  · rintro ⟨front, h⟩
    have hs := join_splitAt sep s
    cases front with
    | nil => exact .inl (by rw [← hs, ← h, List.nil_append, join_splitAt])
    | cons piece rest =>
      right
      have hne : splitAt sep tail ≠ [] := splitWhere_ne_nil _ tail
      rw [← h, join_append _ (List.cons_ne_nil piece rest) hne, join_splitAt, List.append_assoc,
        List.singleton_append] at hs
      exact ⟨_, hs⟩
  · rintro (rfl | ⟨front, rfl⟩)
    · exact List.suffix_refl _
    · rw [splitAt_append]
      exact List.suffix_append _ _

end DocAtlas.Text

namespace DocAtlas

theorem splitText_intercalate {sep : Char} {mark : String} (hm : mark.toList = [sep])
    {parts : List String} (hne : parts ≠ []) (hp : ∀ s ∈ parts, sep ∉ s.toList) :
    splitText sep (String.intercalate mark parts) = parts := by
  have hjoin : (String.intercalate mark parts).toList =
      Text.join [sep] (parts.map String.toList) := by
    rw [String.toList_intercalate, hm]
    rfl
  have hsplit : Text.splitAt sep (Text.join [sep] (parts.map String.toList)) =
      parts.map String.toList := by
    refine Text.splitWhere_join (by simp) (by simpa using hne) ?_
    rintro piece hpiece c hc
    obtain ⟨s, hs, rfl⟩ := List.mem_map.mp hpiece
    exact beq_eq_false_iff_ne.mpr fun he => hp s hs (he ▸ hc)
  rw [splitText, hjoin, hsplit, List.map_map]
  exact List.map_id'' (fun s => String.ofList_toList) parts

theorem not_mem_of_mem_splitText {sep : Char} {text s : String} (h : s ∈ splitText sep text) :
    sep ∉ s.toList := by
  obtain ⟨piece, hpiece, rfl⟩ := List.mem_map.mp h
  intro hs
  rw [String.toList_ofList] at hs
  simpa using Text.not_of_mem_splitWhere hpiece sep hs

end DocAtlas
