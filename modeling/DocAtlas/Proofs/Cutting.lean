import DocAtlas.Proofs.Splitting
import Mathlib.Data.List.Infix

/-!
Where a text stands in another one, and the cut at the first place of it.
-/
namespace DocAtlas.Text

/-! ### On one side of a character -/

theorem prefix_of_append_cons {m a b : List Char} {c : Char} (hc : c ∉ m)
    (h : m <+: a ++ c :: b) : m <+: a := by
  rcases List.prefix_or_prefix_of_prefix h (List.prefix_append a (c :: b)) with ha | ⟨rest, rfl⟩
  · exact ha
  · rw [List.prefix_append_right_inj] at h
    cases rest with
    | nil => exact (List.append_nil a).symm ▸ List.prefix_refl a
    | cons d rest =>
      obtain ⟨rfl, -⟩ := List.cons_prefix_cons.mp h
      exact absurd (List.mem_append_right a List.mem_cons_self) hc

/-- What does not hold a separator stands on one side of it. -/
theorem infix_of_append_cons {m a b : List Char} {c : Char} (hc : c ∉ m)
    (h : m <:+: a ++ c :: b) : m <:+: a ∨ m <:+: b := by
  induction a with
  | nil =>
    rcases List.infix_cons_iff.mp h with hp | hi
    · exact .inl (prefix_of_append_cons (a := []) hc hp).isInfix
    · exact .inr hi
  | cons d a ih =>
    rcases List.infix_cons_iff.mp h with hp | hi
    · exact .inl (prefix_of_append_cons (a := d :: a) hc hp).isInfix
    · exact (ih hi).imp (fun ha => ha.trans (List.suffix_cons d a).isInfix) id

theorem infix_of_join {m : List Char} {c : Char} (hc : c ∉ m) (hm : m ≠ [])
    {ls : List (List Char)} (h : m <:+: join [c] ls) : ∃ l ∈ ls, m <:+: l := by
  induction ls with
  | nil => exact absurd (List.infix_nil.mp h) hm
  | cons l ls ih =>
    cases ls with
    | nil => exact ⟨l, List.mem_cons_self, by simpa [join] using h⟩
    | cons l' ls =>
      rw [join_cons_cons, List.append_assoc, List.singleton_append] at h
      rcases infix_of_append_cons hc h with hl | hr
      · exact ⟨l, List.mem_cons_self, hl⟩
      · obtain ⟨k, hk, hi⟩ := ih hr
        exact ⟨k, List.mem_cons_of_mem _ hk, hi⟩

/-! ### The first place -/

variable {sep s a b : List Char}

theorem isSome_cut?_iff : (cut? sep s).isSome = true ↔ sep <:+: s := by
  induction s with
  | nil =>
    rw [cut?, List.infix_nil]
    split
    · rename_i hnil
      simpa using hnil
    · rename_i hne
      simpa using hne
  | cons c s ih =>
    rw [cut?, List.infix_cons_iff, ← List.isPrefixOf_iff_prefix]
    split
    · rename_i hp
      simp [hp]
    · rename_i hp
      rw [Option.isSome_map, ih]
      simp [hp]

theorem cut?_eq_none_iff : cut? sep s = none ↔ ¬sep <:+: s := by
  rw [← isSome_cut?_iff, Option.not_isSome_iff_eq_none]

theorem exists_cut? (h : sep <:+: s) : ∃ before after, cut? sep s = some (before, after) := by
  obtain ⟨⟨before, after⟩, hc⟩ := Option.isSome_iff_exists.mp (isSome_cut?_iff.mpr h)
  exact ⟨before, after, hc⟩

theorem eq_of_cut? (h : cut? sep s = some (a, b)) : s = a ++ sep ++ b := by
  induction s generalizing a with
  | nil =>
    rw [cut?] at h
    split at h
    · rename_i hnil
      cases h
      rw [List.isEmpty_iff.mp hnil]
      rfl
    · cases h
  | cons c s ih =>
    rw [cut?] at h
    split at h
    · rename_i hp
      cases h
      exact (List.prefix_iff_eq_append.mp (List.isPrefixOf_iff_prefix.mp hp)).symm
    · obtain ⟨⟨before, after⟩, hs, he⟩ := Option.map_eq_some_iff.mp h
      cases he
      rw [ih hs]
      simp

/-- What follows a place of the separator is the end of what follows the first one. -/
theorem suffix_of_cut? {u v : List Char} (h : cut? sep s = some (a, b)) (hs : s = u ++ sep ++ v) :
    v <:+ b := by
  induction s generalizing a u with
  | nil =>
    have hv : v = [] := (List.append_eq_nil_iff.mp hs.symm).2
    rw [hv]
    exact List.nil_suffix
  | cons c s ih =>
    rw [cut?] at h
    split at h
    · cases h
      have hlength := congrArg List.length hs
      rw [List.length_append, List.length_append] at hlength
      apply List.suffix_of_suffix_length_le (hs ▸ List.suffix_append _ v) (List.drop_suffix _ _)
      rw [List.length_drop]
      omega
    · rename_i hp
      obtain ⟨⟨before, after⟩, hcut, he⟩ := Option.map_eq_some_iff.mp h
      cases he
      cases u with
      | nil =>
        have hprefix : sep <+: c :: s := hs ▸ List.prefix_append sep v
        exact absurd (List.isPrefixOf_iff_prefix.mpr hprefix) hp
      | cons d u => exact ih hcut (List.cons.inj hs).2

theorem cut?_self (sep b : List Char) : cut? sep (sep ++ b) = some ([], b) := by
  cases sep with
  | nil => cases b <;> rfl
  | cons d sep =>
    rw [List.cons_append, cut?, ← List.cons_append,
      if_pos (List.isPrefixOf_iff_prefix.mpr (List.prefix_append _ b)), List.drop_left]

/-- Where the separator begins nowhere in a text, it is looked for in what follows. -/
theorem cut?_append (t : List Char) (h : ∀ v, v ≠ [] → v <:+ a → ¬sep <+: v ++ t) :
    cut? sep (a ++ t) = (cut? sep t).map fun p => (a ++ p.1, p.2) := by
  induction a with
  | nil => exact Option.map_id'.symm
  | cons c a ih =>
    have hp : ¬sep.isPrefixOf (c :: (a ++ t)) = true := fun hp =>
      h (c :: a) (List.cons_ne_nil c a) (List.suffix_refl _) (List.isPrefixOf_iff_prefix.mp hp)
    have hrest := ih fun v hne hv => h v hne (hv.trans (List.suffix_cons c a))
    rw [List.cons_append, cut?, if_neg hp, hrest, Option.map_map]
    rfl

theorem cut?_append_cons {c : Char} (hc : c ∉ sep) (h : ¬sep <:+: a) (t : List Char) :
    cut? sep (a ++ c :: t) = (cut? sep t).map fun p => (a ++ c :: p.1, p.2) := by
  have hskip := cut?_append (a := a ++ [c]) t fun v hne hv hp => by
    rcases List.suffix_concat_iff.mp hv with rfl | ⟨w, rfl, hw⟩
    · exact hne rfl
    · rw [List.append_assoc] at hp
      exact h ((prefix_of_append_cons hc hp).isInfix.trans hw.isInfix)
  simpa using hskip

end DocAtlas.Text
