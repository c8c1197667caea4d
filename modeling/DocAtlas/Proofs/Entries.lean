import DocAtlas.Keyed
import Mathlib.Data.List.Induction
import Mathlib.Data.List.Nodup

/-!
What is found under a key: where keys are distinct, after an entry has been made, and where values
have been gathered.
-/
namespace DocAtlas.Keyed

variable {α : Type}

/-! ### Distinct keys -/

theorem filter_key {key : α → String} {items : List α} (distinct : (items.map key).Nodup) {a : α}
    (ha : a ∈ items) : items.filter (key · == key a) = [a] := by
  have hnodup : (items.filter (key · == key a)).Nodup := (List.Nodup.of_map _ distinct).filter _
  rw [← List.perm_singleton, List.perm_ext_iff_of_nodup hnodup (List.nodup_singleton a)]
  intro b
  rw [List.mem_filter, List.mem_singleton, beq_iff_eq]
  constructor
  · rintro ⟨hb, hkey⟩
    exact List.inj_on_of_nodup_map distinct hb ha hkey
  · rintro rfl
    exact ⟨ha, rfl⟩

theorem find?_key {key : α → String} {items : List α} (distinct : (items.map key).Nodup) {a : α}
    (ha : a ∈ items) : items.find? (key · == key a) = some a := by
  rw [← List.head?_filter, filter_key distinct ha, List.head?_singleton]

/-! ### Entries -/

theorem get?_concat (k : Keyed α) (key : String) (value : α) (other : String) :
    get? (k ++ [(key, value)]) other =
      (k.get? other).or (if key = other then some value else none) := by
  simp only [get?, List.find?_append, List.find?_singleton, beq_iff_eq]
  cases List.find? (·.1 == other) k with
  | some entry => rfl
  | none => split <;> rfl

theorem eq_of_get?_concat {k : Keyed α} {key : String} {value : α}
    {other : String} {found : α} (h : get? (k ++ [(key, value)]) other = some found) :
    k.get? other = some found ∨ other = key ∧ found = value := by
  rw [get?_concat] at h
  cases hk : k.get? other with
  | some known =>
    rw [hk] at h
    exact .inl h
  | none =>
    rw [hk, Option.none_or] at h
    split at h
    · rename_i he
      cases h
      exact .inr ⟨he.symm, rfl⟩
    · cases h

theorem has_eq (k : Keyed α) (key : String) : k.has key = (k.get? key).isSome := by
  simp [has, get?, List.isSome_find?]

theorem get?_put (k : Keyed α) (key : String) (value : α) (other : String) :
    (k.put key value).get? other = if key = other then some value else k.get? other := by
  unfold put
  split
  · rename_i hk
    rw [has_eq] at hk
    -- The keys stay where they are.
    have hkeys : ((fun entry : String × α => entry.1 == other) ∘
        fun entry => if entry.1 == key then (key, value) else entry) = (·.1 == other) := by
      funext entry
      by_cases he : entry.1 = key <;> simp [he]
    rw [get?, List.find?_map, hkeys, Option.map_map]
    unfold get? at hk ⊢
    cases hf : k.find? (·.1 == other) with
    | none =>
      rw [if_neg]
      · rfl
      · rintro rfl
        rw [hf] at hk
        cases hk
    | some entry =>
      have hentry : entry.1 = other := by simpa using List.find?_some hf
      by_cases he : key = other
      · simp [hentry, he]
      · simp [hentry, he, Ne.symm he]
  · rename_i hk
    rw [has_eq, Bool.not_eq_true, Option.isSome_eq_false_iff, Option.isNone_iff_eq_none] at hk
    rw [get?_concat]
    split
    · rename_i he
      rw [← he, hk, Option.none_or]
    · rw [Option.or_none]

theorem get?_putNew (k : Keyed α) (key : String) (value : α) (other : String) :
    (k.putNew key value).get? other =
      (k.get? other).or (if key = other then some value else none) := by
  unfold putNew
  split
  · rename_i hk
    rw [has_eq] at hk
    split
    · rename_i he
      obtain ⟨known, hknown⟩ := Option.isSome_iff_exists.mp hk
      rw [← he, hknown, Option.some_or]
    · rw [Option.or_none]
  · exact get?_concat k key value other

/-- Entries whose keys are all different stay as they are. -/
theorem putAll_of_nodup {k entries : Keyed α}
    (h : ((k ++ entries).map (·.1)).Nodup) : k.putAll entries = k ++ entries := by
  induction entries generalizing k with
  | nil => exact (List.append_nil k).symm
  | cons e rest ih =>
    have hnew : k.has e.1 = false := by
      rw [has, List.any_eq_false]
      intro f hf he
      rw [List.map_append, List.map_cons, List.nodup_append] at h
      exact h.2.2 f.1 (List.mem_map_of_mem hf) e.1 List.mem_cons_self (beq_iff_eq.mp he)
    have hput : k.put e.1 e.2 = k ++ [e] := by
      rw [put, hnew, if_neg Bool.false_ne_true]
    have hrest : k ++ e :: rest = k ++ [e] ++ rest := by simp
    rw [hrest] at h ⊢
    rw [← ih h, ← hput]
    rfl

/-! ### Gathering -/

theorem keys_put (k : Keyed α) (key : String) (value : α) :
    (k.put key value).keys = if k.has key then k.keys else k.keys ++ [key] := by
  unfold put keys
  split
  · rw [List.map_map]
    refine List.map_congr_left fun entry _ => ?_
    by_cases he : entry.1 = key <;> simp [he]
  · rw [List.map_append, List.map_singleton]

theorem has_iff {k : Keyed α} {key : String} : k.has key = true ↔ key ∈ k.keys := by
  simp [has, keys]

/-- A value that joins those under its key joins all values. -/
theorem values_put {k : Keyed (List α)} (distinct : k.keys.Nodup) (key : String) (value : α) :
    ((k.put key ((k.get? key).getD [] ++ [value])).flatMap Prod.snd).Perm
      (k.flatMap Prod.snd ++ [value]) := by
  by_cases hhas : k.has key = true
  · obtain ⟨entry, hentry, rfl⟩ := List.mem_map.mp (has_iff.mp hhas)
    have hfound : k.get? entry.1 = some entry.2 := by
      rw [get?, find?_key distinct hentry, Option.map_some]
    obtain ⟨before, after, rfl⟩ := List.append_of_mem hentry
    rw [keys, List.map_append, List.map_cons, List.nodup_middle, List.nodup_cons,
      List.mem_append, not_or] at distinct
    have hsame : ∀ part : Keyed (List α), entry.1 ∉ part.map (·.1) → ∀ values,
        part.map (fun e => if e.1 == entry.1 then (entry.1, values) else e) = part := by
      intro part hpart values
      refine (List.map_congr_left fun e he => if_neg ?_).trans (List.map_id part)
      exact fun hkey => hpart (List.mem_map.mpr ⟨e, he, beq_iff_eq.mp hkey⟩)
    rw [put, if_pos hhas, hfound, List.map_append, List.map_cons, hsame _ distinct.1.1,
      hsame _ distinct.1.2, if_pos (beq_self_eq_true _)]
    simp only [List.flatMap_append, List.flatMap_cons, Option.getD_some, List.append_assoc]
    exact .append_left _ (.append_left _ List.perm_append_comm)
  · have hnone : k.get? key = none := by
      rwa [has_eq, Bool.not_eq_true, Option.isSome_eq_false_iff, Option.isNone_iff_eq_none] at hhas
    rw [put, if_neg hhas, hnone, List.flatMap_append, List.flatMap_singleton]
    rfl

variable {entries : List (String × α)}

theorem gather_concat (entries : List (String × α)) (e : String × α) :
    gather (entries ++ [e]) =
      (gather entries).put e.1 (((gather entries).get? e.1).getD [] ++ [e.2]) :=
  List.foldl_concat _ _ _ _

theorem mem_keys_gather {key : String} : key ∈ (gather entries).keys ↔ key ∈ entries.map (·.1) := by
  induction entries using List.reverseRecOn with
  | nil => rfl
  | append_singleton entries e ih =>
    rw [gather_concat, keys_put, List.map_append, List.mem_append, ← ih, List.map_singleton,
      List.mem_singleton]
    split
    · rename_i hhas
      exact ⟨.inl, fun h => h.elim (fun hk => hk) fun he => he ▸ has_iff.mp hhas⟩
    · rw [List.mem_append, List.mem_singleton]

theorem keys_gather_nodup (entries : List (String × α)) : (gather entries).keys.Nodup := by
  induction entries using List.reverseRecOn with
  | nil => exact List.nodup_nil
  | append_singleton entries e ih =>
    rw [gather_concat, keys_put]
    split
    · exact ih
    · rename_i hnew
      exact ih.append (List.nodup_singleton _)
        (List.disjoint_singleton.mpr fun hk => hnew (has_iff.mpr hk))

/-- Every value stands under its key once. -/
theorem values_gather (entries : List (String × α)) :
    ((gather entries).flatMap Prod.snd).Perm (entries.map Prod.snd) := by
  induction entries using List.reverseRecOn with
  | nil => exact .nil
  | append_singleton entries e ih =>
    rw [gather_concat, List.map_append, List.map_singleton]
    exact (values_put (keys_gather_nodup entries) e.1 e.2).trans (ih.append_right _)

end DocAtlas.Keyed
