import DocAtlas.Text.Blank
import Mathlib.Data.List.DropRight
import Mathlib.Data.List.TakeWhile

/-!
Trimming of the blanks at the ends of a text.
-/
namespace DocAtlas.Text

/-! ### Blanks at the start -/

theorem trimStart_append (a b : List Char) :
    trimStart (a ++ b) = if (trimStart a).isEmpty then trimStart b else trimStart a ++ b :=
  List.dropWhile_append

theorem trimStart_eq_nil {s : List Char} : trimStart s = [] ↔ ∀ c ∈ s, isBlank c = true :=
  List.dropWhile_eq_nil_iff

theorem exists_blank_trimStart (s : List Char) :
    ∃ b, (∀ c ∈ b, isBlank c = true) ∧ s = b ++ trimStart s :=
  ⟨s.takeWhile isBlank, fun _ hc => List.mem_takeWhile_imp hc,
    List.takeWhile_append_dropWhile.symm⟩

theorem trimStart_suffix (s : List Char) : trimStart s <:+ s := List.dropWhile_suffix isBlank

theorem trimStart_of_cons {a : Char} (h : isBlank a = false) (s : List Char) :
    trimStart (a :: s) = a :: s := by
  simp [trimStart, h]

theorem isBlank_head {a : Char} {s : List Char} (h : trimStart (a :: s) = a :: s) :
    isBlank a = false := by
  have hhead : ¬isBlank a = true := List.dropWhile_eq_self_iff.mp h (Nat.succ_pos s.length)
  simpa using hhead

/-! ### Blanks at the end -/

theorem trimEnd_eq_nil {s : List Char} : trimEnd s = [] ↔ ∀ c ∈ s, isBlank c = true :=
  List.rdropWhile_eq_nil_iff

theorem exists_blank_trimEnd (s : List Char) :
    ∃ b, (∀ c ∈ b, isBlank c = true) ∧ s = trimEnd s ++ b := by
  obtain ⟨b, hb, he⟩ := exists_blank_trimStart s.reverse
  refine ⟨b.reverse, fun c hc => hb c (List.mem_reverse.mp hc), ?_⟩
  rw [trimEnd, ← List.reverse_append]
  exact (List.reverse_eq_iff.mp he)

theorem prefix_trimEnd (s : List Char) : trimEnd s <+: s := List.rdropWhile_prefix isBlank s

theorem trimEnd_append_blank (a : List Char) {b : List Char} (h : ∀ c ∈ b, isBlank c = true) :
    trimEnd (a ++ b) = trimEnd a := by
  have hb : b.reverse.dropWhile isBlank = [] :=
    List.dropWhile_eq_nil_iff.mpr fun c hc => h c (List.mem_reverse.mp hc)
  rw [trimEnd, List.reverse_append, List.dropWhile_append, hb]
  rfl

theorem trimEnd_append_of_ne (a : List Char) {b : List Char} (h : trimEnd b ≠ []) :
    trimEnd (a ++ b) = a ++ trimEnd b := by
  have hne : b.reverse.dropWhile isBlank ≠ [] := fun hb => h (by rw [trimEnd, hb]; rfl)
  rw [trimEnd, List.reverse_append, List.dropWhile_append, if_neg (by simpa using hne),
    List.reverse_append, List.reverse_reverse]
  rfl

theorem trimEnd_trimEnd (s : List Char) : trimEnd (trimEnd s) = trimEnd s :=
  List.rdropWhile_idempotent (p := isBlank) s

/-- Nothing is trimmed from a text that does not end with a blank. -/
theorem trimEnd_eq_self_iff {s : List Char} :
    trimEnd s = s ↔ ∀ c ∈ s.getLast?, isBlank c = false := by
  have hlast : trimEnd s = s ↔ ∀ h : s ≠ [], ¬isBlank (s.getLast h) = true :=
    List.rdropWhile_eq_self_iff
  rw [hlast]
  constructor
  · intro h c hc
    obtain ⟨front, rfl⟩ := List.getLast?_eq_some_iff.mp hc
    simpa using h (by simp)
  · intro h hne
    rw [h _ (List.getLast?_eq_getLast_of_ne_nil hne)]
    exact Bool.false_ne_true

/-- Trimming keeps every beginning that does not end with a blank. -/
theorem prefix_trimEnd_iff {s t : List Char} (h : trimEnd t = t) : t <+: trimEnd s ↔ t <+: s := by
  refine ⟨fun hp => hp.trans (prefix_trimEnd s), ?_⟩
  rintro ⟨rest, rfl⟩
  by_cases hrest : trimEnd rest = []
  · rw [trimEnd_append_blank t (trimEnd_eq_nil.mp hrest)]
    exact ⟨[], by rw [h, List.append_nil]⟩
  · rw [trimEnd_append_of_ne t hrest]
    exact List.prefix_append t _

theorem exists_trimEnd_cons {a : Char} (h : isBlank a = false) (s : List Char) :
    ∃ t, trimEnd (a :: s) = a :: t := by
  have ha : trimEnd [a] = [a] := trimEnd_eq_self_iff.mpr (by simpa using h)
  obtain ⟨t, ht⟩ := (prefix_trimEnd_iff ha).mpr (List.prefix_append [a] s)
  exact ⟨t, ht.symm⟩

/-! ### Blanks at both ends -/

theorem trim_isInfix (s : List Char) : trim s <:+: s :=
  (prefix_trimEnd _).isInfix.trans (trimStart_suffix s).isInfix

theorem trim_blank {s : List Char} (h : ∀ c ∈ s, isBlank c = true) : trim s = [] := by
  rw [trim, trimStart_eq_nil.mpr h]
  rfl

theorem trim_append_blank (a : List Char) {b : List Char} (h : ∀ c ∈ b, isBlank c = true) :
    trim (a ++ b) = trim a := by
  rw [trim, trim, trimStart_append]
  split
  · next ha => rw [trimStart_eq_nil.mpr h, List.isEmpty_iff.mp ha]
  · exact trimEnd_append_blank _ h

theorem trim_blank_append {b : List Char} (a : List Char) (h : ∀ c ∈ b, isBlank c = true) :
    trim (b ++ a) = trim a := by
  rw [trim, trimStart_append, trimStart_eq_nil.mpr h]
  rfl

theorem trimEnd_trim (s : List Char) : trimEnd (trim s) = trim s := trimEnd_trimEnd _

theorem trimStart_trim (s : List Char) : trimStart (trim s) = trim s := by
  have hsame : trimStart (trimStart s) = trimStart s := List.dropWhile_idempotent (p := isBlank) s
  cases hs : trimStart s with
  | nil =>
    rw [trim, hs]
    rfl
  | cons a rest =>
    have ha := isBlank_head (hs ▸ hsame)
    obtain ⟨t, ht⟩ := exists_trimEnd_cons ha rest
    rw [trim, hs, ht, trimStart_of_cons ha]

theorem trimStart_trimEnd (s : List Char) : trimStart (trimEnd s) = trim s := by
  obtain ⟨b, hb, he⟩ := exists_blank_trimStart s
  by_cases hs : trimEnd (trimStart s) = []
  · have hall : ∀ c ∈ s, isBlank c = true := by
      rw [he, List.forall_mem_append]
      exact ⟨hb, trimEnd_eq_nil.mp hs⟩
    rw [trimEnd_eq_nil.mpr hall, trim, hs]
    rfl
  · conv_lhs => rw [he]
    rw [trimEnd_append_of_ne b hs, trimStart_append, trimStart_eq_nil.mpr hb]
    exact trimStart_trim s

theorem trim_trimEnd (s : List Char) : trim (trimEnd s) = trim s := by
  rw [trim, trimStart_trimEnd, trimEnd_trim]

theorem trim_trim (s : List Char) : trim (trim s) = trim s := by
  rw [trim, trimStart_trim, trimEnd_trim]

end DocAtlas.Text
