import DocAtlas.Naming
import DocAtlas.Proofs.Splitting

/-!
The shape of slugs and of the ids that are made of them: runs of small letters and digits joined by
single hyphens.
-/
namespace DocAtlas.Text

namespace Slug

def IsRun (run : List Char) : Prop := run ≠ [] ∧ ∀ c ∈ run, isPlain c = true

/-- Runs joined by single hyphens; there may be none. -/
def Joined (s : List Char) : Prop := ∃ runs, (∀ run ∈ runs, IsRun run) ∧ s = join ['-'] runs

/-- The characters of slugs. -/
def IsMark (c : Char) : Prop := isPlain c = true ∨ c = '-'

theorem Joined.marks {s : List Char} (h : Joined s) : ∀ c ∈ s, IsMark c := by
  obtain ⟨runs, hruns, rfl⟩ := h
  induction runs with
  | nil => simp [join]
  | cons run rest ih =>
    rw [List.forall_mem_cons] at hruns
    have hrun : ∀ c ∈ run, IsMark c := fun c hc => .inl (hruns.1.2 c hc)
    cases rest with
    | nil => simpa [join] using hrun
    | cons next rest =>
      rw [join_cons_cons, List.forall_mem_append, List.forall_mem_append]
      exact ⟨⟨hrun, by simp [IsMark]⟩, ih hruns.2⟩

theorem hyphenate_joined (s : List Char) : Joined (hyphenate s) := by
  refine ⟨_, ?_, rfl⟩
  intro run hrun
  obtain ⟨hpiece, hne⟩ := List.mem_filter.mp hrun
  refine ⟨by simpa using hne, fun c hc => ?_⟩
  simpa using not_of_mem_splitWhere hpiece c hc

theorem hyphenate_of_joined {s : List Char} (h : Joined s) : hyphenate s = s := by
  obtain ⟨runs, hruns, rfl⟩ := h
  cases runs with
  | nil => rfl
  | cons run rest =>
    have hsplit : splitWhere (!isPlain ·) (join ['-'] (run :: rest)) = run :: rest :=
      splitWhere_join (by decide) (List.cons_ne_nil run rest) fun piece hp c hc => by
        simp [(hruns piece hp).2 c hc]
    have hkept : (run :: rest).filter (!·.isEmpty) = run :: rest :=
      List.filter_eq_self.mpr fun piece hp => by simpa using (hruns piece hp).1
    rw [hyphenate, hsplit, hkept]

theorem IsMark.bound {c : Char} (h : IsMark c) : c.toNat < 128 := by
  rcases h with h | rfl
  · simp only [isPlain, Bool.or_eq_true, Bool.and_eq_true, decide_eq_true_eq, Char.le_def,
      UInt32.le_iff_toNat_le] at h
    change c.val.toNat < 128
    have hz : ('z' : Char).val.toNat = 122 := rfl
    have hnine : ('9' : Char).val.toNat = 57 := rfl
    omega
  · decide

theorem IsMark.not_upper {c : Char} (h : IsMark c) : Case.isAsciiUpper c = false := by
  rcases h with h | rfl
  · simp only [isPlain, Case.isAsciiUpper, Bool.or_eq_true, Bool.and_eq_true, decide_eq_true_eq,
      Char.le_def, UInt32.le_iff_toNat_le, Bool.and_eq_false_iff, decide_eq_false_iff_not] at h ⊢
    have hZ : ('Z' : Char).val.toNat = 90 := rfl
    have ha : ('a' : Char).val.toNat = 97 := rfl
    have hA : ('A' : Char).val.toNat = 65 := rfl
    have hnine : ('9' : Char).val.toNat = 57 := rfl
    omega
  · decide

theorem spaceWords_of_marks {s : List Char} (h : ∀ c ∈ s, IsMark c) : spaceWords s = s := by
  induction s with
  | nil => rfl
  | cons c rest ih =>
    rw [List.forall_mem_cons] at h
    have hstarts : startsWord c rest = false := by
      cases rest with
      | nil => rfl
      | cons next after => simp [startsWord, (h.2 next List.mem_cons_self).not_upper]
    rw [spaceWords, hstarts, if_neg Bool.false_ne_true, ih h.2]

theorem lower_of_marks {s : List Char} (h : ∀ c ∈ s, IsMark c) : Case.lower s = s := by
  have hsigma : s.any (·.toNat == 0x3A3) = false := by
    rw [List.any_eq_false]
    intro c hc he
    have hbound := (h c hc).bound
    rw [beq_iff_eq] at he
    omega
  have hone : ∀ c ∈ s, Case.lowerChar c = [c] := by
    intro c hc
    rw [Case.lowerChar, if_pos (h c hc).bound, Case.lowerAscii, (h c hc).not_upper,
      if_neg Bool.false_ne_true]
  rw [Case.lower, hsigma, if_neg Bool.false_ne_true, List.flatMap_def, List.map_congr_left hone,
    ← List.flatMap_def, List.flatMap_singleton']

theorem ofChars_joined (s : List Char) : Joined (ofChars s) := hyphenate_joined _

theorem ofChars_of_joined {s : List Char} (h : Joined s) : ofChars s = s := by
  rw [ofChars, spaceWords_of_marks h.marks, lower_of_marks h.marks, hyphenate_of_joined h]

end Slug

/-! ### Numbers -/

theorem plain_number (n : Nat) : ∀ c ∈ (toString n).toList, Slug.isPlain c = true := by
  intro c hc
  change c ∈ n.repr.toList at hc
  rw [Nat.toList_repr] at hc
  have hdigit := Nat.isDigit_of_mem_toDigits (by decide) (by decide) hc
  simp only [Char.isDigit, Bool.and_eq_true, decide_eq_true_eq] at hdigit
  simp only [Slug.isPlain, Bool.or_eq_true, Bool.and_eq_true, decide_eq_true_eq]
  exact .inr hdigit

theorem number_injective {m n : Nat} (h : toString m = toString n) : m = n := by
  have hdigits : Nat.toDigits 10 m = Nat.toDigits 10 n := by
    rw [← Nat.toList_repr, ← Nat.toList_repr]
    exact congrArg String.toList h
  rw [← Nat.ofDigitChars_ten_toDigits (n := m), hdigits, Nat.ofDigitChars_ten_toDigits]

end DocAtlas.Text

namespace DocAtlas
open Text Slug

theorem slug_slug (s : String) : slug (slug s) = slug s := by
  rw [slug, slug, String.toList_ofList, ofChars_of_joined (ofChars_joined s.toList)]

/-- At least one run of small letters and digits, single hyphens between them. -/
def IsKebab (s : String) : Prop :=
  ∃ runs, runs ≠ [] ∧ (∀ run ∈ runs, IsRun run) ∧ s.toList = join ['-'] runs

theorem slug_kebab {s : String} (h : slug s ≠ "") : IsKebab (slug s) := by
  obtain ⟨runs, hruns, he⟩ := ofChars_joined s.toList
  have hlist : (slug s).toList = join ['-'] runs := by rw [slug, String.toList_ofList, he]
  refine ⟨runs, ?_, hruns, hlist⟩
  rintro rfl
  exact h (String.toList_inj.mp hlist)

theorem IsKebab.append {a b : String} (ha : IsKebab a) (hb : IsKebab b) :
    IsKebab (a ++ "-" ++ b) := by
  obtain ⟨as, hnas, has, hla⟩ := ha
  obtain ⟨bs, hnbs, hbs, hlb⟩ := hb
  refine ⟨as ++ bs, by simp [hnas], ?_, ?_⟩
  · exact List.forall_mem_append.mpr ⟨has, hbs⟩
  · rw [String.toList_append, String.toList_append, hla, hlb, join_append _ hnas hnbs]
    rfl

theorem componentId_kebab (path name : String) :
    componentId path name = "" ∨ IsKebab (componentId path name) := by
  have hslug : ∀ s, slug s = "" ∨ IsKebab (slug s) := fun s => or_iff_not_imp_left.mpr slug_kebab
  have hfile := hslug (String.ofList (replaceChar '/' '-' (Path.stem path).toList))
  have hown := hslug name
  unfold componentId
  generalize slug (String.ofList (replaceChar '/' '-' (Path.stem path).toList)) = file at hfile ⊢
  generalize slug name = own at hown ⊢
  dsimp only
  split
  · split
    · exact hown
    · exact hfile
  · rename_i hnew
    split
    · exact hown
    · rename_i hsome
      have hf : IsKebab file := hfile.resolve_left fun he => hsome (by simp [he])
      have ho : IsKebab own := hown.resolve_left fun he => hnew (by simp [he])
      exact .inr (hf.append ho)

/-! ### Texts of ids -/

/-- Small letters, digits and hyphens only. -/
def IsIdText (s : String) : Prop := ∀ c ∈ s.toList, IsMark c

instance (s : String) : Decidable (IsIdText s) :=
  decidable_of_iff (s.toList.all fun c => isPlain c || c == '-') (by simp [IsIdText, IsMark])

theorem IsKebab.idText {s : String} (h : IsKebab s) : IsIdText s := by
  obtain ⟨runs, -, hruns, hs⟩ := h
  exact Joined.marks ⟨runs, hruns, hs⟩

theorem componentId_idText (path name : String) : IsIdText (componentId path name) := by
  rcases componentId_kebab path name with he | hk
  · rw [he]
    exact List.forall_mem_nil _
  · exact hk.idText

theorem IsIdText.append {a b : String} (ha : IsIdText a) (hb : IsIdText b) : IsIdText (a ++ b) := by
  intro c hc
  rw [String.toList_append] at hc
  exact (List.mem_append.mp hc).elim (ha c) (hb c)

theorem idText_hyphen : IsIdText "-" := by
  intro c hc
  exact .inr (List.mem_singleton.mp hc)

theorem idText_number (n : Nat) : IsIdText (toString n) := fun c hc => .inl (plain_number n c hc)

end DocAtlas
