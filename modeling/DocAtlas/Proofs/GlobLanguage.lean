import DocAtlas.Scan.Rule
import Mathlib.Computability.Language

/-!
The texts that a glob pattern stands for. A pattern is read from left to right, the longest wildcard
first; one without brackets compiles to items that accept these texts and no others.
-/
namespace DocAtlas.Glob

/-! ### Characters that stand for themselves -/

theorem expandFrom_plain {c : Char} (hc : Scan.isWildcard c = false) (fuel : Nat) (rest : List Char) :
    expandFrom (fuel + 1) (c :: rest) = escape c ++ expandFrom fuel rest := by
  simp only [Scan.isWildcard, Bool.or_eq_false_iff, beq_eq_false_iff_ne, ne_eq] at hc
  obtain ⟨⟨hs, hq⟩, hb⟩ := hc
  rw [expandFrom]
  all_goals simp_all

theorem expandFrom_append {literal : List Char} (hl : ∀ c ∈ literal, Scan.isWildcard c = false)
    (fuel : Nat) (rest : List Char) :
    expandFrom (literal.length + fuel) (literal ++ rest) =
      literal.flatMap escape ++ expandFrom fuel rest := by
  induction literal with
  | nil => simp
  | cons c literal ih =>
    have ht := ih (fun d hd => hl d (List.mem_cons_of_mem _ hd))
    rw [List.length_cons, Nat.add_right_comm, List.cons_append,
      expandFrom_plain (hl c List.mem_cons_self), ht, List.flatMap_cons, List.append_assoc]

/-- A character that was escaped is read back as itself. -/
theorem readItems_escape (total fuel : Nat) (c : Char) (s : List Char) :
    readItems total (fuel + 1) (escape c ++ s) =
      (readItems total fuel s).map (Item.one (.only c) :: ·) := by
  unfold escape
  split
  · rfl
  · rename_i hc
    have hn : ∀ d ∈ special, c ≠ d := by
      intro d hd he
      exact hc (List.contains_iff_mem.mpr (he ▸ hd))
    have hp := hn '(' (by decide)
    have hd := hn '.' (by decide)
    have hb := hn '\\' (by decide)
    have ho := hn '[' (by decide)
    simp only [List.singleton_append]
    rw [readItems]
    · rfl
    all_goals simp_all

theorem readItems_literal {total fuel : Nat} {literal s : List Char} {items : List Item}
    (hf : literal.length ≤ fuel)
    (hr : readItems total fuel (literal.flatMap escape ++ s) = .ok items) :
    ∃ rest, items = literal.map (fun c => Item.one (.only c)) ++ rest := by
  induction literal generalizing fuel items with
  | nil => exact ⟨items, rfl⟩
  | cons c literal ih =>
    cases fuel with
    | zero => simp at hf
    | succ fuel =>
      rw [List.flatMap_cons, List.append_assoc, readItems_escape] at hr
      cases ht : readItems total fuel (literal.flatMap escape ++ s) with
      | error fault => simp [ht, Except.map] at hr
      | ok tail =>
        simp only [ht, Except.map, Except.ok.injEq] at hr
        obtain ⟨rest, he⟩ := ih (by simpa using hf) ht
        exact ⟨rest, by rw [← hr, he, List.map_cons, List.cons_append]⟩

theorem length_le_escape (literal : List Char) :
    literal.length ≤ (literal.flatMap escape).length := by
  induction literal with
  | nil => simp
  | cons c literal ih =>
    have hc : 1 ≤ (escape c).length := by unfold escape; split <;> simp
    simp only [List.flatMap_cons, List.length_append, List.length_cons]
    omega

/-- What a pattern has before its first wildcard is matched character by character. -/
theorem compile_literal {literal rest : List Char} {items : List Item}
    (hl : ∀ c ∈ literal, Scan.isWildcard c = false) (hc : compile (literal ++ rest) = .ok items) :
    ∃ more, items = literal.map (fun c => Item.one (.only c)) ++ more := by
  unfold compile expand at hc
  rw [List.length_append, expandFrom_append hl] at hc
  apply readItems_literal ?_ hc
  exact Nat.le_trans (length_le_escape literal) (by simp)

theorem isPrefix_of_accepts {literal s : List Char} {more : List Item}
    (ha : accepts (literal.map (fun c => Item.one (.only c)) ++ more) s = true) :
    literal <+: s := by
  induction literal generalizing s with
  | nil => exact List.nil_prefix
  | cons c literal ih =>
    cases s with
    | nil => simp [accepts] at ha
    | cons d s =>
      simp only [List.map_cons, List.cons_append, accepts, Class.has, Bool.and_eq_true,
        beq_iff_eq] at ha
      obtain ⟨hd, ht⟩ := ha
      rw [hd]
      exact List.cons_prefix_cons.mpr ⟨rfl, ih ht⟩

/-! ### What items accept -/

/-- Nothing, or a way through directories. -/
def directoryTexts : Language Char := {s | s = [] ∨ '\n' ∉ s ∧ s.getLast? = some '/'}

/-- The texts that an item matches by itself. -/
def Item.texts : Item → Language Char
  | .one k => {s | ∃ c, k.has c = true ∧ s = [c]}
  | .many k => {s | ∀ c ∈ s, k.has c = true}
  | .directories => directoryTexts

/-- The texts that match the items. -/
def accepted (items : List Item) : Language Char := {s | accepts items s = true}

theorem mem_accepted {items : List Item} {s : List Char} :
    s ∈ accepted items ↔ accepts items s = true := Iff.rfl

theorem accepted_nil : accepted [] = 1 := by
  ext s
  rw [mem_accepted, accepts, List.isEmpty_iff, Language.mem_one]

theorem accepted_one (k : Class) (items : List Item) :
    accepted (.one k :: items) = Item.texts (.one k) * accepted items := by
  ext s
  rw [mem_accepted, Language.mem_mul]
  constructor
  · intro h
    cases s with
    | nil => simp [accepts] at h
    | cons c rest =>
      simp only [accepts, Bool.and_eq_true] at h
      exact ⟨[c], ⟨c, h.1, rfl⟩, rest, h.2, rfl⟩
  · rintro ⟨_, ⟨c, hc, rfl⟩, rest, hrest, rfl⟩
    simp only [List.singleton_append, accepts, hc, Bool.true_and]
    exact hrest

/-- The items go on behind as many characters of the class as are taken. -/
theorem accepts_many {k : Class} {items : List Item} {s : List Char} :
    accepts (.many k :: items) s = true ↔
      ∃ front rest, (∀ c ∈ front, k.has c = true) ∧ accepts items rest = true ∧
        front ++ rest = s := by
  induction s with
  | nil =>
    simp only [accepts, Bool.or_false, List.append_eq_nil_iff]
    constructor
    · intro h
      exact ⟨[], [], by simp, h, rfl, rfl⟩
    · rintro ⟨_, _, -, h, rfl, rfl⟩
      exact h
  | cons c s ih =>
    simp only [accepts, Bool.or_eq_true, Bool.and_eq_true, ih]
    constructor
    · rintro (h | ⟨hc, front, rest, hfront, hrest, rfl⟩)
      · exact ⟨[], c :: s, by simp, h, rfl⟩
      · exact ⟨c :: front, rest, List.forall_mem_cons.mpr ⟨hc, hfront⟩, hrest, rfl⟩
    · rintro ⟨front, rest, hfront, hrest, he⟩
      cases front with
      | nil =>
        left
        rwa [← he]
      | cons d front =>
        rw [List.forall_mem_cons] at hfront
        obtain ⟨rfl, rfl⟩ := List.cons.inj he
        exact .inr ⟨hfront.1, front, rest, hfront.2, hrest, rfl⟩

theorem accepted_many (k : Class) (items : List Item) :
    accepted (.many k :: items) = Item.texts (.many k) * accepted items := by
  ext s
  rw [mem_accepted, accepts_many, Language.mem_mul]
  constructor
  · rintro ⟨front, rest, hfront, hrest, he⟩
    exact ⟨front, hfront, rest, hrest, he⟩
  · rintro ⟨front, hfront, rest, hrest, he⟩
    exact ⟨front, rest, hfront, hrest, he⟩

theorem accepted_directories (items : List Item) :
    accepted (.directories :: items) = Item.texts .directories * accepted items := by
  ext s
  rw [mem_accepted, Language.mem_mul, accepts, Bool.or_eq_true, List.any_eq_true]
  constructor
  · rintro (h | ⟨n, -, h⟩)
    · exact ⟨[], .inl rfl, s, h, rfl⟩
    · simp only [Bool.and_eq_true, beq_iff_eq, List.all_eq_true, bne_iff_ne] at h
      obtain ⟨⟨hslash, hbreak⟩, hrest⟩ := h
      refine ⟨s.take n ++ ['/'], .inr ⟨?_, List.getLast?_concat⟩, s.drop (n + 1), hrest, ?_⟩
      · intro hm
        rcases List.mem_append.mp hm with hm | hm
        · exact hbreak _ hm rfl
        · simp at hm
      · obtain ⟨hn, he⟩ := List.getElem?_eq_some_iff.mp hslash
        rw [List.append_assoc, List.singleton_append, ← he, ← List.drop_eq_getElem_cons hn,
          List.take_append_drop]
  · rintro ⟨front, rfl | ⟨hbreak, hlast⟩, rest, hrest, rfl⟩
    · exact .inl hrest
    · obtain ⟨name, rfl⟩ := List.getLast?_eq_some_iff.mp hlast
      have hname : ∀ c ∈ name, c ≠ '\n' := fun c hc he =>
        hbreak (List.mem_append_left _ (he ▸ hc))
      have hdrop : (name ++ ['/'] ++ rest).drop (name.length + 1) = rest :=
        List.drop_left' (by simp)
      right
      refine ⟨name.length, by simp, ?_⟩
      simp only [Bool.and_eq_true, beq_iff_eq, List.all_eq_true, bne_iff_ne, hdrop]
      refine ⟨⟨by simp, ?_⟩, hrest⟩
      rw [List.append_assoc, List.take_left]
      exact hname

/-- A text matches items if it is one text of each, in their order. -/
theorem accepted_cons (item : Item) (items : List Item) :
    accepted (item :: items) = item.texts * accepted items := by
  cases item with
  | one k => exact accepted_one k items
  | many k => exact accepted_many k items
  | directories => exact accepted_directories items

/-! ### The texts of a pattern -/

/-- The texts on one line. -/
def lineTexts : Language Char := {s | '\n' ∉ s}

/-- The texts within one segment. -/
def nameTexts : Language Char := {s | '/' ∉ s}

def nameCharTexts : Language Char := {s | ∃ c, c ≠ '/' ∧ s = [c]}

/-- The texts that a pattern without brackets stands for. -/
def language : List Char → Language Char
  | [] => 1
  | '*' :: '*' :: '/' :: rest => directoryTexts * language rest
  | '*' :: '*' :: rest => lineTexts * language rest
  | '*' :: rest => nameTexts * language rest
  | '?' :: rest => nameCharTexts * language rest
  | c :: rest => {[c]} * language rest

/-- The class of all characters but the slash. -/
def nameClass : Class := .set true [('/', '/')]

theorem nameClass_has (c : Char) : nameClass.has c = true ↔ c ≠ '/' := by
  have hrange : ('/' ≤ c ∧ c ≤ '/') ↔ c = '/' :=
    ⟨fun h => Char.le_antisymm h.2 h.1, fun h => h ▸ ⟨Char.le_refl _, Char.le_refl _⟩⟩
  simp only [nameClass, Class.has, List.any_cons, List.any_nil, Bool.or_false, bne_iff_ne, ne_eq,
    Bool.and_eq_true, decide_eq_true_eq, hrange]

theorem texts_lines : Item.texts (.many .anyButBreak) = lineTexts := by
  ext s
  change (∀ c ∈ s, (c != '\n') = true) ↔ '\n' ∉ s
  simp only [bne_iff_ne, ne_eq]
  exact ⟨fun h hm => h _ hm rfl, fun h c hc he => h (he ▸ hc)⟩

theorem texts_names : Item.texts (.many nameClass) = nameTexts := by
  ext s
  change (∀ c ∈ s, nameClass.has c = true) ↔ '/' ∉ s
  simp only [nameClass_has, ne_eq]
  exact ⟨fun h hm => h _ hm rfl, fun h c hc he => h (he ▸ hc)⟩

theorem texts_nameChars : Item.texts (.one nameClass) = nameCharTexts := by
  ext s
  change (∃ c, nameClass.has c = true ∧ s = [c]) ↔ ∃ c, c ≠ '/' ∧ s = [c]
  simp only [nameClass_has]

theorem texts_only (c : Char) : Item.texts (.one (.only c)) = {[c]} := by
  ext s
  change (∃ d, (d == c) = true ∧ s = [d]) ↔ s = [c]
  simp

/-! ### Reading an expansion -/

section

variable (total fuel : Nat) (s : List Char)

theorem readItems_anyDirectories :
    readItems total (fuel + 1) (anyDirectories ++ s) =
      (readItems total fuel s).map (Item.directories :: ·) := rfl

theorem readItems_anyText :
    readItems total (fuel + 1) (anyText ++ s) =
      (readItems total fuel s).map (Item.many .anyButBreak :: ·) := rfl

theorem readItems_anyName :
    readItems total (fuel + 1) (anyName ++ s) =
      (readItems total fuel s).map (Item.many nameClass :: ·) := rfl

end

theorem readItems_anyNameChar (total fuel : Nat) {s : List Char} (hs : s.head? ≠ some '*') :
    readItems total (fuel + 1) (anyNameChar ++ s) =
      (readItems total fuel s).map (Item.one nameClass :: ·) := by
  cases s with
  | nil => rfl
  | cons c s =>
    have hc : c ≠ '*' := by simpa using hs
    have hstart : anyNameChar ++ c :: s = '[' :: '^' :: '/' :: ']' :: c :: s := rfl
    have hset (start : Nat) : readSet total start (('/' :: ']' :: c :: s).length + 1) []
        ('/' :: ']' :: c :: s) = .ok ([('/', '/')], c :: s) := rfl
    rw [hstart, readItems]
    simp only [hset, bind, Except.bind]
    split
    · next he => exact absurd (List.cons.inj he).1 hc
    · rfl

/-- A character that the expansion of a piece begins with. -/
def Opens (c : Char) : Prop := c ∈ ['\\', '(', '.', '['] ∨ c ∉ special

instance (c : Char) : Decidable (Opens c) := inferInstanceAs (Decidable (_ ∨ _))

theorem head?_append_ne {d : Char} (hd : ¬Opens d) {start : List Char}
    (h : ∃ c ∈ start.head?, Opens c) (s : List Char) : (start ++ s).head? ≠ some d := by
  obtain ⟨c, hc, hopens⟩ := h
  obtain ⟨rest, rfl⟩ := List.head?_eq_some_iff.mp hc
  rw [List.cons_append, List.head?_cons, ne_eq, Option.some.injEq]
  rintro rfl
  exact hd hopens

theorem head?_escape (c : Char) : ∃ d ∈ (escape c).head?, Opens d := by
  unfold escape
  split
  · exact ⟨'\\', rfl, .inl (by decide)⟩
  · rename_i hc
    exact ⟨c, rfl, .inr fun hm => hc (List.contains_iff_mem.mpr hm)⟩

/-- No expansion begins with an asterisk, which would repeat what stands before it, or with a dash,
which would make a range of it. -/
theorem head?_expandFrom {d : Char} (hd : ¬Opens d) (fuel : Nat) (pattern : List Char) :
    (expandFrom fuel pattern).head? ≠ some d := by
  fun_cases expandFrom fuel pattern with
  | case1 => simp
  | case2 => simp
  | case3 => exact head?_append_ne hd ⟨'(', rfl, .inl (by decide)⟩ _
  | case4 => exact head?_append_ne hd ⟨'.', rfl, .inl (by decide)⟩ _
  | case5 => exact head?_append_ne hd ⟨'[', rfl, .inl (by decide)⟩ _
  | case6 => exact head?_append_ne hd ⟨'[', rfl, .inl (by decide)⟩ _
  | case7 => exact head?_append_ne hd ⟨'[', rfl, .inl (by decide)⟩ _
  | case8 => exact head?_append_ne hd (head?_escape '[') _
  | case9 _ c => exact head?_append_ne hd (head?_escape c) _

/-- An expansion is read as items that accept the texts of a language and no others. -/
def ReadsAs (expansion : List Char) (texts : Language Char) : Prop :=
  ∀ total fuel, expansion.length ≤ fuel →
    ∃ items, readItems total fuel expansion = .ok items ∧ accepted items = texts

theorem readsAs_nil : ReadsAs [] 1 := by
  intro total fuel _
  refine ⟨[], ?_, accepted_nil⟩
  cases fuel <;> rfl

/-- What is read as one item puts its texts before those of the rest. -/
theorem ReadsAs.cons {start rest : List Char} {item : Item} {texts : Language Char}
    (h : ReadsAs rest texts) (hstart : start ≠ [])
    (hread : ∀ total fuel, readItems total (fuel + 1) (start ++ rest) =
      (readItems total fuel rest).map (item :: ·)) :
    ReadsAs (start ++ rest) (item.texts * texts) := by
  intro total fuel hfuel
  have hpos := List.length_pos_of_ne_nil hstart
  rw [List.length_append] at hfuel
  obtain ⟨fuel, rfl⟩ : ∃ n, fuel = n + 1 := ⟨fuel - 1, by omega⟩
  obtain ⟨items, hitems, htexts⟩ := h total fuel (by omega)
  refine ⟨item :: items, ?_, ?_⟩
  · rw [hread, hitems]
    rfl
  · rw [accepted_cons, htexts]

/-- The expansion of a pattern is read as the texts that the pattern stands for. -/
theorem readsAs_expandFrom {pattern : List Char} (hp : '[' ∉ pattern) {fuel : Nat}
    (hf : pattern.length ≤ fuel) : ReadsAs (expandFrom fuel pattern) (language pattern) := by
  fun_induction expandFrom fuel pattern with
  | case1 pattern =>
    rw [List.length_eq_zero_iff.mp (Nat.le_zero.mp hf)]
    exact readsAs_nil
  | case2 => exact readsAs_nil
  | case3 fuel rest ih =>
    simp only [List.mem_cons, not_or, List.length_cons] at hp hf
    have hrest := ih hp.2.2.2 (by omega)
    rw [language]
    exact hrest.cons (by decide) fun total fuel => readItems_anyDirectories total fuel _
  | case4 fuel rest hway ih =>
    simp only [List.mem_cons, not_or, List.length_cons] at hp hf
    have hrest := ih hp.2.2 (by omega)
    rw [language, ← texts_lines]
    · exact hrest.cons (by decide) fun total fuel => readItems_anyText total fuel _
    · exact hway
  | case5 fuel rest hway hstars ih =>
    simp only [List.mem_cons, not_or, List.length_cons] at hp hf
    have hrest := ih hp.2 (by omega)
    rw [language, ← texts_names]
    · exact hrest.cons (by decide) fun total fuel => readItems_anyName total fuel _
    · exact hway
    · exact hstars
  | case6 fuel rest ih =>
    simp only [List.mem_cons, not_or, List.length_cons] at hp hf
    have hrest := ih hp.2 (by omega)
    rw [language, ← texts_nameChars]
    exact hrest.cons (by decide)
      fun total fuel => readItems_anyNameChar total fuel (head?_expandFrom (by decide) _ _)
  | case7 => exact absurd List.mem_cons_self hp
  | case8 => exact absurd List.mem_cons_self hp
  | case9 fuel c rest hway hstars hstar hmark hbracket ih =>
    simp only [List.mem_cons, not_or, List.length_cons] at hp hf
    have hrest := ih hp.2 (by omega)
    have hescape : escape c ≠ [] := by unfold escape; split <;> simp
    rw [language, ← texts_only]
    · exact hrest.cons hescape fun total fuel => readItems_escape total fuel c _
    all_goals assumption

/-- A pattern without brackets compiles, and its items accept what it stands for. -/
theorem exists_compile {pattern : List Char} (hp : '[' ∉ pattern) :
    ∃ items, compile pattern = .ok items ∧ accepted items = language pattern :=
  readsAs_expandFrom hp (Nat.le_refl _) _ _ (Nat.le_refl _)

end DocAtlas.Glob
