import DocAtlas.Proofs.GlobLanguage

/-!
Which glob patterns can be read, and from which pieces of a pattern its items come. A bracket that
holds nothing leaves its set open for what follows; an open set ends with the next wildcard or the
next bracket.
-/
namespace DocAtlas.Glob

/-! ### Answers -/

/-- There is a result, and it is good, if the condition holds; else there is a fault. -/
inductive Answers {ε α : Type} (condition : Prop) (good : α → Prop) : Except ε α → Prop
  | ok {a : α} (holds : condition) (result : good a) : Answers condition good (.ok a)
  | error {e : ε} (fails : ¬condition) : Answers condition good (.error e)

namespace Answers

variable {ε α β : Type} {condition condition' : Prop} {good : α → Prop} {r : Except ε α}

theorem imp (h : Answers condition good r) {good' : α → Prop} (hc : condition ↔ condition')
    (hg : ∀ a, good a → good' a) : Answers condition' good' r := by
  cases h with
  | ok holds result => exact .ok (hc.mp holds) (hg _ result)
  | error fails => exact .error (mt hc.mpr fails)

theorem map (h : Answers condition good r) {good' : β → Prop} {f : α → β}
    (hc : condition ↔ condition') (hg : ∀ a, good a → good' (f a)) :
    Answers condition' good' (r.map f) := by
  cases h with
  | ok holds result => exact .ok (hc.mp holds) (hg _ result)
  | error fails => exact .error (mt hc.mpr fails)

theorem exists_ok_iff (h : Answers condition good r) : (∃ a, r = .ok a) ↔ condition := by
  cases h with
  | ok holds _ => exact iff_of_true ⟨_, rfl⟩ holds
  | error fails => exact iff_of_false (fun ⟨_, he⟩ => by cases he) fails

theorem good_of_ok (h : Answers condition good r) {a : α} (ha : r = .ok a) : good a := by
  cases h with
  | ok _ result => exact Except.ok.inj ha ▸ result
  | error _ => cases ha

end Answers

/-! ### Sets -/

/-- What a bracket says in an expansion. -/
def caret : List Char → List Char
  | '!' :: rest => '^' :: rest
  | body => body

/-- What a bracket holds, without the sign that negates it. -/
def members : List Char → List Char
  | '!' :: rest => rest
  | '^' :: rest => rest
  | body => body

/-- Every range runs upwards. -/
def Ascending : List Char → Prop
  | low :: '-' :: high :: rest => low ≤ high ∧ Ascending rest
  | _ :: rest => Ascending rest
  | [] => True

def ranges : List Char → List (Char × Char)
  | low :: '-' :: high :: rest => (low, high) :: ranges rest
  | c :: rest => (c, c) :: ranges rest
  | [] => []

theorem bracket_eq (body : List Char) : bracket body = '[' :: caret body ++ [']'] := by
  unfold bracket
  fun_cases caret body with
  | case1 rest => rfl
  | case2 body => simp

section

variable {total start fuel : Nat} {seen : List (Char × Char)} {s : List Char}

theorem member_plain {c : Char} (hc : c ≠ '\\') : member (c :: s) = some ([c], c, s) := by
  unfold member
  split
  · contradiction
  · rename_i he
    exact absurd (List.cons.inj he).1 hc
  · rename_i he
    obtain ⟨rfl, rfl⟩ := List.cons.inj he
    rfl

theorem readSet_close (hseen : seen ≠ []) :
    readSet total start (fuel + 1) seen (']' :: s) = .ok (seen, s) := by
  rw [readSet, member_plain (by decide)]
  simp [hseen]

/-- One more member of a set, as it is written. -/
theorem readSet_single {written : List Char} {c : Char}
    (hmember : member (written ++ s) = some (written, c, s)) (hopen : written ≠ [']'] ∨ seen = [])
    (hs : s.head? ≠ some '-') :
    readSet total start (fuel + 1) seen (written ++ s) =
      readSet total start fuel (seen ++ [(c, c)]) s := by
  have hgoes : ¬(written == [']'] && !seen.isEmpty) = true := by
    rw [Bool.and_eq_true, beq_iff_eq, Bool.not_eq_true', List.isEmpty_eq_false_iff]
    rintro ⟨hclose, hseen⟩
    exact hopen.elim (· hclose) hseen
  rw [readSet, hmember]
  dsimp only
  rw [if_neg hgoes]
  split
  · exact absurd rfl hs
  · rfl

variable (total start fuel seen s) in
theorem readSet_range {low high : Char} (hlow : low ≠ '\\' ∧ low ≠ ']')
    (hhigh : high ≠ '\\' ∧ high ≠ ']') :
    ∃ fault, readSet total start (fuel + 1) seen (low :: '-' :: high :: s) =
      if high < low then .error fault else readSet total start fuel (seen ++ [(low, high)]) s := by
  rw [readSet, member_plain hlow.1]
  simp only [member_plain hhigh.1, List.cons_beq_cons, beq_eq_false_iff_ne.mpr hlow.2,
    beq_eq_false_iff_ne.mpr hhigh.2, Bool.false_and, Bool.false_eq_true, if_false]
  exact ⟨_, rfl⟩

theorem readSet_dash {low : Char} (hlow : low ≠ '\\' ∧ low ≠ ']') :
    readSet total start (fuel + 1) seen (low :: '-' :: ']' :: s) =
      .ok (seen ++ [(low, low), ('-', '-')], s) := by
  rw [readSet, member_plain hlow.1]
  simp [member_plain, hlow.2]

/-- Members that a set has anyway are read one by one. -/
theorem readSet_singles {text : List Char} (htext : ∀ c ∈ text, c ≠ '\\' ∧ c ≠ ']' ∧ c ≠ '-')
    (hs : s.head? ≠ some '-') :
    readSet total start (fuel + text.length) seen (text ++ s) =
      readSet total start fuel (seen ++ text.map fun c => (c, c)) s := by
  induction text generalizing seen with
  | nil => simp
  | cons c rest ih =>
    rw [List.forall_mem_cons] at htext
    obtain ⟨⟨hescape, hclose, -⟩, hrest⟩ := htext
    have hnext : (rest ++ s).head? ≠ some '-' := by
      cases rest with
      | nil => exact hs
      | cons d rest => simpa using (hrest d List.mem_cons_self).2.2
    have hone : readSet total start (fuel + rest.length + 1) seen ([c] ++ (rest ++ s)) =
        readSet total start (fuel + rest.length) (seen ++ [(c, c)]) (rest ++ s) :=
      readSet_single (member_plain hescape) (.inl (by simpa using hclose)) hnext
    rw [List.length_cons, ← Nat.add_assoc, List.cons_append]
    exact hone.trans (by rw [ih hrest, List.map_cons, List.append_assoc, List.singleton_append])

/-- Only a range, or a dash that is the last member, goes on with a dash. -/
theorem head?_ne_dash {rest : List Char} (last : rest ≠ ['-'])
    (range : ∀ high more, rest = '-' :: high :: more → False) :
    (rest ++ ']' :: s).head? ≠ some '-' := by
  cases rest with
  | nil => simp
  | cons d rest =>
    rw [List.cons_append, List.head?_cons, ne_eq, Option.some.injEq]
    rintro rfl
    cases rest with
    | nil => exact last rfl
    | cons high more => exact range high more rfl

variable (total start s) in
/-- A set is read to the bracket that closes it, unless a range runs downwards. -/
theorem answers_readSet {text : List Char} (htext : ∀ c ∈ text, c ≠ '\\' ∧ c ≠ ']')
    (hne : seen ≠ [] ∨ text ≠ []) (hfuel : text.length < fuel) :
    Answers (Ascending text) (· = (seen ++ ranges text, s))
      (readSet total start fuel seen (text ++ ']' :: s)) := by
  fun_induction ranges text generalizing seen fuel with
  | case1 low high rest ih =>
    simp only [List.forall_mem_cons] at htext
    obtain ⟨hlow, -, hhigh, hrest⟩ := htext
    obtain ⟨fuel, rfl⟩ : ∃ n, fuel = n + 1 := ⟨fuel - 1, by omega⟩
    obtain ⟨fault, hread⟩ := readSet_range total start fuel seen (rest ++ ']' :: s) hlow hhigh
    simp only [List.length_cons] at hfuel
    rw [List.cons_append, List.cons_append, List.cons_append, hread]
    by_cases hdown : high < low
    · rw [if_pos hdown]
      exact .error fun h => absurd hdown (Char.not_lt.mpr h.1)
    · rw [if_neg hdown]
      refine (ih hrest (.inl (by simp)) (by omega)).imp ?_ ?_
      · exact (and_iff_right (Char.not_lt.mp hdown)).symm
      · rintro _ rfl
        rw [List.append_assoc, List.singleton_append]
  | case2 c rest hrange ih =>
    rw [List.forall_mem_cons] at htext
    obtain ⟨⟨hescape, hclose⟩, hrest⟩ := htext
    obtain ⟨fuel, rfl⟩ : ∃ n, fuel = n + 1 := ⟨fuel - 1, by omega⟩
    by_cases hdash : rest = ['-']
    · -- A dash before the closing bracket is a member by itself.
      obtain rfl := hdash
      rw [List.cons_append, List.singleton_append, readSet_dash ⟨hescape, hclose⟩]
      exact .ok trivial rfl
    · have hone : readSet total start (fuel + 1) seen ([c] ++ (rest ++ ']' :: s)) =
          readSet total start fuel (seen ++ [(c, c)]) (rest ++ ']' :: s) :=
        readSet_single (member_plain hescape) (.inl (by simpa using hclose))
          (head?_ne_dash hdash hrange)
      rw [List.cons_append]
      refine hone ▸ (ih hrest (.inl (by simp)) (by simpa using hfuel)).imp ?_ ?_
      · rw [Ascending]
        exact hrange
      · rintro _ rfl
        rw [List.append_assoc, List.singleton_append]
  | case3 =>
    obtain ⟨fuel, rfl⟩ : ∃ n, fuel = n + 1 := ⟨fuel - 1, by omega⟩
    rw [List.nil_append, readSet_close (by simpa using hne), List.append_nil]
    exact .ok trivial rfl

end

/-- A character that was escaped is a member of a set as itself. -/
theorem member_escape (c : Char) (s : List Char) :
    member (escape c ++ s) = some (escape c, c, s) ∧ escape c ≠ [']'] := by
  unfold escape
  split
  · exact ⟨rfl, by simp⟩
  · rename_i hc
    have hplain {d : Char} (hd : d ∈ special) : c ≠ d := by
      rintro rfl
      exact hc (List.contains_iff_mem.mpr hd)
    exact ⟨member_plain (hplain (by decide)), by simpa using hplain (by decide : ']' ∈ special)⟩

/-! ### Patterns that can be read -/

/-- What stands in a bracket that has just been opened. -/
def inside (rest : List Char) : List Char := rest.takeWhile (· != ']')

/-- What follows a bracket that has just been opened. -/
def behind (rest : List Char) : List Char := rest.drop ((inside rest).length + 1)

theorem inside_append {body : List Char} (hbody : ']' ∉ body) (more : List Char) :
    inside (body ++ ']' :: more) = body := by
  have hall : ∀ c ∈ body, (c != ']') = true := by
    intro c hc
    rw [bne_iff_ne]
    rintro rfl
    exact hbody hc
  rw [inside, List.takeWhile_append_of_pos hall, List.takeWhile_cons_of_neg (by simp),
    List.append_nil]

theorem behind_append {body : List Char} (hbody : ']' ∉ body) (more : List Char) :
    behind (body ++ ']' :: more) = more := by
  rw [behind, inside_append hbody, ← List.drop_drop, List.drop_left, List.drop_one, List.tail_cons]

/-- No set stays open, and the ranges of all sets run upwards; `inSet` tells whether a set is open at
the beginning. -/
def Legible (inSet : Bool) : List Char → Prop
  | [] => inSet = false
  | '*' :: '*' :: rest => Legible inSet rest
  | '*' :: rest => Legible false rest
  | '?' :: rest => Legible false rest
  | '[' :: rest =>
    if ']' ∈ rest then
      if inSet then Ascending ('[' :: caret (inside rest)) ∧ Legible false (behind rest)
      else if members (inside rest) = [] then Legible true (behind rest)
      else Ascending (members (inside rest)) ∧ Legible false (behind rest)
    else Legible inSet rest
  | _ :: rest => Legible inSet rest
termination_by pattern => pattern.length
decreasing_by
  all_goals simp only [List.length_cons, behind, List.length_drop]
  all_goals omega

/-- A piece of a pattern that stands for several texts, and the item that it becomes. -/
inductive Wild : List Char → Item → Prop
  | directories : Wild ['*', '*', '/'] .directories
  | text : Wild ['*', '*'] (.many .anyButBreak)
  | names : Wild ['*'] (.many nameClass)
  | nameChar : Wild ['?'] (.one nameClass)
  | set {body more : List Char} {item : Item} (held : body ≠ [] ∨ more ≠ [])
      (kind : item ≠ .directories) : Wild ('[' :: body ++ ']' :: more) item

/-- The pattern falls into characters and wild pieces, which become the items one by one. -/
inductive Spells : List Char → List Item → Prop
  | nil : Spells [] []
  | char {c : Char} {rest : List Char} {items : List Item} (star : c ≠ '*') (mark : c ≠ '?')
      (bracket : c = '[' → ']' ∉ rest) (h : Spells rest items) :
      Spells (c :: rest) (.one (.only c) :: items)
  | wild {piece rest : List Char} {item : Item} {items : List Item} (hpiece : Wild piece item)
      (h : Spells rest items) : Spells (piece ++ rest) (item :: items)

theorem Spells.set {body more rest : List Char} {item : Item} {items : List Item}
    (held : body ≠ [] ∨ more ≠ []) (kind : item ≠ .directories) (h : Spells rest items) :
    Spells ('[' :: body ++ ']' :: (more ++ rest)) (item :: items) := by
  rw [← List.cons_append, ← List.append_assoc]
  exact .wild (.set held kind) h

/-- The pattern begins with what an open set still takes in. -/
inductive SpellsOpen : List Char → List Item → Prop
  | mk {piece rest : List Char} {item : Item} {items : List Item} (taken : piece ≠ [])
      (kind : item ≠ .directories) (h : Spells rest items) :
      SpellsOpen (piece ++ rest) (item :: items)

theorem SpellsOpen.append {rest : List Char} {items : List Item} (h : SpellsOpen rest items)
    (start : List Char) : SpellsOpen (start ++ rest) items := by
  obtain ⟨taken, kind, h⟩ := h
  rw [← List.append_assoc]
  exact .mk (List.append_ne_nil_of_right_ne_nil _ taken) kind h

/-! ### Reading on in an open set -/

/-- The items from a set on, once it has been read. -/
def readOn (total fuel : Nat) (negated : Bool)
    (r : Except Fault (List (Char × Char) × List Char)) : Except Fault (List Item) := do
  let (ranges, rest) ← r
  match rest with
  | '*' :: rest => return .many (.set negated ranges) :: (← readItems total fuel rest)
  | rest => return .one (.set negated ranges) :: (← readItems total fuel rest)

section

variable (total fuel : Nat) (negated : Bool) (ranges : List (Char × Char))

theorem readOn_many (s : List Char) :
    readOn total fuel negated (.ok (ranges, '*' :: s)) =
      (readItems total fuel s).map (Item.many (.set negated ranges) :: ·) := rfl

theorem readOn_one {s : List Char} (hs : s.head? ≠ some '*') :
    readOn total fuel negated (.ok (ranges, s)) =
      (readItems total fuel s).map (Item.one (.set negated ranges) :: ·) := by
  unfold readOn
  dsimp only [bind, Except.bind]
  split
  · exact absurd rfl hs
  · rfl

theorem readItems_negated (s : List Char) :
    readItems total (fuel + 1) ('[' :: '^' :: s) =
      readOn total fuel true (readSet total (total - (s.length + 1) - 1) (s.length + 1) [] s) := by
  rw [readItems]
  rfl

theorem readItems_set {s : List Char} (hs : s.head? ≠ some '^') :
    readItems total (fuel + 1) ('[' :: s) =
      readOn total fuel false (readSet total (total - s.length - 1) (s.length + 1) [] s) := by
  rw [readItems]
  · rfl
  · rintro rest rfl
    exact hs rfl

/-- A bracket opens a set that holds its members and goes on behind it. -/
theorem readItems_bracket (body s : List Char) :
    ∃ negated start setFuel, (members body ++ ']' :: s).length < setFuel ∧
      readItems total (fuel + 1) (bracket body ++ s) =
        readOn total fuel negated
          (readSet total start setFuel [] (members body ++ ']' :: s)) := by
  rw [bracket_eq, List.append_assoc, List.singleton_append, List.cons_append]
  fun_cases members body with
  | case1 rest => exact ⟨_, _, _, Nat.lt_succ_self _, readItems_negated total fuel _⟩
  | case2 rest => exact ⟨_, _, _, Nat.lt_succ_self _, readItems_negated total fuel _⟩
  | case3 body hmark hcaret =>
    have hsame : caret body = body := by
      unfold caret
      split
      · exact absurd rfl (hmark _)
      · rfl
    have hhead : (body ++ ']' :: s).head? ≠ some '^' := by
      cases body with
      | nil => simp
      | cons c rest =>
        rw [List.cons_append, List.head?_cons, ne_eq, Option.some.injEq]
        rintro rfl
        exact hcaret rest rfl
    rw [hsame]
    exact ⟨_, _, _, Nat.lt_succ_self _, readItems_set total fuel hhead⟩

end

/-! ### How brackets bear on legibility -/

section

variable {inSet : Bool} {rest : List Char}

theorem legible_char {c : Char} (star : c ≠ '*') (mark : c ≠ '?') (bracket : c = '[' → ']' ∉ rest) :
    Legible inSet (c :: rest) ↔ Legible inSet rest := by
  by_cases hc : c = '['
  · rw [hc, Legible, if_neg (bracket hc)]
  · rw [Legible]
    all_goals simp_all

theorem legible_stars : Legible inSet ('*' :: '*' :: rest) ↔ Legible inSet rest := by
  rw [Legible]

theorem legible_star (hnext : rest.head? ≠ some '*') :
    Legible inSet ('*' :: rest) ↔ Legible false rest := by
  rw [Legible]
  rintro more rfl
  exact hnext rfl

theorem legible_mark : Legible inSet ('?' :: rest) ↔ Legible false rest := by
  rw [Legible]

/-- A bracket closes a set that is open, opens one that stays open, or is one. -/
theorem legible_bracket {body : List Char} (hbody : ']' ∉ body) :
    Legible inSet ('[' :: (body ++ ']' :: rest)) ↔
      if inSet then Ascending ('[' :: caret body) ∧ Legible false rest
      else if members body = [] then Legible true rest
      else Ascending (members body) ∧ Legible false rest := by
  have closed : ']' ∈ body ++ ']' :: rest := by simp
  rw [Legible, if_pos closed, inside_append hbody, behind_append hbody]

end

theorem ascending_name : Ascending ['[', '^', '/'] := by simp [Ascending]

/-! ### From patterns to items -/

/-- The expansion of the pattern has items if the pattern is legible, and they are spelled by it. -/
def Reads (pattern expansion : List Char) : Prop :=
  ∀ total fuel, expansion.length ≤ fuel →
    Answers (Legible false pattern) (Spells pattern) (readItems total fuel expansion)

/-- The same where a set is open that holds something. -/
def ReadsOpen (pattern expansion : List Char) : Prop :=
  ∀ total fuel start setFuel negated seen, seen ≠ [] → expansion.length ≤ fuel →
    expansion.length < setFuel →
    Answers (Legible true pattern) (SpellsOpen pattern)
      (readOn total fuel negated (readSet total start setFuel seen expansion))

section

variable {pattern rest start expansion : List Char}

theorem Reads.cons (h : Reads rest expansion) {item : Item} (hstart : start ≠ [])
    (legible : Legible false pattern ↔ Legible false rest)
    (spells : ∀ items, Spells rest items → Spells pattern (item :: items))
    (hread : ∀ total fuel, readItems total (fuel + 1) (start ++ expansion) =
      (readItems total fuel expansion).map (item :: ·)) : Reads pattern (start ++ expansion) := by
  intro total fuel hfuel
  have hpos := List.length_pos_of_ne_nil hstart
  rw [List.length_append] at hfuel
  obtain ⟨fuel, rfl⟩ : ∃ n, fuel = n + 1 := ⟨fuel - 1, by omega⟩
  rw [hread]
  exact (h total fuel (by omega)).map legible.symm spells

/-- What an open set takes in. -/
theorem ReadsOpen.cons (h : ReadsOpen rest expansion) (piece : List Char)
    (legible : Legible true (piece ++ rest) ↔ Legible true rest)
    (hread : ∀ total begin fuel seen, seen ≠ [] → ∃ fuel' more, fuel ≤ fuel' ∧
      readSet total begin (fuel + start.length) seen (start ++ expansion) =
        readSet total begin fuel' (seen ++ more) expansion) :
    ReadsOpen (piece ++ rest) (start ++ expansion) := by
  intro total fuel begin setFuel negated seen hseen hfuel hsetFuel
  rw [List.length_append] at hfuel hsetFuel
  obtain ⟨setFuel, rfl⟩ : ∃ n, setFuel = n + start.length := ⟨setFuel - start.length, by omega⟩
  obtain ⟨fuel', more, hle, hsame⟩ := hread total begin setFuel seen hseen
  rw [hsame]
  exact (h total fuel begin fuel' negated (seen ++ more) (by simp [hseen]) (by omega)
    (by omega)).imp legible.symm fun items hitems => hitems.append piece

/-- A set that is closed becomes one item. -/
theorem answers_readOn (h : Reads rest expansion) {text tail : List Char}
    (htext : ∀ c ∈ text, c ≠ '\\' ∧ c ≠ ']')
    (htail : ∀ total fuel negated ranges, ∃ item : Item, item ≠ .directories ∧
      readOn total fuel negated (.ok (ranges, tail ++ expansion)) =
        (readItems total fuel expansion).map (item :: ·))
    (total : Nat) {fuel : Nat} (begin : Nat) {setFuel : Nat} (negated : Bool)
    {seen : List (Char × Char)} (hne : seen ≠ [] ∨ text ≠ []) (hfuel : expansion.length ≤ fuel)
    (hsetFuel : text.length < setFuel) :
    Answers (Ascending text ∧ Legible false rest)
      (fun items => ∃ item more, item ≠ .directories ∧ items = item :: more ∧ Spells rest more)
      (readOn total fuel negated
        (readSet total begin setFuel seen (text ++ ']' :: (tail ++ expansion)))) := by
  have hset := answers_readSet total begin (tail ++ expansion) htext hne hsetFuel
  generalize readSet total begin setFuel seen (text ++ ']' :: (tail ++ expansion)) = r at hset
  cases hset with
  | error fails => exact .error fun h => fails h.1
  | ok ascending result =>
    obtain rfl := result
    obtain ⟨item, hitem, hsame⟩ := htail total fuel negated (seen ++ ranges text)
    rw [hsame]
    exact (h total fuel hfuel).map (and_iff_right ascending).symm
      fun items hitems => ⟨item, items, hitem, rfl, hitems⟩

/-- What closes an open set. -/
theorem Reads.close (h : Reads rest expansion) (text tail : List Char) {piece : List Char}
    (taken : piece ≠ [])
    (legible : Legible true (piece ++ rest) ↔ Ascending text ∧ Legible false rest)
    (htext : ∀ c ∈ text, c ≠ '\\' ∧ c ≠ ']')
    (htail : ∀ total fuel negated ranges, ∃ item : Item, item ≠ .directories ∧
      readOn total fuel negated (.ok (ranges, tail ++ expansion)) =
        (readItems total fuel expansion).map (item :: ·)) :
    ReadsOpen (piece ++ rest) (text ++ ']' :: (tail ++ expansion)) := by
  intro total fuel begin setFuel negated seen hseen hfuel hsetFuel
  simp only [List.length_append, List.length_cons] at hfuel hsetFuel
  refine (answers_readOn h htext htail total begin negated (.inl hseen) (by omega)
    (by omega)).imp legible.symm ?_
  rintro _ ⟨item, more, hitem, rfl, hmore⟩
  exact .mk taken hitem hmore

end

/-- A character that stands for itself, in a set or not. -/
theorem reads_char {c : Char} {rest expansion : List Char} (star : c ≠ '*') (mark : c ≠ '?')
    (bracket : c = '[' → ']' ∉ rest) (hdash : expansion.head? ≠ some '-')
    (h : Reads rest expansion ∧ ReadsOpen rest expansion) :
    Reads (c :: rest) (escape c ++ expansion) ∧ ReadsOpen (c :: rest) (escape c ++ expansion) := by
  have hescape : escape c ≠ [] := by unfold escape; split <;> simp
  constructor
  · exact h.1.cons hescape (legible_char star mark bracket)
      (fun items hitems => .char star mark bracket hitems)
      fun total fuel => readItems_escape total fuel c expansion
  · refine h.2.cons [c] (legible_char star mark bracket) ?_
    intro total begin fuel seen _
    obtain ⟨hmember, hopen⟩ := member_escape c expansion
    have hpos := List.length_pos_of_ne_nil hescape
    refine ⟨fuel + (escape c).length - 1, [(c, c)], by omega, ?_⟩
    rw [← readSet_single hmember (.inl hopen) hdash, Nat.sub_add_cancel (by omega)]

theorem mem_members {body : List Char} {c : Char} (h : c ∈ members body) : c ∈ body := by
  unfold members at h
  split at h
  · exact List.mem_cons_of_mem _ h
  · exact List.mem_cons_of_mem _ h
  · exact h

theorem mem_caret {body : List Char} {c : Char} (h : c ∈ caret body) : c = '^' ∨ c ∈ body := by
  unfold caret at h
  split at h
  · exact (List.mem_cons.mp h).imp_right (List.mem_cons_of_mem _)
  · exact .inr h

section

variable {body rest expansion : List Char}

/-- What is closed goes on behind it, if no star follows. -/
theorem exists_readOn_one (hstar : expansion.head? ≠ some '*') (total fuel : Nat) (negated : Bool)
    (ranges : List (Char × Char)) : ∃ item : Item, item ≠ .directories ∧
      readOn total fuel negated (.ok (ranges, [] ++ expansion)) =
        (readItems total fuel expansion).map (item :: ·) :=
  ⟨_, by simp, readOn_one total fuel negated ranges hstar⟩

/-- A bracket outside of sets is one, or opens one if it holds nothing. -/
theorem reads_opening (hbody : ∀ c ∈ body, c ≠ '\\' ∧ c ≠ ']')
    (hstar : expansion.head? ≠ some '*') (hdash : expansion.head? ≠ some '-')
    (h : Reads rest expansion ∧ ReadsOpen rest expansion) :
    Reads ('[' :: body ++ ']' :: rest) (bracket body ++ expansion) := by
  have hnone : ']' ∉ body := fun hm => (hbody _ hm).2 rfl
  intro total fuel hfuel
  rw [bracket_eq, List.append_assoc, List.length_append, List.length_append, List.length_cons]
    at hfuel
  obtain ⟨fuel, rfl⟩ : ∃ n, fuel = n + 1 := ⟨fuel - 1, by omega⟩
  obtain ⟨negated, start, setFuel, hsetFuel, hread⟩ := readItems_bracket total fuel body expansion
  rw [hread]
  simp only [List.length_append, List.length_cons] at hsetFuel
  by_cases hempty : members body = []
  · -- The bracket's own end is the first member of the set.
    obtain ⟨setFuel, rfl⟩ : ∃ n, setFuel = n + 1 := ⟨setFuel - 1, by omega⟩
    have hfirst : readSet total start (setFuel + 1) [] ([']'] ++ expansion) =
        readSet total start setFuel [(']', ']')] expansion :=
      readSet_single (member_plain (by decide)) (.inr rfl) hdash
    rw [hempty]
    refine (hfirst ▸ h.2 total fuel start setFuel negated _ (by simp) (by omega) (by omega)).imp
      ?_ ?_
    · rw [List.cons_append, legible_bracket hnone, if_neg Bool.false_ne_true, if_pos hempty]
    · rintro _ ⟨taken, kind, hitems⟩
      exact .set (.inr taken) kind hitems
  · refine (answers_readOn h.1 (fun c hc => hbody c (mem_members hc)) (exists_readOn_one hstar)
      total start negated (.inr hempty) (by omega) (by omega)).imp ?_ ?_
    · rw [List.cons_append, legible_bracket hnone, if_neg Bool.false_ne_true, if_neg hempty]
    · rintro _ ⟨item, more, hitem, rfl, hmore⟩
      change Spells ('[' :: body ++ ']' :: ([] ++ rest)) (item :: more)
      refine .set (.inl ?_) hitem hmore
      rintro rfl
      exact hempty rfl

/-- A bracket in an open set closes it. -/
theorem readsOpen_closing (hbody : ∀ c ∈ body, c ≠ '\\' ∧ c ≠ ']')
    (hstar : expansion.head? ≠ some '*') (h : Reads rest expansion) :
    ReadsOpen ('[' :: body ++ ']' :: rest) (bracket body ++ expansion) := by
  have hnone : ']' ∉ body := fun hm => (hbody _ hm).2 rfl
  have hpattern : '[' :: body ++ ']' :: rest = '[' :: (body ++ [']']) ++ rest := by simp
  have hwritten : bracket body ++ expansion = '[' :: caret body ++ ']' :: ([] ++ expansion) := by
    simp [bracket_eq]
  rw [hpattern, hwritten]
  refine h.close ('[' :: caret body) [] (List.cons_ne_nil _ _) ?_ ?_ (exists_readOn_one hstar)
  · rw [List.cons_append, List.append_assoc, List.singleton_append, legible_bracket hnone,
      if_pos rfl]
  · rw [List.forall_mem_cons]
    refine ⟨by decide, fun c hc => ?_⟩
    rcases mem_caret hc with rfl | hc
    · decide
    · exact hbody c hc

end

/-- At the end of a pattern there is nothing left to read, unless a set is open. -/
theorem reads_nil : Reads [] [] ∧ ReadsOpen [] [] := by
  constructor
  · intro total fuel _
    have hread : readItems total fuel [] = .ok [] := by cases fuel <;> rfl
    rw [hread]
    exact .ok (by rw [Legible]) .nil
  · intro total fuel start setFuel negated seen _ _ hsetFuel
    obtain ⟨n, rfl⟩ : ∃ n, setFuel = n + 1 := ⟨setFuel - 1, by omega⟩
    exact .error (by rw [Legible]; decide)

/-! ### Wildcards, in a set or not -/

/-- What two stars expand to holds nothing that is special in a set. -/
theorem plain_of_mem {c : Char} (h : c ∈ anyDirectories ∨ c ∈ anyText) :
    c ≠ '\\' ∧ c ≠ ']' ∧ c ≠ '-' := by
  have hplain : (anyDirectories ++ anyText).all fun c => c ≠ '\\' ∧ c ≠ ']' ∧ c ≠ '-' := by decide
  exact of_decide_eq_true (List.all_eq_true.mp hplain c (List.mem_append.mpr h))

section

variable {rest start expansion : List Char}

/-- An open set takes in what holds nothing special, character by character. -/
theorem ReadsOpen.cons_plain (h : ReadsOpen rest expansion) (piece : List Char)
    (legible : Legible true (piece ++ rest) ↔ Legible true rest)
    (plain : ∀ c ∈ start, c ≠ '\\' ∧ c ≠ ']' ∧ c ≠ '-') (hdash : expansion.head? ≠ some '-') :
    ReadsOpen (piece ++ rest) (start ++ expansion) := by
  refine h.cons piece legible ?_
  intro total begin fuel seen _
  exact ⟨fuel, _, Nat.le_refl _, readSet_singles plain hdash⟩

/-- The set that a wildcard for names expands to closes an open set. -/
theorem Reads.close_name (h : Reads rest expansion) (tail : List Char) {wildcard : Char}
    (legible : Legible true (wildcard :: rest) ↔ Legible false rest)
    (htail : ∀ total fuel negated ranges, ∃ item : Item, item ≠ .directories ∧
      readOn total fuel negated (.ok (ranges, tail ++ expansion)) =
        (readItems total fuel expansion).map (item :: ·)) :
    ReadsOpen (wildcard :: rest) (['[', '^', '/'] ++ ']' :: (tail ++ expansion)) :=
  h.close ['[', '^', '/'] tail (List.cons_ne_nil wildcard [])
    (legible.trans (and_iff_right ascending_name).symm) (by simp) htail

theorem reads_directories (hdash : expansion.head? ≠ some '-')
    (h : Reads rest expansion ∧ ReadsOpen rest expansion) :
    Reads ('*' :: '*' :: '/' :: rest) (anyDirectories ++ expansion) ∧
      ReadsOpen ('*' :: '*' :: '/' :: rest) (anyDirectories ++ expansion) := by
  have legible {inSet : Bool} :
      Legible inSet ('*' :: '*' :: '/' :: rest) ↔ Legible inSet rest :=
    legible_stars.trans (legible_char (by decide) (by decide) (absurd · (by decide)))
  constructor
  · exact h.1.cons (by decide) legible (fun items hitems => .wild .directories hitems)
      fun total fuel => readItems_anyDirectories total fuel _
  · exact h.2.cons_plain ['*', '*', '/'] legible (fun c hc => plain_of_mem (.inl hc)) hdash

theorem reads_text (hdash : expansion.head? ≠ some '-')
    (h : Reads rest expansion ∧ ReadsOpen rest expansion) :
    Reads ('*' :: '*' :: rest) (anyText ++ expansion) ∧
      ReadsOpen ('*' :: '*' :: rest) (anyText ++ expansion) := by
  constructor
  · exact h.1.cons (by decide) legible_stars (fun items hitems => .wild .text hitems)
      fun total fuel => readItems_anyText total fuel _
  · exact h.2.cons_plain ['*', '*'] legible_stars (fun c hc => plain_of_mem (.inr hc)) hdash

theorem reads_name (hnext : rest.head? ≠ some '*') (h : Reads rest expansion) :
    Reads ('*' :: rest) (anyName ++ expansion) ∧ ReadsOpen ('*' :: rest) (anyName ++ expansion) := by
  constructor
  · exact h.cons (by decide) (legible_star hnext) (fun items hitems => .wild .names hitems)
      fun total fuel => readItems_anyName total fuel _
  · refine h.close_name ['*'] (legible_star hnext) ?_
    intro total fuel negated ranges
    exact ⟨_, by simp, readOn_many total fuel negated ranges _⟩

theorem reads_nameChar (hstar : expansion.head? ≠ some '*') (h : Reads rest expansion) :
    Reads ('?' :: rest) (anyNameChar ++ expansion) ∧
      ReadsOpen ('?' :: rest) (anyNameChar ++ expansion) := by
  constructor
  · exact h.cons (by decide) legible_mark (fun items hitems => .wild .nameChar hitems)
      fun total fuel => readItems_anyNameChar total fuel hstar
  · exact h.close_name [] legible_mark (exists_readOn_one hstar)

end

/-! ### Whole patterns -/

/-- The expansion of a pattern is read as the pattern is. -/
theorem reads_expandFrom {pattern : List Char} (hp : '\\' ∉ pattern) {fuel : Nat}
    (hf : pattern.length ≤ fuel) :
    Reads pattern (expandFrom fuel pattern) ∧ ReadsOpen pattern (expandFrom fuel pattern) := by
  have hstar (n : Nat) (p : List Char) : (expandFrom n p).head? ≠ some '*' :=
    head?_expandFrom (by decide) n p
  have hdash (n : Nat) (p : List Char) : (expandFrom n p).head? ≠ some '-' :=
    head?_expandFrom (by decide) n p
  fun_induction expandFrom fuel pattern with
  | case1 pattern =>
    rw [List.length_eq_zero_iff.mp (Nat.le_zero.mp hf)]
    exact reads_nil
  | case2 => exact reads_nil
  | case3 fuel rest ih =>
    simp only [List.mem_cons, not_or, List.length_cons] at hp hf
    exact reads_directories (hdash _ _) (ih hp.2.2.2 (by omega))
  | case4 fuel rest hway ih =>
    simp only [List.mem_cons, not_or, List.length_cons] at hp hf
    exact reads_text (hdash _ _) (ih hp.2.2 (by omega))
  | case5 fuel rest hway hstars ih =>
    simp only [List.mem_cons, not_or, List.length_cons] at hp hf
    have hnext : rest.head? ≠ some '*' := by
      intro hhead
      obtain ⟨more, rfl⟩ := List.head?_eq_some_iff.mp hhead
      exact hstars more rfl
    exact reads_name hnext (ih hp.2 (by omega)).1
  | case6 fuel rest ih =>
    simp only [List.mem_cons, not_or, List.length_cons] at hp hf
    exact reads_nameChar (hstar _ _) (ih hp.2 (by omega)).1
  | case7 fuel rest closed body ih =>
    obtain ⟨text, more, rfl, htext⟩ := List.eq_append_cons_of_mem (List.contains_iff_mem.mp closed)
    have hbody : body = text := inside_append htext more
    have hmore : (text ++ ']' :: more).drop (body.length + 1) = more := behind_append htext more
    rw [hmore] at ih ⊢
    rw [hbody]
    simp only [List.mem_cons, List.mem_append, not_or, List.length_cons, List.length_append]
      at hp hf
    have hplain : ∀ c ∈ text, c ≠ '\\' ∧ c ≠ ']' := by
      intro c hc
      exact ⟨fun he => hp.2.1 (he ▸ hc), fun he => htext (he ▸ hc)⟩
    have hrest := ih hp.2.2.2 (by omega)
    exact ⟨reads_opening hplain (hstar _ _) (hdash _ _) hrest,
      readsOpen_closing hplain (hstar _ _) hrest.1⟩
  | case8 fuel rest unclosed ih =>
    simp only [List.mem_cons, not_or, List.length_cons] at hp hf
    exact reads_char (by decide) (by decide) (fun _ h => unclosed (List.contains_iff_mem.mpr h))
      (hdash _ _) (ih hp.2 (by omega))
  | case9 fuel c rest hway hstars hstar hmark hbracket ih =>
    simp only [List.mem_cons, not_or, List.length_cons] at hp hf
    exact reads_char hstar hmark (fun h => absurd h hbracket) (hdash _ _) (ih hp.2 (by omega))

/-- A pattern compiles if it is legible, and its items are spelled by it. -/
theorem answers_compile {pattern : List Char} (hp : '\\' ∉ pattern) :
    Answers (Legible false pattern) (Spells pattern) (compile pattern) :=
  (reads_expandFrom hp (Nat.le_refl _)).1 _ _ (Nat.le_refl _)

end DocAtlas.Glob
