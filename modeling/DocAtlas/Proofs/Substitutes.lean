import DocAtlas.Document.Review
import Mathlib.Algebra.Order.Ring.Unbundled.Rat
import Mathlib.Data.List.Forall2

/-!
The page that takes the place of one that is missing: the first of those most like the reference, if
it is like enough.
-/
namespace DocAtlas

namespace Review

/-! ### The first of the best -/

/-- The first of the items with the greatest score: those before it score less, those behind it not
more. -/
def IsFirstBest {α : Type} (score : α → Rat) (items : List α) (a : α) : Prop :=
  ∃ before after, items = before ++ a :: after ∧ (∀ b ∈ before, score b < score a) ∧
    ∀ b ∈ after, score b ≤ score a

section

variable {α β : Type} {score : α → Rat}

theorem best?_eq_none {items : List α} (h : best? score items = none) : items = [] := by
  cases items with
  | nil => rfl
  | cons a rest =>
    rw [best?] at h
    split at h
    · cases h
    · split at h <;> cases h

theorem IsFirstBest.mem {items : List α} {a : α} (h : IsFirstBest score items a) : a ∈ items := by
  obtain ⟨before, after, rfl, -, -⟩ := h
  simp

theorem IsFirstBest.greatest {items : List α} {a : α} (h : IsFirstBest score items a) :
    ∀ b ∈ items, score b ≤ score a := by
  obtain ⟨before, after, rfl, hbefore, hafter⟩ := h
  intro b hb
  rcases List.mem_append.mp hb with hb | hb
  · exact le_of_lt (hbefore b hb)
  · rcases List.mem_cons.mp hb with rfl | hb
    · exact le_refl _
    · exact hafter b hb

theorem isFirstBest_cons {first a : α} {rest : List α} :
    IsFirstBest score (first :: rest) a ↔
      first = a ∧ (∀ b ∈ rest, score b ≤ score first) ∨
        score first < score a ∧ IsFirstBest score rest a := by
  constructor
  · rintro ⟨before, after, he, hbefore, hafter⟩
    cases before with
    | nil =>
      obtain ⟨rfl, rfl⟩ := List.cons.inj he
      exact .inl ⟨rfl, hafter⟩
    | cons b before =>
      obtain ⟨rfl, rfl⟩ := List.cons.inj he
      rw [List.forall_mem_cons] at hbefore
      exact .inr ⟨hbefore.1, before, after, rfl, hbefore.2, hafter⟩
  · rintro (⟨rfl, hrest⟩ | ⟨hless, before, after, rfl, hbefore, hafter⟩)
    · exact ⟨[], rest, rfl, List.forall_mem_nil _, hrest⟩
    · exact ⟨first :: before, after, rfl, List.forall_mem_cons.mpr ⟨hless, hbefore⟩, hafter⟩

theorem best?_eq_some_iff {items : List α} {a : α} {s : Rat} :
    best? score items = some (a, s) ↔ IsFirstBest score items a ∧ s = score a := by
  induction items generalizing a s with
  | nil => exact iff_of_false nofun fun h => absurd h.1.mem List.not_mem_nil
  | cons first rest ih =>
    rw [best?, isFirstBest_cons]
    cases hrest : best? score rest with
    | none =>
      rw [best?_eq_none hrest]
      simp only [Option.some.injEq, Prod.mk.injEq]
      constructor
      · rintro ⟨rfl, rfl⟩
        exact ⟨.inl ⟨rfl, List.forall_mem_nil _⟩, rfl⟩
      · rintro ⟨⟨rfl, -⟩ | ⟨-, hbest⟩, rfl⟩
        · exact ⟨rfl, rfl⟩
        · exact absurd hbest.mem List.not_mem_nil
    | some found =>
      obtain ⟨b, t⟩ := found
      obtain ⟨hb, rfl⟩ := ih.mp hrest
      dsimp only
      split
      · rename_i hless
        rw [Option.some.injEq, Prod.mk.injEq]
        constructor
        · rintro ⟨rfl, rfl⟩
          exact ⟨.inr ⟨hless, hb⟩, rfl⟩
        · rintro ⟨⟨rfl, hmost⟩ | ⟨-, ha⟩, rfl⟩
          · exact absurd hless (not_lt.mpr (hmost b hb.mem))
          · have hsame := ih.mpr ⟨ha, rfl⟩
            rw [hrest] at hsame
            simpa using hsame
      · rename_i hmost
        rw [Option.some.injEq, Prod.mk.injEq]
        constructor
        · rintro ⟨rfl, rfl⟩
          exact ⟨.inl ⟨rfl, fun c hc => le_trans (hb.greatest c hc) (not_lt.mp hmost)⟩, rfl⟩
        · rintro ⟨⟨rfl, -⟩ | ⟨hless, ha⟩, rfl⟩
          · exact ⟨rfl, rfl⟩
          · exact absurd (lt_of_lt_of_le hless (hb.greatest a ha.mem)) hmost

/-- Items that score alike have their best in the same place. -/
theorem best?_congr {score' : β → Rat} {R : α → β → Prop} {items : List α} {others : List β}
    (h : List.Forall₂ (fun a b => R a b ∧ score a = score' b) items others) :
    Option.Rel (fun x y => R x.1 y.1 ∧ x.2 = y.2) (best? score items) (best? score' others) := by
  induction h with
  | nil => exact .none
  | @cons a b items others hab _ ih =>
    obtain ⟨hrelated, hscore⟩ := hab
    rw [best?, best?, hscore]
    generalize best? score items = x, best? score' others = y at ih
    cases ih with
    | none => exact .some ⟨hrelated, rfl⟩
    | @some x y hxy =>
      obtain ⟨hbest, hsame⟩ := hxy
      dsimp only
      rw [hsame]
      split
      · exact .some ⟨hbest, rfl⟩
      · exact .some ⟨hrelated, rfl⟩

end

/-! ### Substitutes -/

section

variable {policy : Policy} {like : Likeness} {pages : List Page} {r : Reference}

/-- Repair is allowed, and the page is the first of those most like the reference, and like enough.
-/
structure IsSubstitute (policy : Policy) (like : Likeness) (pages : List Page) (r : Reference)
    (p : Page) : Prop where
  allowed : policy.repair = true
  best : IsFirstBest (fit like r) pages p
  enough : policy.threshold ≤ fit like r p

theorem substitute?_eq_some_iff {target : String} {score : Rat} :
    substitute? policy like pages r = some (target, score) ↔
      ∃ p, IsSubstitute policy like pages r p ∧ target = p.path ∧ score = fit like r p := by
  unfold substitute?
  cases hallowed : policy.repair with
  | false => exact iff_of_false nofun fun ⟨p, h, _⟩ => by simp [h.allowed] at hallowed
  | true =>
    rw [if_pos rfl]
    constructor
    · intro h
      cases hbest : best? (fit like r) pages with
      | none =>
        rw [hbest] at h
        cases h
      | some found =>
        obtain ⟨p, s⟩ := found
        obtain ⟨hp, rfl⟩ := best?_eq_some_iff.mp hbest
        simp only [hbest, Option.ite_none_left_eq_some, Option.some.injEq, Prod.mk.injEq] at h
        obtain ⟨henough, rfl, rfl⟩ := h
        exact ⟨p, ⟨hallowed, hp, not_lt.mp henough⟩, rfl, rfl⟩
    · rintro ⟨p, h, rfl, rfl⟩
      rw [best?_eq_some_iff.mpr ⟨h.best, rfl⟩]
      exact if_neg (not_lt.mpr h.enough)

theorem substitute?_eq_none_iff :
    substitute? policy like pages r = none ↔ ∀ p, ¬IsSubstitute policy like pages r p := by
  rw [Option.eq_none_iff_forall_ne_some]
  constructor
  · intro h p hp
    exact h _ (substitute?_eq_some_iff.mpr ⟨p, hp, rfl, rfl⟩)
  · rintro h ⟨target, score⟩ hsome
    obtain ⟨p, hp, -, -⟩ := substitute?_eq_some_iff.mp hsome
    exact h p hp

theorem IsSubstitute.unique {p q : Page} (hp : IsSubstitute policy like pages r p)
    (hq : IsSubstitute policy like pages r q) : p = q := by
  have hsame := (best?_eq_some_iff.mpr ⟨hp.best, rfl⟩).symm.trans
    (best?_eq_some_iff.mpr ⟨hq.best, rfl⟩)
  exact congrArg Prod.fst (Option.some.inj hsame)

end

end Review

end DocAtlas
