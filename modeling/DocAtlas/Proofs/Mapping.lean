/-!
Results that may be faults: one after the other, and those of a function over a list.
-/
namespace DocAtlas

theorem bind_ok {ε α β : Type} {r : Except ε α} {f : α → Except ε β} {b : β} :
    (r >>= f) = .ok b ↔ ∃ a, r = .ok a ∧ f a = .ok b := by
  cases r with
  | error e => simp [bind, Except.bind]
  | ok a => simp [bind, Except.bind]

theorem exists_ok_of_isOk {ε α : Type} {r : Except ε α} (h : r.isOk = true) :
    ∃ a, r = .ok a := by
  cases r with
  | error e => cases h
  | ok a => exact ⟨a, rfl⟩

theorem exists_bind_pure_iff {ε α β : Type} {r : Except ε α} {g : α → β} :
    (∃ b, (r >>= fun a => pure (g a)) = .ok b) ↔ ∃ a, r = .ok a := by
  cases r with
  | error e => exact iff_of_false (fun ⟨_, h⟩ => by cases h) fun ⟨_, h⟩ => by cases h
  | ok a => exact iff_of_true ⟨g a, rfl⟩ ⟨a, rfl⟩

theorem mapM_cons_ok {ε α β : Type} {f : α → Except ε β} {x : α} {xs : List α} {zs : List β} :
    (x :: xs).mapM f = .ok zs ↔ ∃ y ys, f x = .ok y ∧ xs.mapM f = .ok ys ∧ zs = y :: ys := by
  rw [List.mapM_cons]
  cases hx : f x with
  | error e => simp [bind, Except.bind]
  | ok y =>
    cases hs : xs.mapM f with
    | error e => simp [bind, Except.bind]
    | ok ys =>
      simp only [bind, Except.bind, pure, Except.pure, Except.ok.injEq]
      constructor
      · rintro rfl
        exact ⟨y, ys, rfl, rfl, rfl⟩
      · rintro ⟨y', ys', rfl, rfl, rfl⟩
        rfl

theorem mapM_concat_ok {ε α β : Type} {f : α → Except ε β} {xs : List α} {x : α} {zs : List β} :
    (xs ++ [x]).mapM f = .ok zs ↔ ∃ ys y, xs.mapM f = .ok ys ∧ f x = .ok y ∧ zs = ys ++ [y] := by
  rw [List.mapM_append, bind_ok]
  constructor
  · rintro ⟨ys, hys, h⟩
    obtain ⟨last, hlast, h⟩ := bind_ok.mp h
    obtain ⟨y, none, hy, hnone, rfl⟩ := mapM_cons_ok.mp hlast
    cases hnone
    cases h
    exact ⟨ys, y, hys, hy, rfl⟩
  · rintro ⟨ys, y, hys, hy, rfl⟩
    refine ⟨ys, hys, bind_ok.mpr ⟨[y], ?_, rfl⟩⟩
    exact mapM_cons_ok.mpr ⟨y, [], hy, rfl, rfl⟩

theorem exists_mapM_iff {ε α β : Type} {f : α → Except ε β} {xs : List α} :
    (∃ ys, xs.mapM f = .ok ys) ↔ ∀ x ∈ xs, ∃ y, f x = .ok y := by
  induction xs with
  | nil => exact iff_of_true ⟨[], rfl⟩ (List.forall_mem_nil _)
  | cons x xs ih =>
    rw [List.forall_mem_cons, ← ih]
    constructor
    · rintro ⟨zs, h⟩
      obtain ⟨y, ys, hy, hs, -⟩ := mapM_cons_ok.mp h
      exact ⟨⟨y, hy⟩, ys, hs⟩
    · rintro ⟨⟨y, hy⟩, ys, hs⟩
      exact ⟨y :: ys, mapM_cons_ok.mpr ⟨y, ys, hy, hs, rfl⟩⟩

theorem exists_of_mem_mapM {ε α β : Type} {f : α → Except ε β} {xs : List α} {ys : List β}
    (h : xs.mapM f = .ok ys) {y : β} (hy : y ∈ ys) : ∃ x ∈ xs, f x = .ok y := by
  induction xs generalizing ys with
  | nil =>
    cases h
    exact absurd hy List.not_mem_nil
  | cons x xs ih =>
    obtain ⟨z, zs, hx, hs, rfl⟩ := mapM_cons_ok.mp h
    rcases List.mem_cons.mp hy with rfl | hm
    · exact ⟨x, List.mem_cons_self, hx⟩
    · obtain ⟨w, hw, he⟩ := ih hs hm
      exact ⟨w, List.mem_cons_of_mem _ hw, he⟩

theorem exists_of_mapM_error {ε α β : Type} {f : α → Except ε β} {xs : List α} {e : ε}
    (h : xs.mapM f = .error e) : ∃ x ∈ xs, f x = .error e := by
  induction xs with
  | nil => cases h
  | cons x xs ih =>
    rw [List.mapM_cons] at h
    cases hx : f x with
    | error e' =>
      rw [hx] at h
      cases h
      exact ⟨x, List.mem_cons_self, hx⟩
    | ok y =>
      cases hs : xs.mapM f with
      | error e' =>
        rw [hx, hs] at h
        cases h
        obtain ⟨z, hz, he⟩ := ih hs
        exact ⟨z, List.mem_cons_of_mem _ hz, he⟩
      | ok ys =>
        rw [hx, hs] at h
        cases h

theorem mapM_ok {ε α γ : Type} {f : α → Except ε γ} {g : α → γ} {xs : List α}
    (h : ∀ x ∈ xs, f x = .ok (g x)) : xs.mapM f = .ok (xs.map g) := by
  induction xs with
  | nil => rfl
  | cons x rest ih =>
    rw [List.forall_mem_cons] at h
    exact mapM_cons_ok.mpr ⟨g x, rest.map g, h.1, ih h.2, rfl⟩

/-- What a step came to at each of the given values is one function of these values. -/
theorem exists_values {ε α β : Type} (other : β) {f : α → Except ε β} {ys : List (α × β)}
    (h : ∀ y ∈ ys, f y.1 = .ok y.2) :
    ∃ g : α → β, (∀ x ∈ ys.map Prod.fst, f x = .ok (g x)) ∧
      (ys.map Prod.fst).map (fun x => (x, g x)) = ys := by
  obtain ⟨g, hg⟩ : ∃ g : α → β, ∀ y ∈ ys, g y.1 = y.2 := by
    refine ⟨fun x => (f x).toOption.getD other, fun y hy => ?_⟩
    simp only [h y hy, Except.toOption, Option.getD_some]
  refine ⟨g, ?_, ?_⟩
  · rw [List.forall_mem_map]
    intro y hy
    rw [hg y hy, h y hy]
  · rw [List.map_map]
    refine (List.map_congr_left fun y hy => ?_).trans (List.map_id ys)
    rw [Function.comp_apply, hg y hy]
    rfl

theorem mapM_error {ε α γ : Type} {f : α → Except ε γ} {xs : List α} {e : ε}
    (found : ∃ x ∈ xs, f x = .error e) (only : ∀ x ∈ xs, ∀ e', f x = .error e' → e' = e) :
    xs.mapM f = .error e := by
  induction xs with
  | nil =>
    obtain ⟨x, hx, -⟩ := found
    cases hx
  | cons x rest ih =>
    rw [List.forall_mem_cons] at only
    rw [List.mapM_cons]
    cases hx : f x with
    | error e' =>
      rw [only.1 e' hx]
      rfl
    | ok v =>
      have hrest : ∃ x ∈ rest, f x = .error e := by
        obtain ⟨y, hy, he⟩ := found
        rcases List.mem_cons.mp hy with rfl | hy
        · rw [hx] at he
          cases he
        · exact ⟨y, hy, he⟩
      rw [ih hrest only.2]
      rfl

end DocAtlas
