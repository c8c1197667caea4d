import DocAtlas.Deadline
import DocAtlas.Proofs.Mapping
import DocAtlas.Proofs.Schedules
import Mathlib.Tactic.Push

/-!
Readings of the clock: taken in one go or in several, and by tasks that read it as they start, in
whatever order they do.
-/
namespace DocAtlas

/-! ### Readings in a row -/

namespace Watch

theorem check?_eq_some_iff {w later : Watch} {n : Nat} :
    w.check? n = some later ↔
      (∀ k < n, w.expiredAfter k = false) ∧ later = { w with readings := w.readings + n } := by
  rw [check?]
  split
  · rename_i hany
    obtain ⟨k, hk, he⟩ := List.any_eq_true.mp hany
    simp only [reduceCtorEq, false_iff, not_and]
    intro hall
    rw [hall k (List.mem_range.mp hk)] at he
    cases he
  · rename_i hnone
    rw [List.any_eq_true, not_exists] at hnone
    rw [Option.some.injEq, eq_comm]
    refine ⟨fun h => ⟨?_, h⟩, And.right⟩
    intro k hk
    exact Bool.eq_false_iff.mpr fun he => hnone k ⟨List.mem_range.mpr hk, he⟩

theorem check?_eq_none_iff {w : Watch} {n : Nat} :
    w.check? n = none ↔ ∃ k < n, w.expiredAfter k = true := by
  rw [check?]
  split
  · rename_i hany
    obtain ⟨k, hk, he⟩ := List.any_eq_true.mp hany
    exact iff_of_true rfl ⟨k, List.mem_range.mp hk, he⟩
  · rename_i hnone
    refine iff_of_false (Option.some_ne_none _) ?_
    rintro ⟨k, hk, he⟩
    exact hnone (List.any_eq_true.mpr ⟨k, List.mem_range.mpr hk, he⟩)

theorem check?_zero (w : Watch) : w.check? 0 = some w :=
  check?_eq_some_iff.mpr ⟨fun _ hk => absurd hk (Nat.not_lt_zero _), rfl⟩

/-- A watch that never expires takes any number of readings. -/
theorem check?_of_unlimited {w : Watch} (unlimited : w.deadline.expiry = none) (n : Nat) :
    w.check? n = some { w with readings := w.readings + n } :=
  check?_eq_some_iff.mpr
    ⟨fun k _ => by rw [expiredAfter, Deadline.expired, unlimited], rfl⟩

theorem expiredAfter_advanced (w : Watch) (n k : Nat) :
    ({ w with readings := w.readings + n } : Watch).expiredAfter k = w.expiredAfter (n + k) := by
  rw [expiredAfter, expiredAfter, Nat.add_assoc]

/-- The watch runs through a stretch if it does through its first part, and then through the rest. -/
theorem running_add_iff {w : Watch} {m n : Nat} :
    (∀ k < m + n, w.expiredAfter k = false) ↔ (∀ k < m, w.expiredAfter k = false) ∧
      ∀ k < n, ({ w with readings := w.readings + m } : Watch).expiredAfter k = false := by
  simp only [expiredAfter_advanced]
  constructor
  · exact fun h => ⟨fun k hk => h k (by omega), fun k hk => h (m + k) (by omega)⟩
  · rintro ⟨hfirst, hrest⟩ k hk
    by_cases hkm : k < m
    · exact hfirst k hkm
    · have hlater := hrest (k - m) (by omega)
      rwa [Nat.add_sub_cancel' (by omega)] at hlater

/-- Readings taken in two goes are those taken in one. -/
theorem check?_add (w : Watch) (m n : Nat) :
    w.check? (m + n) = (w.check? m).bind (·.check? n) := by
  cases hm : w.check? m with
  | none =>
    obtain ⟨k, hk, he⟩ := check?_eq_none_iff.mp hm
    exact check?_eq_none_iff.mpr ⟨k, by omega, he⟩
  | some middle =>
    obtain ⟨hbefore, rfl⟩ := check?_eq_some_iff.mp hm
    rw [Option.bind_some]
    cases hn : ({ w with readings := w.readings + m } : Watch).check? n with
    | none =>
      obtain ⟨k, hk, he⟩ := check?_eq_none_iff.mp hn
      rw [expiredAfter_advanced] at he
      exact check?_eq_none_iff.mpr ⟨m + k, by omega, he⟩
    | some later =>
      obtain ⟨hafter, rfl⟩ := check?_eq_some_iff.mp hn
      rw [check?_eq_some_iff, Nat.add_assoc]
      exact ⟨running_add_iff.mpr ⟨hbefore, hafter⟩, rfl⟩

end Watch

/-! ### Tasks that read the clock -/

/-- Tasks that share a watch: what those have come to that have been taken up. -/
structure Crew (τ β : Type) where
  watch : Watch
  tasks : List (τ × Option (Except String β))

namespace Crew

variable {τ β : Type} {stage : String} {work : τ → Except String β}

/-- One of the tasks that are left is taken up. It reads the clock first: if the deadline has passed
it raises an error for its stage, else it does its work. -/
inductive Works (stage : String) (work : τ → Except String β) : Crew τ β → Crew τ β → Prop
  | raises (before after : List (τ × Option (Except String β))) {w : Watch} {t : τ}
      (expired : w.expiredAfter 0 = true) :
      Works stage work ⟨w, before ++ (t, none) :: after⟩
        ⟨{ w with readings := w.readings + 1 }, before ++ (t, some (.error stage)) :: after⟩
  | does (before after : List (τ × Option (Except String β))) {w : Watch} {t : τ}
      (running : w.expiredAfter 0 = false) :
      Works stage work ⟨w, before ++ (t, none) :: after⟩
        ⟨{ w with readings := w.readings + 1 }, before ++ (t, some (work t)) :: after⟩

def Finished (c : Crew τ β) : Prop := ∀ t ∈ c.tasks, t.2 ≠ none

/-- A crew that has not begun. -/
def idle (w : Watch) (tasks : List τ) : Crew τ β := ⟨w, tasks.map fun t => (t, none)⟩

/-- What the tasks came to, in their order; or else the first error among them. -/
def results (c : Crew τ β) : Except String (List (τ × β)) :=
  (c.tasks.filterMap fun t => t.2.map fun r => (t.1, r)).mapM fun t => do return (t.1, ← t.2)

/-- How many tasks have been taken up. -/
def begun (c : Crew τ β) : Nat := c.tasks.countP (·.2.isSome)

/-- Each reading belongs to a task that has been taken up, and an error has been raised if one of
them came after the deadline. -/
structure Kept (stage : String) (work : τ → Except String β) (w : Watch) (tasks : List τ)
    (c : Crew τ β) : Prop where
  tasks : c.tasks.map Prod.fst = tasks
  watch : c.watch = { w with readings := w.readings + c.begun }
  outcomes : ∀ t ∈ c.tasks, ∀ r, t.2 = some r → r = .error stage ∨ r = work t.1
  raised : (∃ t ∈ c.tasks, t.2 = some (.error stage)) ↔ ∃ k < c.begun, w.expiredAfter k = true

theorem begun_idle (w : Watch) (tasks : List τ) : (idle w tasks : Crew τ β).begun = 0 := by
  rw [begun, idle, List.countP_eq_zero]
  intro t ht
  obtain ⟨_, -, rfl⟩ := List.mem_map.mp ht
  exact Bool.false_ne_true

theorem begun_insert (w later : Watch) (before after : List (τ × Option (Except String β))) (t : τ)
    (r : Except String β) :
    begun ⟨later, before ++ (t, some r) :: after⟩ = begun ⟨w, before ++ (t, none) :: after⟩ + 1 := by
  simp only [begun, List.countP_append, List.countP_cons, Option.isSome_some, Option.isSome_none,
    if_true, Bool.false_eq_true, if_false]
  omega

theorem kept_idle (w : Watch) (tasks : List τ) : Kept stage work w tasks (idle w tasks) := by
  have hnone : ∀ t ∈ (idle w tasks : Crew τ β).tasks, t.2 = none := by
    intro t ht
    obtain ⟨_, -, rfl⟩ := List.mem_map.mp ht
    rfl
  refine ⟨by simp [idle, Function.comp_def], by rw [begun_idle]; rfl, ?_, ?_⟩
  · intro t ht r hr
    rw [hnone t ht] at hr
    cases hr
  · rw [begun_idle]
    refine iff_of_false ?_ ?_
    · rintro ⟨t, ht, hr⟩
      rw [hnone t ht] at hr
      cases hr
    · rintro ⟨k, hk, -⟩
      exact Nat.not_lt_zero k hk

/-- A task that is taken up comes to its own outcome, or to the error of its stage if and only if its
reading came after the deadline. -/
theorem Kept.insert {w now : Watch} {tasks : List τ}
    {before after : List (τ × Option (Except String β))} {t : τ} {r : Except String β}
    (h : Kept stage work w tasks ⟨now, before ++ (t, none) :: after⟩)
    (outcome : r = .error stage ∨ r = work t)
    (expires : r = .error stage ↔ now.expiredAfter 0 = true) :
    Kept stage work w tasks
      ⟨{ now with readings := now.readings + 1 }, before ++ (t, some r) :: after⟩ := by
  obtain ⟨htasks, hwatch, houtcomes, hraised⟩ := h
  have hbegun := fun later : Watch => begun_insert now later before after t r
  generalize begun ⟨now, before ++ (t, none) :: after⟩ = n at hbegun hwatch hraised
  subst hwatch
  rw [Watch.expiredAfter_advanced, Nat.add_zero] at expires
  refine ⟨by simpa using htasks, ?_, ?_, ?_⟩
  · rw [hbegun, ← Nat.add_assoc]
  · simp only [List.forall_mem_append, List.forall_mem_cons] at houtcomes ⊢
    refine ⟨houtcomes.1, ?_, houtcomes.2.2⟩
    rintro _ ⟨⟩
    exact outcome
  · have hmore : (∃ u ∈ before ++ (t, some r) :: after, u.2 = some (.error stage)) ↔
        (∃ u ∈ before ++ (t, none) :: after, u.2 = some (.error stage)) ∨ r = .error stage := by
      simp only [List.mem_append, List.mem_cons, or_and_right, exists_or, exists_eq_left,
        Option.some.injEq, reduceCtorEq, false_or]
      rw [or_right_comm, or_assoc]
    rw [hmore, hraised, expires, hbegun]
    simp only [Nat.lt_succ_iff_lt_or_eq, or_and_right, exists_or, exists_eq_left]

theorem Kept.works {w : Watch} {tasks : List τ} (able : ∀ t ∈ tasks, ∃ v, work t = .ok v)
    {c later : Crew τ β} (h : Kept stage work w tasks c) (hw : Works stage work c later) :
    Kept stage work w tasks later := by
  cases hw with
  | raises before after expired => exact h.insert (.inl rfl) (iff_of_true rfl expired)
  | does before after running =>
    rename_i now t
    obtain ⟨v, hv⟩ := able t (by rw [← h.tasks]; simp)
    refine h.insert (.inr rfl) (iff_of_false ?_ (Bool.eq_false_iff.mp running))
    rw [hv]
    exact nofun

/-- How many tasks are left. -/
def left (c : Crew τ β) : Nat := c.tasks.countP (·.2.isNone)

theorem left_lt {c later : Crew τ β} (h : Works stage work c later) : later.left < c.left := by
  cases h <;> simp [left]

theorem begun_of_finished {c : Crew τ β} (h : c.Finished) : c.begun = c.tasks.length := by
  rw [begun, List.countP_eq_length]
  intro t ht
  exact Option.isSome_iff_ne_none.mpr (h t ht)

theorem exists_results {c : Crew τ β} (h : c.Finished) :
    ∃ rs : List (τ × Except String β), c.tasks = rs.map fun t => (t.1, some t.2) := by
  obtain ⟨w, tasks⟩ := c
  rw [Finished] at h
  induction tasks with
  | nil => exact ⟨[], rfl⟩
  | cons t rest ih =>
    obtain ⟨t, r⟩ := t
    rw [List.forall_mem_cons] at h
    obtain ⟨rs, hrs⟩ := ih h.2
    obtain ⟨r, rfl⟩ := Option.ne_none_iff_exists'.mp h.1
    exact ⟨(t, r) :: rs, congrArg (_ :: ·) hrs⟩

theorem results_of_tasks {c : Crew τ β} {rs : List (τ × Except String β)}
    (h : c.tasks = rs.map fun t => (t.1, some t.2)) :
    c.results = rs.mapM fun t => do return (t.1, ← t.2) := by
  rw [results, h, List.filterMap_map]
  exact congrArg _ List.filterMap_some

/-- Once all tasks have been taken up, an error has been raised if the deadline passed on one of the
readings, and else all work is done. -/
theorem Kept.results_eq {w : Watch} {tasks : List τ} {value : τ → β}
    (able : ∀ t ∈ tasks, work t = .ok (value t)) {c : Crew τ β} (h : Kept stage work w tasks c)
    (finished : c.Finished) :
    c.results = match w.check? tasks.length with
      | none => .error stage
      | some _ => .ok (tasks.map fun t => (t, value t)) := by
  obtain ⟨rs, hrs⟩ := exists_results finished
  have hlength : c.begun = tasks.length := by
    rw [begun_of_finished finished, ← h.tasks, List.length_map]
  have htasks : rs.map Prod.fst = tasks := by
    rw [← h.tasks, hrs, List.map_map]
    rfl
  have hdone : ∀ t ∈ rs, t.2 = .error stage ∨ t.2 = .ok (value t.1) := by
    intro t ht
    rw [← able t.1 (by rw [← htasks]; exact List.mem_map_of_mem ht)]
    exact h.outcomes (t.1, some t.2) (by rw [hrs]; exact List.mem_map_of_mem ht) t.2 rfl
  have hraised : (∃ t ∈ rs, t.2 = .error stage) ↔ ∃ k < tasks.length, w.expiredAfter k = true := by
    rw [← hlength, ← h.raised, hrs]
    simp
  rw [results_of_tasks hrs]
  cases hw : w.check? tasks.length with
  | none =>
    obtain ⟨t, ht, hr⟩ := hraised.mpr (Watch.check?_eq_none_iff.mp hw)
    refine mapM_error ⟨t, ht, by rw [hr]; rfl⟩ ?_
    intro u hu e he
    rcases hdone u hu with h | h
    · rw [h] at he
      cases he
      rfl
    · rw [h] at he
      cases he
  | some later =>
    have hall : ∀ t ∈ rs, (do return (t.1, ← t.2) : Except String (τ × β)) =
        .ok (t.1, value t.1) := by
      intro t ht
      rcases hdone t ht with h | h
      · obtain ⟨k, hk, he⟩ := hraised.mp ⟨t, ht, h⟩
        rw [(Watch.check?_eq_some_iff.mp hw).1 k hk] at he
        cases he
      · rw [h]
        rfl
    rw [mapM_ok hall, ← htasks, List.map_map]
    rfl

/-- A crew settles, in whatever order its tasks are taken up. -/
theorem settles (stage : String) {tasks : List τ} {value : τ → β}
    (able : ∀ t ∈ tasks, work t = .ok (value t)) (w : Watch) :
    Settles (Works stage work) Finished results (idle w tasks)
      (match w.check? tasks.length with
        | none => .error stage
        | some _ => .ok (tasks.map fun t => (t, value t))) := by
  apply Settles.of_invariant (Kept stage work w tasks) left
  · exact kept_idle w tasks
  · intro c later h hw
    exact h.works (fun t ht => ⟨_, able t ht⟩) hw
  · intro c later _ hw
    exact left_lt hw
  · intro c h hnot
    obtain ⟨now, all⟩ := c
    rw [Finished] at hnot
    push Not at hnot
    obtain ⟨⟨t, r⟩, ht, rfl⟩ := hnot
    obtain ⟨before, after, rfl⟩ := List.append_of_mem ht
    cases hr : now.expiredAfter 0 with
    | true => exact ⟨_, .raises before after hr⟩
    | false => exact ⟨_, .does before after hr⟩
  · intro c h finished
    exact h.results_eq able finished

end Crew

end DocAtlas
