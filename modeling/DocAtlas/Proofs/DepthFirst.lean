import DocAtlas.Diagram.Views
import Mathlib.Algebra.GroupWithZero.Nat
import Mathlib.Data.Finset.Card
import Mathlib.Data.List.Nodup
import Mathlib.Logic.Relation

/-!
The walk along calls and the recursive depth-first search. The main statement is that the walk, with
its stack of components whose targets are still to be looked at, makes the calls of the recursion.
-/
namespace DocAtlas.Graph

/-- The recursive search: of the `pending` neighbours of `id`, each that has not been entered is
entered by a call from `id`, searched from in turn, and left before the next one is looked at. -/
inductive Searches (next : String → List String) :
    List String → String → List String → List (String × String) → Prop
  | done {entered : List String} {id : String} : Searches next entered id [] []
  | known {entered pending : List String} {id target : String} {calls : List (String × String)}
    (old : target ∈ entered) (rest : Searches next entered id pending calls) :
    Searches next entered id (target :: pending) calls
  | enter {entered pending : List String} {id target : String}
    {inner calls : List (String × String)} (new : target ∉ entered)
    (within : Searches next (entered ++ [target]) target (next target) inner)
    (rest : Searches next (entered ++ target :: inner.map Prod.snd) id pending calls) :
    Searches next entered id (target :: pending) ((id, target) :: inner ++ calls)

variable {next : String → List String} {entered pending : List String} {id : String}
  {calls : List (String × String)}

/-! ### What a search finds -/

namespace Searches

theorem nodup (h : Searches next entered id pending calls) (distinct : entered.Nodup) :
    (entered ++ calls.map Prod.snd).Nodup := by
  induction h with
  | done => simpa using distinct
  | known _ _ ih => exact ih distinct
  | enter new _ _ ihWithin ihRest =>
    have hentered := distinct.append (List.nodup_singleton _) (List.disjoint_singleton.mpr new)
    have hwithin := ihWithin hentered
    rw [List.append_assoc] at hwithin
    simpa using ihRest hwithin

/-- All neighbours of what is searched have been entered in the end. -/
theorem covers (h : Searches next entered id pending calls) :
    (∀ target ∈ pending, target ∈ entered ++ calls.map Prod.snd) ∧
      ∀ c ∈ calls, ∀ target ∈ next c.2, target ∈ entered ++ calls.map Prod.snd := by
  induction h with
  | done => simp
  | known old _ ih =>
    exact ⟨List.forall_mem_cons.mpr ⟨List.mem_append_left _ old, ih.1⟩, ih.2⟩
  | @enter entered pending id target inner calls _ _ _ ihWithin ihRest =>
    have hinner : ∀ t, t ∈ entered ++ [target] ++ inner.map Prod.snd →
        t ∈ entered ++ ((id, target) :: inner ++ calls).map Prod.snd := by
      intro t ht
      simp only [List.map_append, List.map_cons, List.mem_append, List.mem_cons,
        List.not_mem_nil, or_false] at ht ⊢
      tauto
    have hrest : ∀ t, t ∈ entered ++ target :: inner.map Prod.snd ++ calls.map Prod.snd →
        t ∈ entered ++ ((id, target) :: inner ++ calls).map Prod.snd := by
      intro t ht
      simpa using ht
    refine ⟨List.forall_mem_cons.mpr ⟨by simp, fun t ht => hrest t (ihRest.1 t ht)⟩, ?_⟩
    rw [List.forall_mem_append, List.forall_mem_cons]
    exact ⟨⟨fun t ht => hinner t (ihWithin.1 t ht),
      fun c hc t ht => hinner t (ihWithin.2 c hc t ht)⟩,
      fun c hc t ht => hrest t (ihRest.2 c hc t ht)⟩

/-- A call follows a link from a component that was entered before the one that it enters. -/
theorem calls_follow (h : Searches next entered id pending calls) (linked : pending ⊆ next id) :
    ∀ c ∈ calls, c.2 ∈ next c.1 ∧ [c.1, c.2].Sublist (id :: calls.map Prod.snd) := by
  induction h with
  | done => simp
  | known _ _ ih => exact ih (List.cons_subset.mp linked).2
  | @enter entered pending id target inner calls _ _ _ ihWithin ihRest =>
    obtain ⟨htarget, hpending⟩ := List.cons_subset.mp linked
    simp only [List.map_append, List.map_cons, List.cons_append]
    rw [List.forall_mem_cons, List.forall_mem_append]
    refine ⟨⟨htarget, by simp⟩, fun c hc => ?_, fun c hc => ?_⟩
    · obtain ⟨hlink, hbefore⟩ := ihWithin (List.Subset.refl _) c hc
      exact ⟨hlink, (hbefore.trans (List.sublist_append_left _ _)).cons id⟩
    · obtain ⟨hlink, hbefore⟩ := ihRest hpending c hc
      exact ⟨hlink, hbefore.trans (.cons_cons id (List.sublist_append_right (target :: _) _))⟩

/-- What is entered is reached from the component that the search began with. -/
theorem reaches (h : Searches next entered id pending calls) (linked : pending ⊆ next id) :
    ∀ c ∈ calls, Relation.ReflTransGen (fun a b => b ∈ next a) id c.2 := by
  induction h with
  | done => simp
  | known _ _ ih => exact ih (List.cons_subset.mp linked).2
  | enter _ _ _ ihWithin ihRest =>
    obtain ⟨htarget, hpending⟩ := List.cons_subset.mp linked
    rw [List.cons_append, List.forall_mem_cons, List.forall_mem_append]
    exact ⟨.single htarget, fun c hc => .head htarget (ihWithin (List.Subset.refl _) c hc),
      ihRest hpending⟩

end Searches

/-- A search from the neighbours of a component enters exactly what is reached from it. -/
theorem Searches.mem_iff_reached (h : Searches next [id] id (next id) calls) {target : String} :
    target ∈ id :: calls.map Prod.snd ↔
      Relation.ReflTransGen (fun a b => b ∈ next a) id target := by
  constructor
  · rw [List.mem_cons, List.mem_map]
    rintro (rfl | ⟨c, hc, rfl⟩)
    · exact .refl
    · exact h.reaches (List.Subset.refl _) c hc
  · intro hreached
    induction hreached with
    | refl => exact List.mem_cons_self
    | @tail source target _ hlink ih =>
      rcases List.mem_cons.mp ih with rfl | hcalled
      · exact h.covers.1 target hlink
      · obtain ⟨c, hc, rfl⟩ := List.mem_map.mp hcalled
        exact h.covers.2 c hc target hlink

/-! ### Every search ends -/

theorem card_fresh_lt {ids entered entered' : List String} {target : String} (hid : target ∈ ids)
    (new : target ∉ entered) (hsub : entered ⊆ entered') (hnow : target ∈ entered') :
    (ids.toFinset \ entered'.toFinset).card < (ids.toFinset \ entered.toFinset).card := by
  refine Finset.card_lt_card (Finset.ssubset_iff_of_subset ?_ |>.mpr ⟨target, ?_, ?_⟩)
  · refine Finset.sdiff_subset_sdiff (Finset.Subset.refl _) fun id hid => ?_
    exact List.mem_toFinset.mpr (hsub (List.mem_toFinset.mp hid))
  · simp [hid, new]
  · simp [hnow]

/-- Where all neighbours are among finitely many ids, only so many can be entered. -/
theorem exists_searches {ids : List String} (closed : ∀ id ∈ ids, next id ⊆ ids)
    (entered : List String) (id : String) (known : pending ⊆ ids) :
    ∃ calls, Searches next entered id pending calls := by
  induction hfresh : (ids.toFinset \ entered.toFinset).card using Nat.strong_induction_on
    generalizing entered id pending with
  | _ fresh ihFresh =>
    induction pending with
    | nil => exact ⟨[], .done⟩
    | cons target pending ihPending =>
      obtain ⟨htarget, hpending⟩ := List.cons_subset.mp known
      by_cases hold : target ∈ entered
      · obtain ⟨calls, hcalls⟩ := ihPending hpending
        exact ⟨calls, .known hold hcalls⟩
      · subst hfresh
        obtain ⟨inner, hinner⟩ := ihFresh _ (card_fresh_lt htarget hold
          (List.subset_append_left entered [target]) (by simp)) (entered ++ [target]) target
          (closed target htarget) rfl
        obtain ⟨calls, hcalls⟩ := ihFresh _ (card_fresh_lt htarget hold
          (List.subset_append_left entered (target :: inner.map Prod.snd)) (by simp))
          (entered ++ target :: inner.map Prod.snd) id hpending rfl
        exact ⟨_, .enter hold hinner hcalls⟩

/-! ### The walk makes the search -/

/-- A walk that goes on by some calls. -/
def Walk.after (w : Walk) (calls : List (String × String)) : Walk :=
  ⟨(calls.map Prod.snd).reverse ++ w.entered, calls.reverse ++ w.calls⟩

theorem Walk.after_nil (w : Walk) : w.after [] = w := rfl

theorem Walk.after_append (w : Walk) (first second : List (String × String)) :
    w.after (first ++ second) = (w.after first).after second := by
  simp [Walk.after]

/-- The steps that a search takes: one for every target looked at, and one for leaving each
component. -/
def effort (next : String → List String) (pending : List String)
    (calls : List (String × String)) : Nat :=
  pending.length + 1 + (calls.map fun c => (next c.2).length + 1).sum

/-- Whatever lies below it on the stack, the search from a component is made and the component left.
-/
theorem follow_of_searches (h : Searches next entered id pending calls) {w : Walk}
    (same : ∀ target, target ∈ w.entered ↔ target ∈ entered) (fuel : Nat) (below : List Frame) :
    follow next (effort next pending calls + fuel) (⟨id, pending⟩ :: below) w =
      follow next fuel below (w.after calls) := by
  induction h generalizing w fuel below with
  | done =>
    have hstep : effort next [] [] + fuel = fuel + 1 := by
      simp only [effort, List.length_nil, List.map_nil, List.sum_nil]
      omega
    rw [hstep, follow, Walk.after_nil]
  | @known entered pending id target calls old _ ih =>
    have hstep : effort next (target :: pending) calls + fuel =
        effort next pending calls + fuel + 1 := by
      simp only [effort, List.length_cons]
      omega
    have hold : w.entered.contains target = true := List.contains_iff_mem.mpr ((same _).mpr old)
    rw [hstep, follow, if_pos hold]
    exact ih same fuel below
  | @enter entered pending id target inner calls new _ _ ihWithin ihRest =>
    have hstep : effort next (target :: pending) ((id, target) :: inner ++ calls) + fuel =
        effort next (next target) inner + (effort next pending calls + fuel) + 1 := by
      simp only [effort, List.length_cons, List.map_cons, List.map_append, List.sum_cons,
        List.sum_append, List.cons_append]
      omega
    have hnew : ¬w.entered.contains target = true := by
      rw [List.contains_iff_mem, same]
      exact new
    rw [hstep, follow, if_neg hnew, ihWithin (by simp [same, or_comm]), ihRest]
    · change _ = follow next fuel below (w.after ([(id, target)] ++ (inner ++ calls)))
      rw [Walk.after_append, Walk.after_append]
      rfl
    · intro t
      simp only [Walk.after, List.mem_append, List.mem_reverse, List.mem_cons, same]
      tauto

theorem follow_nil (fuel : Nat) (w : Walk) : follow next fuel [] w = w := by
  cases fuel <;> rfl

/-- With fuel for its steps the walk from a component makes the calls of the search. -/
theorem follow_eq (h : Searches next [id] id (next id) calls) {fuel : Nat}
    (enough : effort next (next id) calls ≤ fuel) :
    follow next fuel [⟨id, next id⟩] { entered := [id] } =
      ({ entered := [id] } : Walk).after calls := by
  obtain ⟨spare, rfl⟩ := Nat.exists_eq_add_of_le enough
  rw [follow_of_searches h (fun _ => Iff.rfl), follow_nil]

end DocAtlas.Graph
