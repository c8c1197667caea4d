import Mathlib.Logic.Relation
import Mathlib.Order.WellFounded

/-!
Steps that may be taken in any order: they come to an end, and always with the same result.
-/
namespace DocAtlas

variable {State Result : Type}

/-- Whatever steps are taken from the start, they come to an end, and where they end is done, with
the given result. -/
structure Settles (Step : State → State → Prop) (Done : State → Prop) (read : State → Result)
    (start : State) (result : Result) : Prop where
  /-- There is no endless sequence of steps. -/
  ends : Acc (fun later earlier => Step earlier later) start
  /-- As long as a state is not done, there is a next step. -/
  goes_on : ∀ s, Relation.ReflTransGen Step start s → ¬Done s → ∃ later, Step s later
  result : ∀ s, Relation.ReflTransGen Step start s → Done s → read s = result

namespace Settles

variable {Step : State → State → Prop} {Done : State → Prop} {read : State → Result}
  {start : State} {result : Result}

/-- Steps settle if they keep an invariant under which each of them makes a measure smaller. -/
theorem of_invariant (Inv : State → Prop) (measure : State → Nat) (initial : Inv start)
    (kept : ∀ s later, Inv s → Step s later → Inv later)
    (smaller : ∀ s later, Inv s → Step s later → measure later < measure s)
    (next : ∀ s, Inv s → ¬Done s → ∃ later, Step s later)
    (final : ∀ s, Inv s → Done s → read s = result) : Settles Step Done read start result := by
  have hreached : ∀ s, Relation.ReflTransGen Step start s → Inv s := by
    intro s hs
    induction hs with
    | refl => exact initial
    | tail _ hstep ih => exact kept _ _ ih hstep
  have hacc : ∀ s, Inv s → Acc (fun later earlier => Step earlier later) s := by
    intro s hs
    induction hm : measure s using Nat.strongRecOn generalizing s with
    | ind m ih =>
      constructor
      intro later hstep
      exact ih _ (hm ▸ smaller s later hs hstep) later (kept s later hs hstep) rfl
  exact ⟨hacc start initial, fun s hs => next s (hreached s hs),
    fun s hs => final s (hreached s hs)⟩

/-- What is read off the result is the same in all orders, too. -/
theorem map {Answer : Type} (f : Result → Answer) (h : Settles Step Done read start result) :
    Settles Step Done (fun s => f (read s)) start (f result) where
  ends := h.ends
  goes_on := h.goes_on
  result s hs hdone := congrArg f (h.result s hs hdone)

end Settles

end DocAtlas
