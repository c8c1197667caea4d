import DocAtlas.Graph.Cycles
import Mathlib.Data.List.Chain
import Mathlib.Data.List.Nodup
import Mathlib.Data.List.Perm.Subperm
import Mathlib.Logic.Relation

/-!
The search for inheritance cycles as a run of steps: a stack of the ids that are being searched,
each with those of its parents that are still to be looked at. The main statement is that what each
step keeps holds at the end of the search, when all ids have been entered.
-/
namespace DocAtlas.Inheritance

variable {ids : List String} {edges : List Edge}

/-- `child` inherits from `parent`, both being among the ids. -/
def Extends (ids : List String) (edges : List Edge) (child parent : String) : Prop :=
  ⟨child, parent, .inherits⟩ ∈ edges ∧ child ∈ ids ∧ parent ∈ ids

theorem mem_parents {child parent : String} :
    parent ∈ parents ids edges child ↔ Extends ids edges child parent := by
  simp only [parents, Extends, List.mem_map, List.mem_filter, Bool.and_eq_true, beq_iff_eq,
    decide_eq_true_eq, List.contains_iff_mem]
  constructor
  · rintro ⟨⟨source, target, relation⟩, ⟨he, ⟨⟨rfl, rfl⟩, hs⟩, ht⟩, rfl⟩
    exact ⟨he, hs, ht⟩
  · rintro ⟨he, hc, hp⟩
    exact ⟨⟨child, parent, .inherits⟩, ⟨he, ⟨⟨rfl, rfl⟩, hc⟩, hp⟩, rfl⟩

theorem parents_nodup (distinct : edges.Nodup) (child : String) :
    (parents ids edges child).Nodup := by
  refine List.Nodup.map_on ?_ (distinct.filter _)
  rintro ⟨source, target, relation⟩ he ⟨source', target', relation'⟩ he' rfl
  have hk := (List.mem_filter.mp he).2
  have hk' := (List.mem_filter.mp he').2
  simp only [Bool.and_eq_true, beq_iff_eq, decide_eq_true_eq] at hk hk'
  obtain ⟨⟨⟨rfl, rfl⟩, -⟩, -⟩ := hk
  obtain ⟨⟨⟨rfl, rfl⟩, -⟩, -⟩ := hk'
  rfl

/-- An id that is being searched and those of its parents that are still to be looked at. -/
structure Frame where
  id : String
  pending : List String

/-- The ids that are being searched, each entered from the one after it, and what has been found. -/
structure Moment where
  frames : List Frame
  found : Search

def Moment.path (m : Moment) : List String := m.frames.map (·.id)

/-- One step of the search. Where no id is being searched, a new one is started from; otherwise the
next parent of the innermost id is entered, closes a cycle, or is skipped, and an id without pending
parents is left. -/
inductive Step (ids : List String) (edges : List Edge) : Moment → Moment → Prop
  | start {id : String} {s : Search} (known : id ∈ ids) (new : id ∉ s.seen) :
    Step ids edges ⟨[], s⟩ ⟨[⟨id, parents ids edges id⟩], { s with seen := id :: s.seen }⟩
  | enter {id parent : String} {pending : List String} {below : List Frame} {s : Search}
    (new : parent ∉ s.seen) :
    Step ids edges ⟨⟨id, parent :: pending⟩ :: below, s⟩
      ⟨⟨parent, parents ids edges parent⟩ :: ⟨id, pending⟩ :: below,
        { s with seen := parent :: s.seen }⟩
  | close {id parent : String} {pending : List String} {below : List Frame} {s : Search}
    (onPath : parent ∈ id :: below.map (·.id)) :
    Step ids edges ⟨⟨id, parent :: pending⟩ :: below, s⟩
      ⟨⟨id, pending⟩ :: below,
        { s with cycles := s.cycles ++ [Inheritance.close (id :: below.map (·.id)) parent] }⟩
  | skip {id parent : String} {pending : List String} {below : List Frame} {s : Search}
    (old : parent ∈ s.seen) (offPath : parent ∉ id :: below.map (·.id)) :
    Step ids edges ⟨⟨id, parent :: pending⟩ :: below, s⟩ ⟨⟨id, pending⟩ :: below, s⟩
  | leave {id : String} {below : List Frame} {s : Search} :
    Step ids edges ⟨⟨id, []⟩ :: below, s⟩ ⟨below, s⟩

/-- Whatever has been found stays found. -/
structure Search.Grows (s t : Search) : Prop where
  seen : s.seen ⊆ t.seen
  cycles : s.cycles ⊆ t.cycles

theorem Step.grows {m n : Moment} (h : Step ids edges m n) : m.found.Grows n.found := by
  cases h with
  | start | enter => exact ⟨List.subset_cons_self _ _, List.Subset.refl _⟩
  | close => exact ⟨List.Subset.refl _, List.subset_append_left _ _⟩
  | skip | leave => exact ⟨List.Subset.refl _, List.Subset.refl _⟩

/-- What holds of the stack: its ids were entered, are distinct and linked by inheritance, and the
parents of each have been taken from the front. -/
structure Orderly (ids : List String) (edges : List Edge) (m : Moment) : Prop where
  seen_known : m.found.seen ⊆ ids
  path_seen : m.path ⊆ m.found.seen
  path_nodup : m.path.Nodup
  linked : m.path.IsChain fun child parent => Extends ids edges parent child
  pending : ∀ f ∈ m.frames, f.pending <:+ parents ids edges f.id

namespace Orderly

variable {id parent : String} {pending : List String} {below : List Frame} {s : Search}

theorem extends_pending (h : Orderly ids edges ⟨⟨id, parent :: pending⟩ :: below, s⟩) :
    Extends ids edges id parent :=
  mem_parents.mp ((h.pending _ List.mem_cons_self).subset List.mem_cons_self)

/-- The next parent has been looked at. -/
theorem drop (h : Orderly ids edges ⟨⟨id, parent :: pending⟩ :: below, s⟩)
    (cycles : List (List String)) :
    Orderly ids edges ⟨⟨id, pending⟩ :: below, { s with cycles := cycles }⟩ where
  seen_known := h.seen_known
  path_seen := h.path_seen
  path_nodup := h.path_nodup
  linked := h.linked
  pending := by
    have hp := h.pending
    rw [List.forall_mem_cons] at hp ⊢
    exact ⟨(List.suffix_cons _ _).trans hp.1, hp.2⟩

/-- A new id is entered from the head of the stack. -/
theorem push {frames : List Frame} (h : Orderly ids edges ⟨frames, s⟩) (known : id ∈ ids)
    (new : id ∉ s.seen)
    (entered : ∀ child ∈ (frames.map (·.id)).head?, Extends ids edges child id) :
    Orderly ids edges
      ⟨⟨id, parents ids edges id⟩ :: frames, { s with seen := id :: s.seen }⟩ where
  seen_known := List.cons_subset.mpr ⟨known, h.seen_known⟩
  path_seen := List.cons_subset_cons id h.path_seen
  path_nodup := List.nodup_cons.mpr ⟨fun hm => new (h.path_seen hm), h.path_nodup⟩
  linked := h.linked.cons entered
  pending := List.forall_mem_cons.mpr ⟨List.suffix_refl _, h.pending⟩

theorem pop (h : Orderly ids edges ⟨⟨id, pending⟩ :: below, s⟩) :
    Orderly ids edges ⟨below, s⟩ where
  seen_known := h.seen_known
  path_seen := (List.cons_subset.mp h.path_seen).2
  path_nodup := (List.nodup_cons.mp h.path_nodup).2
  linked := h.linked.tail
  pending := (List.forall_mem_cons.mp h.pending).2

theorem step {m n : Moment} (hs : Step ids edges m n) (h : Orderly ids edges m) :
    Orderly ids edges n := by
  cases hs with
  | start known new => exact h.push known new (by simp)
  | @enter id parent pending below s new =>
    have hlink := h.extends_pending
    exact (h.drop s.cycles).push hlink.2.2 new (by simpa using hlink)
  | close => exact h.drop _
  | @skip id parent pending below s => exact h.drop s.cycles
  | leave => exact h.pop

theorem run {m n : Moment} (hs : Relation.ReflTransGen (Step ids edges) m n)
    (h : Orderly ids edges m) : Orderly ids edges n := by
  induction hs with
  | refl => exact h
  | tail _ hlast ih => exact ih.step hlast

theorem length_le {m : Moment} (h : Orderly ids edges m) : m.frames.length ≤ ids.length := by
  have hsub : m.path ⊆ ids := List.Subset.trans h.path_seen h.seen_known
  simpa [Moment.path] using (List.subperm_of_subset h.path_nodup hsub).length_le

end Orderly

/-! ### The recursion as a run -/

abbrev Run (ids : List String) (edges : List Edge) : Moment → Moment → Prop :=
  Relation.ReflTransGen (Step ids edges)

theorem run_seen_subset {m n : Moment} (h : Run ids edges m n) : m.found.seen ⊆ n.found.seen := by
  induction h with
  | refl => exact List.Subset.refl _
  | tail _ hlast ih => exact List.Subset.trans ih hlast.grows.seen

/-- If looking at one parent is a run, so is looking at all that are pending. -/
theorem run_pending {id : String} {below : List Frame} {look : Search → String → Search}
    (hlook : ∀ parent pending s, Orderly ids edges ⟨⟨id, parent :: pending⟩ :: below, s⟩ →
      Run ids edges ⟨⟨id, parent :: pending⟩ :: below, s⟩ ⟨⟨id, pending⟩ :: below, look s parent⟩)
    {pending : List String} {s : Search} (h : Orderly ids edges ⟨⟨id, pending⟩ :: below, s⟩) :
    Run ids edges ⟨⟨id, pending⟩ :: below, s⟩ ⟨below, pending.foldl look s⟩ := by
  induction pending generalizing s with
  | nil => exact .single .leave
  | cons parent pending ih =>
    have hfirst := hlook parent pending s h
    exact hfirst.trans (ih (h.run hfirst))

/-- With fuel for as many ids as can still be entered, a visit is a run that takes its id off the
stack again. -/
theorem run_visit {fuel : Nat} {id : String} {below : List Frame} {s : Search}
    (h : Orderly ids edges ⟨⟨id, parents ids edges id⟩ :: below, s⟩)
    (hf : ids.length < fuel + below.length) :
    Run ids edges ⟨⟨id, parents ids edges id⟩ :: below, s⟩
      ⟨below, visit (parents ids edges) fuel (id :: below.map (·.id)) s⟩ := by
  induction fuel generalizing id below s with
  | zero =>
    have hl := h.length_le
    simp only [List.length_cons] at hl
    omega
  | succ fuel ih =>
    rw [visit]
    refine run_pending ?_ h
    intro parent pending s h
    by_cases hseen : parent ∈ s.seen
    · by_cases hopen : parent ∈ id :: below.map (·.id)
      · simpa [hseen, hopen] using Relation.ReflTransGen.single (.close hopen)
      · simpa [hseen, hopen] using Relation.ReflTransGen.single (.skip hseen hopen)
    · have henter : Step ids edges ⟨⟨id, parent :: pending⟩ :: below, s⟩ _ := .enter hseen
      have hvisit := ih (h.step henter) (by simp only [List.length_cons]; omega)
      simpa [hseen] using Relation.ReflTransGen.head henter hvisit

/-- What has been found once an id has been searched from, unless it was entered before. -/
def searchFrom (ids : List String) (edges : List Edge) (s : Search) (id : String) : Search :=
  if s.seen.contains id then s
  else visit (parents ids edges) (ids.length + 1) [id] { s with seen := id :: s.seen }

theorem findCycles_eq (ids : List String) (edges : List Edge) :
    findCycles ids edges = (ids.foldl (searchFrom ids edges) {}).cycles := rfl

theorem run_searchFrom {id : String} {s : Search} (h : Orderly ids edges ⟨[], s⟩)
    (known : id ∈ ids) :
    Run ids edges ⟨[], s⟩ ⟨[], searchFrom ids edges s id⟩ ∧
      id ∈ (searchFrom ids edges s id).seen := by
  by_cases hseen : id ∈ s.seen
  · have hsame : searchFrom ids edges s id = s := by simp [searchFrom, hseen]
    rw [hsame]
    exact ⟨.refl, hseen⟩
  · have hvisited : searchFrom ids edges s id =
        visit (parents ids edges) (ids.length + 1) [id] { s with seen := id :: s.seen } := by
      simp [searchFrom, hseen]
    have hstart : Step ids edges ⟨[], s⟩ _ := .start known hseen
    have hvisit := run_visit (h.step hstart) (show ids.length < ids.length + 1 + 0 by omega)
    rw [hvisited]
    exact ⟨.head hstart hvisit, run_seen_subset hvisit List.mem_cons_self⟩

theorem run_foldl {starts : List String} (known : starts ⊆ ids) {s : Search}
    (h : Orderly ids edges ⟨[], s⟩) :
    Run ids edges ⟨[], s⟩ ⟨[], starts.foldl (searchFrom ids edges) s⟩ ∧
      starts ⊆ (starts.foldl (searchFrom ids edges) s).seen := by
  induction starts generalizing s with
  | nil => exact ⟨.refl, List.nil_subset _⟩
  | cons id rest ih =>
    rw [List.cons_subset] at known
    obtain ⟨hfirst, hid⟩ := run_searchFrom h known.1
    obtain ⟨hrest, hseen⟩ := ih known.2 (h.run hfirst)
    exact ⟨hfirst.trans hrest, List.cons_subset.mpr ⟨run_seen_subset hrest hid, hseen⟩⟩

/-- What holds before the search and is kept by each of its steps holds at its end, when all ids
have been entered and none is being searched. -/
theorem exists_end (ids : List String) (edges : List Edge) {P : Moment → Prop}
    (before : P ⟨[], {}⟩)
    (step : ∀ m n, Step ids edges m n → Orderly ids edges m → P m → P n) :
    ∃ s : Search, P ⟨[], s⟩ ∧ ids ⊆ s.seen ∧ s.cycles = findCycles ids edges := by
  have hempty : Orderly ids edges ⟨[], {}⟩ :=
    ⟨List.nil_subset _, List.nil_subset _, List.nodup_nil, List.isChain_nil, by simp⟩
  obtain ⟨hrun, hseen⟩ := run_foldl (List.Subset.refl ids) hempty
  refine ⟨_, ?_, hseen, (findCycles_eq ids edges).symm⟩
  generalize (⟨[], ids.foldl (searchFrom ids edges) {}⟩ : Moment) = last at hrun
  induction hrun with
  | refl => exact before
  | tail hbefore hlast ih => exact step _ _ hlast (hempty.run hbefore) ih

end DocAtlas.Inheritance
