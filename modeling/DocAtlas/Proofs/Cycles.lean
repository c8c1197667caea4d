import DocAtlas.Proofs.Searching

/-!
Inheritance cycles: each that is found is a loop of the inheritance among the ids, and no two of
them are closed by the same edge.
-/
namespace DocAtlas.Inheritance

variable {ids : List String} {edges : List Edge}

/-- A path along links that ends where it begins and meets no other id twice. -/
structure IsLoop (link : String → String → Prop) (cycle : List String) : Prop where
  two_le : 2 ≤ cycle.length
  returns : cycle.head? = cycle.getLast?
  simple : cycle.dropLast.Nodup
  linked : cycle.IsChain link

/-- The last step of the path is from `child` to `parent`. -/
def ClosedBy (cycle : List String) (child parent : String) : Prop := [child, parent] <:+ cycle

theorem closedBy_append {front : List String} {last first child parent : String} :
    ClosedBy (front ++ [last, first]) child parent ↔ child = last ∧ parent = first := by
  constructor
  · rintro ⟨before, h⟩
    have hends := (List.append_inj' h rfl).2
    simpa using hends
  · rintro ⟨rfl, rfl⟩
    exact List.suffix_append _ _

/-- A closed path goes back from the id that it closes to the head of the search. -/
theorem close_eq {id parent : String} {above : List String} (h : parent ∈ id :: above) :
    ∃ between, id :: between <+: id :: above ∧ (id :: between).getLast? = some parent ∧
      close (id :: above) parent = between.reverse ++ [id, parent] := by
  obtain ⟨front, rest, hpath, hnew⟩ := List.eq_append_cons_of_mem h
  have hfront : (id :: above).takeWhile (· != parent) = front := by
    have hall : ∀ other ∈ front, (other != parent) = true := by
      intro other hm
      rw [bne_iff_ne]
      rintro rfl
      exact hnew hm
    rw [hpath, List.takeWhile_append_of_pos hall]
    simp
  obtain ⟨between, hbetween⟩ : ∃ between, front ++ [parent] = id :: between := by
    cases front with
    | nil => exact ⟨[], by simpa using (List.cons.inj hpath).1.symm⟩
    | cons first front => exact ⟨front ++ [parent], by simp [(List.cons.inj hpath).1]⟩
  refine ⟨between, ?_, ?_, ?_⟩
  · rw [← hbetween, hpath]
    exact ⟨rest, by simp⟩
  · rw [← hbetween, List.getLast?_concat]
  · rw [close, hfront, hbetween]
    simp

section Close

variable {id parent : String} {pending : List String} {below : List Frame} {s : Search}
  (h : Orderly ids edges ⟨⟨id, parent :: pending⟩ :: below, s⟩)
  (onPath : parent ∈ id :: below.map (·.id))

include onPath in
theorem closedBy_close {child other : String} :
    ClosedBy (close (id :: below.map (·.id)) parent) child other ↔
      child = id ∧ other = parent := by
  obtain ⟨between, -, -, hclose⟩ := close_eq onPath
  rw [hclose, closedBy_append]

include h onPath in
theorem isLoop_close :
    IsLoop (Extends ids edges) (close (id :: below.map (·.id)) parent) := by
  obtain ⟨between, hprefix, hlast, hclose⟩ := close_eq onPath
  have hturned : between.reverse ++ [id, parent] = (id :: between).reverse ++ [parent] := by simp
  rw [hclose]
  exact {
    two_le := by simp
    returns := by
      rw [hturned, List.head?_append, List.head?_reverse, hlast, List.getLast?_concat]
      rfl
    simple := by
      rw [hturned, List.dropLast_concat, List.nodup_reverse]
      exact h.path_nodup.sublist hprefix.sublist
    linked := by
      rw [List.isChain_append_cons_cons]
      refine ⟨?_, h.extends_pending, List.isChain_singleton parent⟩
      rw [← List.reverse_cons, List.isChain_reverse]
      exact h.linked.prefix hprefix }

end Close

theorem isLoop_of_findCycles {cycle : List String} (h : cycle ∈ findCycles ids edges) :
    IsLoop (Extends ids edges) cycle := by
  have hstep : ∀ m n, Step ids edges m n → Orderly ids edges m →
      (∀ cycle ∈ m.found.cycles, IsLoop (Extends ids edges) cycle) →
      ∀ cycle ∈ n.found.cycles, IsLoop (Extends ids edges) cycle := by
    intro m n hs horder hloops
    cases hs with
    | start | enter | skip | leave => exact hloops
    | close onPath =>
      rw [List.forall_mem_append, List.forall_mem_singleton]
      exact ⟨hloops, isLoop_close horder onPath⟩
  obtain ⟨s, hloops, -, hcycles⟩ := exists_end ids edges (by simp) hstep
  exact hloops cycle (hcycles ▸ h)

theorem IsLoop.subset {cycle : List String} (h : IsLoop (Extends ids edges) cycle) :
    cycle ⊆ ids := by
  refine List.IsChain.induction (· ∈ ids) cycle h.linked (fun _ _ hlink _ => hlink.2.2) ?_
  intro hne
  match cycle, h.two_le, h.linked with
  | _ :: _ :: _, _, hlinked => exact (List.isChain_cons_cons.mp hlinked).1.2.1

theorem findCycles_subset {cycle : List String} (h : cycle ∈ findCycles ids edges) :
    cycle ⊆ ids :=
  (isLoop_of_findCycles h).subset

/-- No two cycles found are closed by the same edge, nor is one closed by an edge that is still to
be looked at. -/
structure ClosedApart (m : Moment) : Prop where
  child_seen : ∀ cycle ∈ m.found.cycles, ∀ child parent, ClosedBy cycle child parent →
    child ∈ m.found.seen
  pending : ∀ f ∈ m.frames, ∀ parent ∈ f.pending, ∀ cycle ∈ m.found.cycles,
    ¬ClosedBy cycle f.id parent
  apart : m.found.cycles.Pairwise fun p q => ∀ child parent, ClosedBy p child parent →
    ¬ClosedBy q child parent

namespace ClosedApart

variable {id parent : String} {pending : List String} {below : List Frame} {s : Search}

theorem drop (h : ClosedApart ⟨⟨id, parent :: pending⟩ :: below, s⟩) :
    ClosedApart ⟨⟨id, pending⟩ :: below, s⟩ where
  child_seen := h.child_seen
  pending := by
    have hp := h.pending
    rw [List.forall_mem_cons] at hp ⊢
    exact ⟨fun other hm => hp.1 other (List.mem_cons_of_mem _ hm), hp.2⟩
  apart := h.apart

/-- By no edge of an id that is entered only now a cycle is closed. -/
theorem push {frames : List Frame} (h : ClosedApart ⟨frames, s⟩) (new : id ∉ s.seen) :
    ClosedApart ⟨⟨id, parents ids edges id⟩ :: frames, { s with seen := id :: s.seen }⟩ where
  child_seen := fun cycle hc child parent hclosed =>
    List.mem_cons_of_mem _ (h.child_seen cycle hc child parent hclosed)
  pending := by
    rw [List.forall_mem_cons]
    refine ⟨?_, h.pending⟩
    intro parent _ cycle hc hclosed
    exact new (h.child_seen cycle hc id parent hclosed)
  apart := h.apart

theorem close (distinct : edges.Nodup) (h : ClosedApart ⟨⟨id, parent :: pending⟩ :: below, s⟩)
    (horder : Orderly ids edges ⟨⟨id, parent :: pending⟩ :: below, s⟩)
    (onPath : parent ∈ id :: below.map (·.id)) :
    ClosedApart ⟨⟨id, pending⟩ :: below,
      { s with cycles := s.cycles ++ [Inheritance.close (id :: below.map (·.id)) parent] }⟩ := by
  have hparents : (parent :: pending).Nodup :=
    (horder.pending _ List.mem_cons_self).sublist.nodup (parents_nodup distinct id)
  have hbelow : ∀ f ∈ below, f.id ≠ id := fun f hf hid =>
    (List.nodup_cons.mp horder.path_nodup).1 (List.mem_map.mpr ⟨f, hf, hid⟩)
  have hdrop := List.forall_mem_cons.mp h.drop.pending
  refine ⟨?_, ?_, ?_⟩
  · rw [List.forall_mem_append, List.forall_mem_singleton]
    refine ⟨h.child_seen, ?_⟩
    intro child other hclosed
    rw [((closedBy_close onPath).mp hclosed).1]
    exact horder.path_seen List.mem_cons_self
  · simp only [List.forall_mem_cons, List.forall_mem_append, closedBy_close onPath]
    constructor
    · intro other hm
      refine ⟨hdrop.1 other hm, ?_, List.forall_mem_nil _⟩
      rintro ⟨-, rfl⟩
      exact (List.nodup_cons.mp hparents).1 hm
    · intro f hf other hm
      exact ⟨hdrop.2 f hf other hm, fun he => hbelow f hf he.1, List.forall_mem_nil _⟩
  · rw [List.pairwise_append]
    refine ⟨h.apart, List.pairwise_singleton _ _, ?_⟩
    intro p hp q hq child other hclosed
    rw [List.mem_singleton.mp hq, closedBy_close onPath]
    rintro ⟨rfl, rfl⟩
    exact h.pending _ List.mem_cons_self _ List.mem_cons_self p hp hclosed

theorem step (distinct : edges.Nodup) {m n : Moment} (hs : Step ids edges m n)
    (horder : Orderly ids edges m) (h : ClosedApart m) : ClosedApart n := by
  cases hs with
  | start known new => exact h.push new
  | enter new => exact h.drop.push new
  | close onPath => exact h.close distinct horder onPath
  | skip => exact h.drop
  | leave => exact ⟨h.child_seen, (List.forall_mem_cons.mp h.pending).2, h.apart⟩

end ClosedApart

/-- Every cycle that is found is a simple loop of the inheritance among the ids. If no edge is given
twice, no two of them are closed by the same edge. -/
theorem findCycles_simple (ids : List String) (edges : List Edge) (distinct : edges.Nodup) :
    (∀ cycle ∈ findCycles ids edges, IsLoop (Extends ids edges) cycle) ∧
      (findCycles ids edges).Pairwise fun p q =>
        ∀ child parent, ClosedBy p child parent → ¬ClosedBy q child parent := by
  refine ⟨fun cycle hc => isLoop_of_findCycles hc, ?_⟩
  have hempty : ClosedApart ⟨[], {}⟩ := ⟨by simp, by simp, List.Pairwise.nil⟩
  obtain ⟨s, hapart, -, hcycles⟩ := exists_end ids edges hempty
    fun m n hstep horder h => h.step distinct hstep horder
  rw [← hcycles]
  exact hapart.apart

/-- Two cycles that share an edge, a loop at one id, and an edge that is not of inheritance. -/
def crossing : List Edge :=
  [⟨"a", "b", .inherits⟩, ⟨"b", "a", .inherits⟩, ⟨"b", "c", .inherits⟩,
    ⟨"c", "a", .inherits⟩, ⟨"c", "c", .inherits⟩, ⟨"c", "b", .uses⟩]

theorem findCycles_crossing_simple :
    crossing.Nodup ∧
      findCycles ["a", "b", "c"] crossing = [["a", "b", "a"], ["a", "b", "c", "a"], ["c", "c"]] ∧
      (∀ cycle ∈ findCycles ["a", "b", "c"] crossing,
        IsLoop (Extends ["a", "b", "c"] crossing) cycle) ∧
      (findCycles ["a", "b", "c"] crossing).Pairwise fun p q =>
        ∀ child parent, ClosedBy p child parent → ¬ClosedBy q child parent := by
  have distinct : crossing.Nodup := by decide
  have hfound : findCycles ["a", "b", "c"] crossing =
      [["a", "b", "a"], ["a", "b", "c", "a"], ["c", "c"]] := by decide
  exact ⟨distinct, hfound, findCycles_simple ["a", "b", "c"] crossing distinct⟩

end DocAtlas.Inheritance
