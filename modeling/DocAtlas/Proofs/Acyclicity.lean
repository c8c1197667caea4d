import DocAtlas.Proofs.Cycles

/-!
The search for inheritance cycles misses none: without the edges that close the cycles it finds, the
inheritance goes round nowhere.
-/
namespace DocAtlas.Inheritance

variable {ids : List String} {edges : List Edge}

/-- No way along the links comes back to where it began. -/
def Acyclic (link : String → String → Prop) : Prop := ∀ id, ¬Relation.TransGen link id id

/-- `child` inherits from `parent`, and by this edge none of the cycles is closed. -/
def Remains (ids : List String) (edges : List Edge) (cycles : List (List String))
    (child parent : String) : Prop :=
  Extends ids edges child parent ∧ ∀ cycle ∈ cycles, ¬ClosedBy cycle child parent

theorem remains_nil : Remains ids edges [] = Extends ids edges := by
  funext child parent
  simp [Remains]

/-- Every way from the id along remaining edges ends. -/
def Ends (ids : List String) (edges : List Edge) (cycles : List (List String)) (id : String) :
    Prop :=
  Acc (fun parent child => Remains ids edges cycles child parent) id

theorem Ends.append {cycles : List (List String)} {id : String} (h : Ends ids edges cycles id)
    (more : List (List String)) : Ends ids edges (cycles ++ more) id :=
  Subrelation.accessible
    (fun hr => ⟨hr.1, fun cycle hc => hr.2 cycle (List.mem_append_left _ hc)⟩) h

/-- A parent of an id that is being searched has been dealt with: by the edge to it a cycle is
closed, or it was entered and is not on `path`, the part of the stack up to that id. -/
def Dealt (s : Search) (path : List String) (id parent : String) : Prop :=
  (∃ cycle ∈ s.cycles, ClosedBy cycle id parent) ∨ parent ∈ s.seen ∧ parent ∉ path

/-- Every parent of the id of a frame is pending or has been dealt with. -/
def Frame.Traced (ids : List String) (edges : List Edge) (s : Search) (f : Frame)
    (below : List Frame) : Prop :=
  ∀ parent, Extends ids edges f.id parent →
    parent ∈ f.pending ∨ Dealt s (f.id :: below.map (·.id)) f.id parent

namespace Frame

variable {f : Frame} {below : List Frame} {s t : Search}

theorem traced_new {id : String} : Traced ids edges s ⟨id, parents ids edges id⟩ below :=
  fun _ hlink => .inl (mem_parents.mpr hlink)

theorem Traced.mono (h : f.Traced ids edges s below) (hgrows : s.Grows t) :
    f.Traced ids edges t below := by
  intro parent hlink
  rcases h parent hlink with hp | ⟨cycle, hc, hclosed⟩ | ⟨hold, hoff⟩
  · exact .inl hp
  · exact .inr (.inl ⟨cycle, hgrows.cycles hc, hclosed⟩)
  · exact .inr (.inr ⟨hgrows.seen hold, hoff⟩)

/-- The next parent has been dealt with. -/
theorem Traced.drop {id parent : String} {pending : List String}
    (h : Traced ids edges s ⟨id, parent :: pending⟩ below)
    (hdealt : Dealt s (id :: below.map (·.id)) id parent) :
    Traced ids edges s ⟨id, pending⟩ below := by
  intro other hlink
  rcases h other hlink with hp | hp
  · rcases List.mem_cons.mp hp with rfl | hp
    · exact .inr hdealt
    · exact .inl hp
  · exact .inr hp

end Frame

theorem forall_suffix_cons {P : Frame → List Frame → Prop} {g : Frame} {frames : List Frame} :
    (∀ f below, f :: below <:+ g :: frames → P f below) ↔
      P g frames ∧ ∀ f below, f :: below <:+ frames → P f below := by
  simp only [List.suffix_cons_iff, List.cons.injEq]
  constructor
  · intro h
    exact ⟨h g frames (.inl ⟨rfl, rfl⟩), fun f below hs => h f below (.inr hs)⟩
  · rintro ⟨hg, h⟩ f below (⟨rfl, rfl⟩ | hs)
    · exact hg
    · exact h f below hs

/-- From the ids that have been left every way ends, and those that are being searched are traced. -/
structure Finishing (ids : List String) (edges : List Edge) (m : Moment) : Prop where
  ends : ∀ id ∈ m.found.seen, id ∉ m.path → Ends ids edges m.found.cycles id
  traced : ∀ f below, f :: below <:+ m.frames → f.Traced ids edges m.found below

namespace Finishing

/-- Once all parents of an id have been looked at, what its remaining edges lead to has been left. -/
theorem ends_of_looked {id : String} {below : List Frame} {s : Search}
    (h : Finishing ids edges ⟨⟨id, []⟩ :: below, s⟩) : Ends ids edges s.cycles id := by
  refine Acc.intro id fun parent hr => ?_
  rcases h.traced _ below (List.suffix_refl _) parent hr.1 with hp | ⟨cycle, hc, hclosed⟩ | hleft
  · exact absurd hp List.not_mem_nil
  · exact absurd hclosed (hr.2 cycle hc)
  · exact h.ends parent hleft.1 hleft.2

theorem step {m n : Moment} (hs : Step ids edges m n) (horder : Orderly ids edges m)
    (h : Finishing ids edges m) : Finishing ids edges n := by
  have htraced := h.traced
  have hgrows := hs.grows
  cases hs with
  | @start id s known new =>
    constructor
    · intro other hother hoff
      have hold := List.mem_of_ne_of_mem (List.ne_of_not_mem_cons hoff) hother
      exact h.ends other hold List.not_mem_nil
    · rw [forall_suffix_cons]
      exact ⟨Frame.traced_new, by simp⟩
  | @enter id parent pending below s new =>
    rw [forall_suffix_cons] at htraced
    constructor
    · intro other hother hoff
      have hold := List.mem_of_ne_of_mem (List.ne_of_not_mem_cons hoff) hother
      exact h.ends other hold (List.not_mem_of_not_mem_cons hoff)
    · rw [forall_suffix_cons, forall_suffix_cons]
      refine ⟨Frame.traced_new, (htraced.1.mono hgrows).drop (.inr ⟨List.mem_cons_self, ?_⟩),
        fun f rest hf => (htraced.2 f rest hf).mono hgrows⟩
      -- the ids on the path were all entered before
      exact fun hon => new (horder.path_seen hon)
  | @close id parent pending below s onPath =>
    rw [forall_suffix_cons] at htraced
    constructor
    · exact fun other hother hoff => (h.ends other hother hoff).append _
    · rw [forall_suffix_cons]
      refine ⟨(htraced.1.mono hgrows).drop (.inl ⟨_, List.mem_concat_self, ?_⟩),
        fun f rest hf => (htraced.2 f rest hf).mono hgrows⟩
      exact (closedBy_close onPath).mpr ⟨rfl, rfl⟩
  | @skip id parent pending below s old offPath =>
    rw [forall_suffix_cons] at htraced
    refine ⟨h.ends, ?_⟩
    rw [forall_suffix_cons]
    exact ⟨htraced.1.drop (.inr ⟨old, offPath⟩), htraced.2⟩
  | @leave id below s =>
    refine ⟨?_, (forall_suffix_cons.mp htraced).2⟩
    intro other hother hoff
    by_cases hid : other = id
    · exact hid ▸ h.ends_of_looked
    · exact h.ends other hother (List.not_mem_cons_of_ne_of_not_mem hid hoff)

end Finishing

theorem ends_of_findCycles (ids : List String) (edges : List Edge) (id : String) :
    Ends ids edges (findCycles ids edges) id := by
  have hempty : Finishing ids edges ⟨[], {}⟩ := ⟨by simp, by simp⟩
  obtain ⟨s, hfinished, hseen, hcycles⟩ := exists_end ids edges hempty
    fun m n hstep horder h => h.step hstep horder
  rw [← hcycles]
  by_cases known : id ∈ ids
  · exact hfinished.ends id (hseen known) List.not_mem_nil
  · exact Acc.intro id fun parent hr => absurd hr.1.2.1 known

theorem acyclic_remains (ids : List String) (edges : List Edge) :
    Acyclic (Remains ids edges (findCycles ids edges)) := by
  have hwf : WellFounded (Function.swap (Remains ids edges (findCycles ids edges))) :=
    ⟨ends_of_findCycles ids edges⟩
  intro id hround
  have hback := Relation.transGen_swap.mpr hround
  exact hwf.transGen.asymmetric id id hback hback

theorem IsLoop.transGen {link : String → String → Prop} {cycle : List String}
    (h : IsLoop link cycle) : ∃ id, Relation.TransGen link id id := by
  match cycle, h.two_le, h.linked, h.returns with
  | first :: second :: rest, _, hlinked, hreturns =>
    obtain ⟨hlink, hrest⟩ := List.isChain_cons_cons.mp hlinked
    rw [List.head?_cons, List.getLast?_cons_cons, eq_comm, List.getLast?_eq_some_getLast
      (List.cons_ne_nil second rest)] at hreturns
    have hlast := Option.some.inj hreturns
    have hway := List.relationReflTransGen_of_exists_isChain_cons rest hrest hlast
    exact ⟨first, .head' hlink hway⟩

/-- The inheritance among the ids goes round nowhere without the edges that close the cycles found.
So no cycle is found exactly if there is none. -/
theorem findCycles_complete (ids : List String) (edges : List Edge) :
    Acyclic (Remains ids edges (findCycles ids edges)) ∧
      (findCycles ids edges = [] ↔ Acyclic (Extends ids edges)) := by
  have hacyclic := acyclic_remains ids edges
  refine ⟨hacyclic, ?_, ?_⟩
  · intro hnone
    rwa [hnone, remains_nil] at hacyclic
  · intro hacyclic
    rw [List.eq_nil_iff_forall_not_mem]
    intro cycle hc
    obtain ⟨id, hround⟩ := (isLoop_of_findCycles hc).transGen
    exact hacyclic id hround

end DocAtlas.Inheritance
