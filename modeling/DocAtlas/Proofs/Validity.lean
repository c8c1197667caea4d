import DocAtlas.Graph.Basic
import Mathlib.Data.List.Nodup

/-!
What a graph's check of its ids and edges comes to.
-/
namespace DocAtlas.Graph

theorem distinct_iff {ids : List String} : distinct ids = true ↔ ids.Nodup := by
  induction ids with
  | nil => simp [distinct]
  | cons id rest ih => simp [distinct, ih]

/-- An edge leads from one of the ids to another one. -/
structure Joins (ids : List String) (e : Edge) : Prop where
  different : e.source ≠ e.target
  source : e.source ∈ ids
  target : e.target ∈ ids

theorem edgeFault?_eq_none_iff {ids : List String} {seen edges : List Edge} :
    edgeFault? ids seen edges = none ↔
      (∀ e ∈ edges, Joins ids e) ∧ edges.Nodup ∧ ∀ e ∈ edges, e ∉ seen := by
  induction edges generalizing seen with
  | nil => simp [edgeFault?]
  | cons e rest ih =>
    simp only [edgeFault?]
    split
    · rename_i hs
      simp only [reduceCtorEq, false_iff]
      intro h
      exact (h.1 e List.mem_cons_self).different hs
    · rename_i hdiff
      split
      · rename_i hends
        simp only [reduceCtorEq, false_iff]
        intro h
        have hj := h.1 e List.mem_cons_self
        simp [hj.source, hj.target] at hends
      · rename_i hends
        have hj : Joins ids e := ⟨hdiff, by simp_all, by simp_all⟩
        split
        · rename_i hseen
          simp only [reduceCtorEq, false_iff]
          intro h
          exact h.2.2 e List.mem_cons_self (List.contains_iff_mem.mp hseen)
        · rename_i hnew
          rw [List.contains_iff_mem] at hnew
          rw [ih, List.forall_mem_cons, List.nodup_cons, List.forall_mem_cons]
          simp only [List.mem_cons, not_or]
          constructor
          · rintro ⟨hjoins, hnodup, hrest⟩
            exact ⟨⟨hj, hjoins⟩, ⟨fun hm => (hrest e hm).1 rfl, hnodup⟩, hnew,
              fun d hd => (hrest d hd).2⟩
          · rintro ⟨⟨-, hjoins⟩, ⟨hfirst, hnodup⟩, -, hrest⟩
            exact ⟨hjoins, hnodup, fun d hd => ⟨fun he => hfirst (he ▸ hd), hrest d hd⟩⟩

theorem fault?_eq_none_iff {components : List Component} {edges : List Edge} :
    fault? components edges = none ↔
      (components.map (·.id)).Nodup ∧ (∀ e ∈ edges, Joins (components.map (·.id)) e) ∧
        edges.Nodup := by
  unfold fault?
  dsimp only
  split
  · rename_i h
    rw [edgeFault?_eq_none_iff]
    simp [distinct_iff.mp h]
  · rename_i h
    simp only [reduceCtorEq, false_iff, not_and]
    intro hn
    exact absurd (distinct_iff.mpr hn) h

theorem ids_nodup (g : Graph) : g.ids.Nodup := (fault?_eq_none_iff.mp g.valid).1

theorem edges_nodup (g : Graph) : g.edges.Nodup := (fault?_eq_none_iff.mp g.valid).2.2

theorem mem_edgesOf {g : Graph} {relations : List Relation} (given : relations ≠ []) {e : Edge} :
    e ∈ g.edgesOf relations ↔ e ∈ g.edges ∧ e.relation ∈ relations := by
  rw [edgesOf, if_neg (by simpa using given), List.mem_filter, List.contains_iff_mem]

theorem edgesOf_nodup (g : Graph) (relations : List Relation) : (g.edgesOf relations).Nodup := by
  unfold edgesOf
  split
  · exact g.edges_nodup
  · exact g.edges_nodup.filter _

theorem joins_of_mem (g : Graph) {e : Edge} (h : e ∈ g.edges) : Joins g.ids e :=
  (fault?_eq_none_iff.mp g.valid).2.1 e h

theorem of?_eq_ok {components : List Component} {edges : List Edge} (cycles : List (List String))
    (findings : List Finding) (h : fault? components edges = none) :
    of? components edges cycles findings = .ok ⟨components, edges, cycles, findings, h⟩ := by
  unfold of?
  split
  · rfl
  · rename_i fault hf
    rw [h] at hf
    cases hf

end DocAtlas.Graph
