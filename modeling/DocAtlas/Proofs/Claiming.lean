import DocAtlas.Extract.Extraction
import DocAtlas.Proofs.Entries
import DocAtlas.Proofs.Slugs
import Mathlib.Data.List.Nodup
import Mathlib.Data.List.Perm.Subperm
import Mathlib.Data.List.Induction

/-!
Claiming ids for components: what one claim can do, and that no two components gathered share an id.
-/
namespace DocAtlas

namespace Extract

/-! ### Numbered ids -/

/-- The id with a number. -/
def numbered (id : String) (n : Nat) : String := id ++ "-" ++ toString n

theorem numbered_injective (id : String) : Function.Injective (numbered id) := by
  intro m n h
  exact Text.number_injective ((String.append_right_inj _).mp h)

theorem freeId_eq_numbered (taken : List String) (id : String) (fuel n : Nat) :
    ∃ k, n ≤ k ∧ freeId taken id fuel n = numbered id k := by
  induction fuel generalizing n with
  | zero => exact ⟨n, Nat.le_refl n, rfl⟩
  | succ fuel ih =>
    simp only [freeId]
    split
    · obtain ⟨k, hk, he⟩ := ih (n + 1)
      exact ⟨k, by omega, he⟩
    · exact ⟨n, Nat.le_refl n, rfl⟩

/-- Where no free id is found, all those tried are taken. -/
theorem numbered_mem_of_freeId_mem {taken : List String} {id : String} {fuel n : Nat}
    (h : freeId taken id fuel n ∈ taken) : ∀ k ≤ fuel, numbered id (n + k) ∈ taken := by
  induction fuel generalizing n with
  | zero =>
    intro k hk
    rw [Nat.le_zero.mp hk]
    exact h
  | succ fuel ih =>
    simp only [freeId] at h
    split at h
    · rename_i hn
      intro k hk
      cases k with
      | zero => exact List.contains_iff_mem.mp hn
      | succ k =>
        have hm := ih h k (by omega)
        rwa [Nat.add_right_comm, Nat.add_assoc] at hm
    · rename_i hn
      exact absurd (List.contains_iff_mem.mpr h) hn

/-- More ids are tried than are taken, so the one found is free. -/
theorem freeId_not_mem (taken : List String) (id : String) (n : Nat) :
    freeId taken id taken.length n ∉ taken := by
  intro h
  have htried : (List.range (taken.length + 1)).map (fun k => numbered id (n + k)) ⊆ taken := by
    intro name hm
    obtain ⟨k, hk, rfl⟩ := List.mem_map.mp hm
    exact numbered_mem_of_freeId_mem h k (by have := List.mem_range.mp hk; omega)
  have hnodup : ((List.range (taken.length + 1)).map fun k => numbered id (n + k)).Nodup := by
    apply List.nodup_range.map
    intro a b hab
    have := numbered_injective id hab
    omega
  have hlength := (List.subperm_of_subset hnodup htried).length_le
  simp only [List.length_map, List.length_range] at hlength
  omega

/-! ### One claim -/

def Gathered.ids (g : Gathered) : List String := g.known.map (·.id)

theorem Gathered.get?_eq_none_iff {g : Gathered} {id : String} : g.get? id = none ↔ id ∉ g.ids := by
  simp [Gathered.get?, Gathered.ids]

theorem Gathered.mem_of_get? {g : Gathered} {id : String} {c : Component}
    (h : g.get? id = some c) : c ∈ g.known ∧ c.id = id :=
  ⟨List.mem_of_find?_eq_some h, by simpa using List.find?_some h⟩

theorem Claiming.enter_known (s : Claiming) (c : Component) :
    (s.enter c).gathered.known =
      if c.id ∈ s.gathered.ids then s.gathered.known else s.gathered.known ++ [c] := by
  unfold Claiming.enter
  cases hk : s.gathered.get? c.id with
  | none => rw [if_neg (Gathered.get?_eq_none_iff.mp hk)]
  | some kept =>
    have hm : c.id ∈ s.gathered.ids := by
      by_contra hn
      rw [Gathered.get?_eq_none_iff.mpr hn] at hk
      cases hk
    rw [if_pos hm]
    dsimp only
    split <;> rfl

theorem Claiming.enter_renamed (s : Claiming) (c : Component) :
    (s.enter c).renamed = s.renamed := by
  unfold Claiming.enter
  split
  · rfl
  · split <;> rfl

theorem Claiming.enter_mentions (s : Claiming) (c : Component) :
    (s.enter c).gathered.mentions = s.gathered.mentions := by
  unfold Claiming.enter
  split
  · rfl
  · split <;> rfl

/-- What a claim comes to: the id under which the component is entered, and the new ids given. -/
inductive Claiming.Names (s : Claiming) (c : Component) : String → Keyed String → Prop where
  /-- The unit has already given the id up for a numbered one. -/
  | renamed {id : String} (given : s.renamed.get? c.id = some id) : Names s c id s.renamed
  /-- The id is free, or it belongs to the same file. -/
  | own (new : s.renamed.get? c.id = none)
      (mine : ∀ kept, s.gathered.get? c.id = some kept → kept.path = c.path) :
      Names s c c.id s.renamed
  /-- The id belongs to another file. -/
  | numbered {kept : Component} {id : String} {n : Nat} (new : s.renamed.get? c.id = none)
      (known : s.gathered.get? c.id = some kept) (foreign : kept.path ≠ c.path)
      (least : 2 ≤ n) (number : id = numbered c.id n) (free : id ∉ s.gathered.ids) :
      Names s c id (s.renamed ++ [(c.id, id)])

/-- What an id of the unit stands for. -/
def Claiming.current (s : Claiming) (id : String) : String := (s.renamed.get? id).getD id

theorem Claiming.Names.current {s : Claiming} {c : Component} {id : String} {renamed : Keyed String}
    (h : s.Names c id renamed) : (renamed.get? c.id).getD c.id = id := by
  cases h with
  | renamed given => rw [given, Option.getD_some]
  | own new mine => rw [new, Option.getD_none]
  | numbered new known foreign least number free =>
    rw [Keyed.get?_concat, new, Option.none_or, if_pos rfl, Option.getD_some]

/-- A claim enters the component under the id it comes to, unless that is known already. -/
theorem Claiming.claim_spec (s : Claiming) (c : Component) :
    ∃ id renamed, s.Names c id renamed ∧ (s.claim c).renamed = renamed ∧
      (s.claim c).gathered.mentions = s.gathered.mentions ∧
      (s.claim c).gathered.known =
        if id ∈ s.gathered.ids then s.gathered.known
        else s.gathered.known ++ [{ c with id := id }] := by
  unfold Claiming.claim
  cases hr : s.renamed.get? c.id with
  | some id =>
    exact ⟨id, s.renamed, .renamed hr, s.enter_renamed _, s.enter_mentions _, s.enter_known _⟩
  | none =>
    cases hk : s.gathered.get? c.id with
    | none =>
      refine ⟨c.id, s.renamed, .own hr ?_, s.enter_renamed c, s.enter_mentions c, s.enter_known c⟩
      intro kept h
      rw [hk] at h
      cases h
    | some kept =>
      dsimp only
      split
      · rename_i hp
        refine ⟨c.id, s.renamed, .own hr ?_, s.enter_renamed c, s.enter_mentions c, s.enter_known c⟩
        intro other h
        rw [hk] at h
        cases h
        exact beq_iff_eq.mp hp
      · rename_i hp
        obtain ⟨n, hn, he⟩ := freeId_eq_numbered s.gathered.ids c.id s.gathered.ids.length 2
        exact ⟨_, _, .numbered hr hk (fun h => hp (beq_iff_eq.mpr h)) hn he
          (freeId_not_mem s.gathered.ids c.id 2), enter_renamed _ _, enter_mentions _ _,
          enter_known _ _⟩

/-! ### All claims -/

theorem Claiming.claim_nodup {s : Claiming} (h : s.gathered.ids.Nodup) (c : Component) :
    (s.claim c).gathered.ids.Nodup := by
  obtain ⟨id, renamed, -, -, -, hk⟩ := s.claim_spec c
  unfold Gathered.ids at h ⊢
  rw [hk]
  split
  · exact h
  · rename_i hn
    rw [List.map_append, List.map_singleton, ← List.concat_eq_append]
    exact h.concat hn

theorem Gathered.add_nodup {g : Gathered} (h : g.ids.Nodup) (u : SourceUnit × Outcome) :
    (g.add u).ids.Nodup := by
  unfold Gathered.add
  cases u.2 with
  | unsupported => exact h
  | failed finding => exact h
  | read y =>
    exact List.foldlRecOn (motive := fun s : Claiming => s.gathered.ids.Nodup) _ _ h
      fun s hs c _ => s.claim_nodup hs c

/-- No two components gathered share an id, whatever the units declare. -/
theorem gather_nodup (units : List (SourceUnit × Outcome)) : (gather units).ids.Nodup :=
  List.foldlRecOn (motive := fun g : Gathered => g.ids.Nodup) _ _ List.nodup_nil
    fun _ hg u _ => Gathered.add_nodup hg u

end Extract

end DocAtlas
