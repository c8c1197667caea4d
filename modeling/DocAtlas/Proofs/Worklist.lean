import DocAtlas.Proofs.Schedules
import DocAtlas.Proofs.Walking
import Mathlib.Algebra.BigOperators.Group.List.Basic
import Mathlib.Tactic.Abel

/-!
The walk as a worklist: directories are walked in any order until none is pending, which comes to
an end, and what has come in then is what the walk brings in.
-/
namespace DocAtlas.Scan

/-! ### Rounds -/

/-- The directories that are still to be walked, and what has come in so far. -/
structure Worklist where
  pending : List Visit
  harvest : Harvest := {}

/-- One of the pending directories is walked, and those that it leads into become pending. -/
inductive Round (d : Disk) (rules : RuleSet) : Worklist → Worklist → Prop
  | walk (before after : List Visit) (v : Visit) (h : Harvest) :
      Round d rules ⟨before ++ v :: after, h⟩
        ⟨before ++ after ++ entered (steps d rules v), h.append (topHarvest (steps d rules v))⟩

/-- The rounds from a directory on come to an end with a harvest, whatever is walked first. -/
def RoundsSettle (d : Disk) (rules : RuleSet) (v : Visit) (h : Harvest) : Prop :=
  Settles (Round d rules) (fun w => w.pending = []) (fun w => w.harvest.contents) ⟨[v], {}⟩
    h.contents

/-! ### Measures of a walk -/

/-- A walk brings in what the directory does and what the walks of those below it do. -/
theorem sum_walk_succ {M : Type} [AddCommMonoid M] {measure : Harvest → M}
    (hm : Harvest.Additive measure) (d : Disk) (rules : RuleSet) (fuel : Nat) (v : Visit) :
    measure (walk d rules (fuel + 1) v) = measure (topHarvest (steps d rules v)) +
      ((entered (steps d rules v)).map fun w => measure (walk d rules fuel w)).sum := by
  rw [walk_succ_eq, topHarvest_eq, hm.all, hm.all]
  induction steps d rules v with
  | nil => simp [entered]
  | cons s rest ih =>
    simp only [List.map_cons, List.sum_cons, ih]
    cases hv : s.visit? with
    | none =>
      have hrest : entered (s :: rest) = entered rest := List.filterMap_cons_none hv
      rw [hrest, add_assoc]
    | some w =>
      have hrest : entered (s :: rest) = w :: entered rest := List.filterMap_cons_some hv
      rw [hrest, List.map_cons, List.sum_cons]
      exact (congrArg (· + _) (hm.append _ _)).trans (add_add_add_comm _ _ _ _)

theorem looked_step (rules : RuleSet) (v : Visit) (e : Entry) :
    (step rules v e).harvest.looked = 1 := by
  unfold step
  cases v.target e with
  | directory place =>
    dsimp only
    split
    · rfl
    · split <;> rfl
  | file place =>
    dsimp only
    split <;> rfl
  | other => rfl

/-- A directory does not lead into more directories than entries are looked at. -/
theorem length_entered_le (d : Disk) (rules : RuleSet) (v : Visit) :
    (entered (steps d rules v)).length ≤ (topHarvest (steps d rules v)).looked := by
  have hlooked : (topHarvest (steps d rules v)).looked = (steps d rules v).length := by
    rw [topHarvest_eq, Harvest.additive_looked.all, steps, List.map_map, List.map_map]
    simp [Function.comp_def, looked_step]
  rw [hlooked]
  exact List.length_filterMap_le _ _

/-! ### Directories that are due -/

/-- The directory is at the end of a way that the walk goes. -/
def Due (d : Disk) (rules : RuleSet) (root : Disk.Place) (v : Visit) : Prop :=
  ∃ es p, Goes d rules root es p ∧ v = visitAt root es

/-- What comes in from a directory with enough fuel. -/
def fullWalk (d : Disk) (rules : RuleSet) (v : Visit) : Harvest := walk d rules (depthBound d + 1) v

section

variable {d : Disk} (hd : d.isProper = true) {rules : RuleSet} {root : Disk.Place}
include hd

theorem mem_entered {es : List Entry} {p : Disk.Place} (h : Goes d rules root es p) {v : Visit} :
    v ∈ entered (steps d rules (visitAt root es)) ↔
      ∃ e ∈ entriesOf d p, (∃ q, Goes d rules root (es ++ [e]) q) ∧
        v = visitAt root (es ++ [e]) := by
  rw [entered, steps, List.filterMap_map, List.mem_filterMap, h.way.place_eq]
  constructor
  · rintro ⟨e, he, hv⟩
    exact ⟨e, he, (visit?_step hd h he).mp hv⟩
  · rintro ⟨e, he, hv⟩
    exact ⟨e, he, (visit?_step hd h he).mpr hv⟩

theorem due_of_entered {v w : Visit} (hv : Due d rules root v)
    (hw : w ∈ entered (steps d rules v)) : Due d rules root w := by
  obtain ⟨es, p, h, rfl⟩ := hv
  obtain ⟨e, -, ⟨q, hq⟩, rfl⟩ := (mem_entered hd h).mp hw
  exact ⟨es ++ [e], q, hq, rfl⟩

/-- Fuel beyond the number of directories that can still be entered makes no difference. -/
theorem walk_stable {fuel : Nat} {es : List Entry} {p : Disk.Place} (h : Goes d rules root es p)
    (hfuel : depthBound d < fuel + es.length) :
    walk d rules (fuel + 1) (visitAt root es) = walk d rules fuel (visitAt root es) := by
  induction fuel generalizing es p with
  | zero => exact absurd h.length_le (by omega)
  | succ fuel ih =>
    rw [walk_succ_eq, walk_succ_eq, steps, List.map_map, List.map_map, h.way.place_eq]
    congr 1
    apply List.map_congr_left
    intro e he
    simp only [Function.comp_apply]
    cases hv : (step rules (visitAt root es) e).visit? with
    | none => rfl
    | some v =>
      obtain ⟨⟨q, hq⟩, rfl⟩ := (visit?_step hd h he).mp hv
      -- The way gets longer by as much as the fuel gets less.
      have hlonger : depthBound d < fuel + (es ++ [e]).length := by
        rw [List.length_append, List.length_singleton]
        omega
      simp only [ih hq hlonger]

/-- Below a directory that is due the bound on the depth is fuel enough. -/
theorem walk_entered {v w : Visit} (hv : Due d rules root v)
    (hw : w ∈ entered (steps d rules v)) : walk d rules (depthBound d) w = fullWalk d rules w := by
  obtain ⟨es, p, h, rfl⟩ := hv
  obtain ⟨e, -, ⟨q, hq⟩, rfl⟩ := (mem_entered hd h).mp hw
  have hfuel : depthBound d < depthBound d + (es ++ [e]).length := by
    rw [List.length_append, List.length_singleton]
    omega
  exact (walk_stable hd hq hfuel).symm

theorem sum_fullWalk {M : Type} [AddCommMonoid M] {measure : Harvest → M}
    (hm : Harvest.Additive measure) {v : Visit} (hv : Due d rules root v) :
    measure (fullWalk d rules v) = measure (topHarvest (steps d rules v)) +
      ((entered (steps d rules v)).map fun w => measure (fullWalk d rules w)).sum := by
  rw [fullWalk, sum_walk_succ hm]
  congr 2
  apply List.map_congr_left
  intro w hw
  rw [walk_entered hd hv hw]

end

/-! ### Every order of the rounds -/

namespace Worklist

/-- What has come in, with what the pending directories will still bring in. -/
def total (d : Disk) (rules : RuleSet) (w : Worklist) :
    Multiset Candidate × Multiset Finding × Nat :=
  w.harvest.contents + (w.pending.map fun v => (fullWalk d rules v).contents).sum

/-- How many directories and entries the pending directories still have. -/
def work (d : Disk) (rules : RuleSet) (w : Worklist) : Nat :=
  (w.pending.map fun v => 1 + (fullWalk d rules v).looked).sum

end Worklist

section

variable {d : Disk} (hd : d.isProper = true) {rules : RuleSet} {root : Disk.Place}
  {w later : Worklist}
include hd

theorem Round.due (h : Round d rules w later) (hdue : ∀ v ∈ w.pending, Due d rules root v) :
    ∀ v ∈ later.pending, Due d rules root v := by
  cases h with
  | walk before after v harvest =>
    simp only [List.forall_mem_append, List.forall_mem_cons] at hdue ⊢
    obtain ⟨hbefore, hv, hafter⟩ := hdue
    exact ⟨⟨hbefore, hafter⟩, fun u hu => due_of_entered hd hv hu⟩

theorem Round.total_eq (h : Round d rules w later) (hdue : ∀ v ∈ w.pending, Due d rules root v) :
    later.total d rules = w.total d rules := by
  cases h with
  | walk before after v harvest =>
    have hv : Due d rules root v := hdue v (by simp)
    -- What `v` still had to bring in is split between what came in and what became pending.
    simp only [Worklist.total, Harvest.additive_contents.append, List.map_append, List.map_cons,
      List.sum_append, List.sum_cons, sum_fullWalk hd Harvest.additive_contents hv]
    abel

theorem Round.work_lt (h : Round d rules w later) (hdue : ∀ v ∈ w.pending, Due d rules root v) :
    later.work d rules < w.work d rules := by
  cases h with
  | walk before after v harvest =>
    have hv : Due d rules root v := hdue v (by simp)
    have hcount := length_entered_le d rules v
    have hentered : ((entered (steps d rules v)).map fun u => 1 + (fullWalk d rules u).looked).sum =
        (entered (steps d rules v)).length +
          ((entered (steps d rules v)).map fun u => (fullWalk d rules u).looked).sum := by
      simp [List.sum_map_add]
    simp only [Worklist.work, List.map_append, List.map_cons, List.sum_append, List.sum_cons,
      sum_fullWalk hd Harvest.additive_looked hv, hentered]
    omega

theorem settles_of_due {v : Visit} (hv : Due d rules root v) :
    RoundsSettle d rules v (fullWalk d rules v) := by
  apply Settles.of_invariant
    (fun w => (∀ u ∈ w.pending, Due d rules root u) ∧
      w.total d rules = Worklist.total d rules ⟨[v], {}⟩)
    (Worklist.work d rules)
  · exact ⟨List.forall_mem_singleton.mpr hv, rfl⟩
  · rintro w later ⟨hdue, htotal⟩ h
    exact ⟨h.due hd hdue, (h.total_eq hd hdue).trans htotal⟩
  · rintro w later ⟨hdue, -⟩ h
    exact h.work_lt hd hdue
  · rintro ⟨pending, harvest⟩ - hne
    obtain ⟨u, rest, rfl⟩ := List.exists_cons_of_ne_nil hne
    exact ⟨_, Round.walk [] rest u harvest⟩
  · rintro w ⟨-, htotal⟩ hnone
    simpa [Worklist.total, hnone, Harvest.contents] using htotal

end

end DocAtlas.Scan
