import DocAtlas.Document.Review
import DocAtlas.Proofs.Building
import DocAtlas.Proofs.Candidates
import DocAtlas.Proofs.Merging
import DocAtlas.Scan.Snapshot

/-!
Findings and the stages that make them: every kind of finding belongs to one stage, which the
finding names, but for the finding that a deadline has passed.
-/
namespace DocAtlas

/-- The stage whose findings are of a kind; a deadline may pass in any. -/
def Finding.Kind.stage? : Finding.Kind → Option String
  | .scanExclusions | .unitSkipped | .symlinkCycle => some Scan.stage
  | .adapterError | .kindConflict | .idCollision => some Extract.stage
  | .inheritanceCycle | .unresolvedReference => some Graph.stage
  | .danglingReference | .repairedReference => some Review.stage
  | .deadlineExceeded => none

/-- The finding names the stage, and is of a kind that only this stage makes. -/
def Finding.IsOf (stage : String) (f : Finding) : Prop :=
  f.stage = stage ∧ f.kind.stage? = some stage

/-- All the findings are of one stage. -/
def AllOf (stage : String) (findings : List Finding) : Prop := ∀ f ∈ findings, f.IsOf stage

theorem AllOf.nil (stage : String) : AllOf stage [] := fun _ hf => absurd hf List.not_mem_nil

theorem AllOf.append {stage : String} {fs gs : List Finding} (hf : AllOf stage fs)
    (hg : AllOf stage gs) : AllOf stage (fs ++ gs) :=
  List.forall_mem_append.mpr ⟨hf, hg⟩

theorem AllOf.single {stage : String} {f : Finding} (h : f.IsOf stage) : AllOf stage [f] :=
  List.forall_mem_singleton.mpr h

theorem Finding.IsOf.not_expired {stage : String} {f : Finding} (h : f.IsOf stage) :
    f.kind ≠ .deadlineExceeded := by
  intro hk
  have hstage := h.2
  rw [hk] at hstage
  cases hstage

/-! ### Scans -/

namespace Scan

theorem harvest_allOf {hs : List Harvest} (h : ∀ harvest ∈ hs, AllOf stage harvest.findings) :
    AllOf stage (Harvest.all hs).findings := by
  rw [Harvest.findings_all]
  intro f hf
  obtain ⟨harvest, hm, hf⟩ := List.mem_flatMap.mp hf
  exact h harvest hm f hf

theorem step_allOf {rules : RuleSet} {v : Visit} {e : Entry} {h : Harvest}
    (hs : step rules v e = .done h) : AllOf stage h.findings := by
  unfold step at hs
  dsimp only at hs
  split at hs
  · split at hs
    · cases hs
      exact .nil _
    · split at hs
      · cases hs
        exact .single ⟨rfl, rfl⟩
      · cases hs
  · split at hs
    · cases hs
      exact .nil _
    · cases hs
      exact .nil _
  · cases hs
    exact .nil _

/-- Whether directories are entered or not, what is found about their entries is of the scan. -/
theorem walk_allOf (d : Disk) (rules : RuleSet) (fuel : Nat) (v : Visit) :
    AllOf stage (walk d rules fuel v).findings := by
  induction fuel generalizing v with
  | zero => exact .nil _
  | succ fuel ih =>
    rw [walk]
    apply harvest_allOf
    intro harvest hm
    obtain ⟨s, hs, rfl⟩ := List.mem_map.mp hm
    obtain ⟨e, -, he⟩ := List.mem_map.mp hs
    cases s with
    | done h => exact step_allOf he
    | enter v => exact AllOf.append (.nil _) (ih v)

theorem harvestsOf_allOf (d : Disk) (rules : RuleSet) (root : Disk.Place) :
    ∀ harvest ∈ topHarvest (steps d rules (rootVisit root)) ::
      subtrees d rules (steps d rules (rootVisit root)), AllOf stage harvest.findings := by
  rw [List.forall_mem_cons]
  constructor
  · apply harvest_allOf
    intro harvest hm
    obtain ⟨s, hs, rfl⟩ := List.mem_map.mp hm
    obtain ⟨e, -, he⟩ := List.mem_map.mp hs
    cases s with
    | done h => exact step_allOf he
    | enter v => exact .nil _
  · intro harvest hm
    obtain ⟨s, -, hs⟩ := List.mem_filterMap.mp hm
    cases s with
    | done h => cases hs
    | enter v =>
      cases hs
      exact walk_allOf d rules _ v

theorem snapshotOf_allOf (load : Candidate → Except Omission SourceUnit) (root : Disk.Place)
    {harvests : List Harvest} (h : ∀ harvest ∈ harvests, AllOf stage harvest.findings) :
    AllOf stage (snapshotOf load root harvests).findings := by
  have hsorted : AllOf stage (Order.sort findingOrder ((Harvest.all harvests).findings ++
      (omissionsOf ((deduplicate (Harvest.all harvests).candidates).map load)).map
        (·.finding))) := by
    intro f hf
    rcases List.mem_append.mp (Order.mem_sort.mp hf) with hf | hf
    · exact harvest_allOf h f hf
    · obtain ⟨o, -, rfl⟩ := List.mem_map.mp hf
      exact ⟨rfl, rfl⟩
  rw [snapshotOf]
  dsimp only
  split
  · exact hsorted
  · exact .append (.single ⟨rfl, rfl⟩) hsorted

end Scan

/-! ### Extractions -/

namespace Extract

theorem Claiming.enter_allOf {s : Claiming} (h : AllOf stage s.gathered.findings) (c : Component) :
    AllOf stage (s.enter c).gathered.findings := by
  unfold Claiming.enter
  split
  · exact h
  · split
    · exact h
    · exact h.append (.single ⟨rfl, rfl⟩)

theorem Claiming.claim_allOf {s : Claiming} (h : AllOf stage s.gathered.findings) (c : Component) :
    AllOf stage (s.claim c).gathered.findings := by
  unfold Claiming.claim
  split
  · exact Claiming.enter_allOf h _
  · split
    · exact Claiming.enter_allOf h c
    · split
      · exact Claiming.enter_allOf h c
      · exact Claiming.enter_allOf (h.append (.single ⟨rfl, rfl⟩)) _

theorem outcomeOf_allOf {registry : Registry} {content : SourceUnit → String} {u : SourceUnit}
    {f : Finding} (h : outcomeOf registry content u = .ok (.failed f)) : f.IsOf stage := by
  unfold outcomeOf at h
  split at h
  · cases h
  · split at h
    · cases h
    · cases h
    · cases h
      exact ⟨rfl, rfl⟩

theorem Gathered.add_allOf {g : Gathered} (h : AllOf stage g.findings) {u : SourceUnit × Outcome}
    (hu : ∀ f, u.2 = .failed f → f.IsOf stage) : AllOf stage (g.add u).findings := by
  unfold Gathered.add
  split
  · exact h
  · rename_i f hf
    exact h.append (.single (hu f hf))
  · exact List.foldlRecOn (motive := fun s : Claiming => AllOf stage s.gathered.findings) _ _ h
      fun s hs c _ => Claiming.claim_allOf hs c

theorem gather_allOf {os : List (SourceUnit × Outcome)}
    (h : ∀ u ∈ os, ∀ f, u.2 = .failed f → f.IsOf stage) : AllOf stage (gather os).findings :=
  List.foldlRecOn (motive := fun g : Gathered => AllOf stage g.findings) _ _ (.nil _)
    fun _ hg u hu => Gathered.add_allOf hg (h u hu)

theorem extract_allOf {registry : Registry} {limits : Limits} {content : SourceUnit → String}
    {units : List SourceUnit} {x : Extraction}
    (h : extract registry limits content units = .ok x) : AllOf stage x.findings := by
  obtain ⟨os, ho, rfl⟩ := extract_eq_ok h
  obtain ⟨-, hall⟩ := outcomes_units ho
  apply gather_allOf
  intro u hu f hf
  have houtcome := hall u hu
  rw [hf] at houtcome
  exact outcomeOf_allOf houtcome

end Extract

/-! ### Graphs and reviews -/

theorem Graph.build_allOf {components : List Component} {mentions : List Mention} {g : Graph}
    (h : Graph.build components mentions = .ok g) : AllOf Graph.stage g.findings := by
  rw [(Graph.fields_of_of? h).2]
  intro f hf
  rcases List.mem_append.mp hf with hf | hf
  · obtain ⟨m, -, rfl⟩ := List.mem_map.mp hf
    exact ⟨rfl, rfl⟩
  · obtain ⟨cycle, -, rfl⟩ := List.mem_map.mp hf
    exact ⟨rfl, rfl⟩

theorem Review.review_allOf {policy : Policy} {like : Likeness} {tree after : Page}
    {report : Report} (h : review policy like tree = .ok (after, report)) :
    AllOf stage report.findings := by
  unfold review at h
  split at h
  · cases h
  · cases h
    intro f hf
    obtain ⟨⟨path, verdict⟩, -, hv⟩ := List.mem_filterMap.mp hf
    cases verdict with
    | plain => cases hv
    | intact => cases hv
    | repaired old target score =>
      cases hv
      exact ⟨rfl, rfl⟩
    | dropped old =>
      cases hv
      exact ⟨rfl, rfl⟩

end DocAtlas
