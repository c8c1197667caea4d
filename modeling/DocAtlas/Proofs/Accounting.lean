import DocAtlas.Proofs.Candidates
import DocAtlas.Proofs.Entries

/-!
What an extraction reports of each unit: whether it is unread, and why its adapter failed. Claiming
ids for components changes neither.
-/
namespace DocAtlas.Extract

def Outcome.isUnread : Outcome → Bool
  | .read _ => false
  | _ => true

def Outcome.failure? : Outcome → Option Finding
  | .failed finding => some finding
  | _ => none

/-! ### Reports -/

/-- The failures of adapters among findings. -/
def failures (findings : List Finding) : List Finding := findings.filter (·.kind == .adapterError)

theorem failures_append (a b : List Finding) : failures (a ++ b) = failures a ++ failures b :=
  List.filter_append a b

/-- The paths of the unread units, and the failures of adapters. -/
def Gathered.reports (g : Gathered) : List String × List Finding :=
  (g.unanalyzed, failures g.findings)

theorem Claiming.enter_reports (s : Claiming) (c : Component) :
    (s.enter c).gathered.reports = s.gathered.reports := by
  unfold Claiming.enter
  split
  · rfl
  · split
    · rfl
    · simp [Gathered.reports, failures, conflictFinding]

theorem Claiming.claim_reports (s : Claiming) (c : Component) :
    (s.claim c).gathered.reports = s.gathered.reports := by
  unfold Claiming.claim
  split
  · exact s.enter_reports _
  · split
    · exact s.enter_reports c
    · split
      · exact s.enter_reports c
      · rw [Claiming.enter_reports]
        simp [Gathered.reports, failures, collisionFinding]

theorem Gathered.add_reports (g : Gathered) (u : SourceUnit × Outcome) :
    (g.add u).reports =
      (g.reports.1 ++ if u.2.isUnread then [u.1.path] else [],
        g.reports.2 ++ failures u.2.failure?.toList) := by
  unfold Gathered.add
  cases u.2 with
  | unsupported => simp [Gathered.reports, failures, Outcome.isUnread, Outcome.failure?]
  | failed finding => simp [Gathered.reports, failures, Outcome.isUnread, Outcome.failure?]
  | read y =>
    have hclaims : (y.components.foldl Claiming.claim { gathered := g }).gathered.reports =
        g.reports :=
      List.foldlRecOn (motive := fun s : Claiming => s.gathered.reports = g.reports) _ _ rfl
        fun s hs c _ => (s.claim_reports c).trans hs
    have hyield : (g.addYield y).reports = g.reports := hclaims
    simpa [Outcome.isUnread, Outcome.failure?, failures] using hyield

/-- The reports of all units come in their order. -/
theorem gather_reports (os : List (SourceUnit × Outcome)) :
    (gather os).reports = ((os.filter (·.2.isUnread)).map (·.1.path),
      failures (os.filterMap (·.2.failure?))) := by
  induction os using List.reverseRecOn with
  | nil => rfl
  | append_singleton os u ih =>
    rw [gather, List.foldl_append, List.foldl_cons, List.foldl_nil, Gathered.add_reports, ← gather,
      ih, List.filter_append, List.map_append, List.filterMap_append, failures_append]
    obtain ⟨unit, outcome⟩ := u
    cases outcome <;> rfl

/-! ### One unit -/

section

variable {registry : Registry} {content : SourceUnit → String}

theorem failure_of_outcomeOf {u : SourceUnit} {o : Outcome} {f : Finding}
    (h : outcomeOf registry content u = .ok o) (hf : o.failure? = some f) :
    f.kind = .adapterError ∧ f.subject = u.path := by
  unfold outcomeOf at h
  split at h
  · cases h
    cases hf
  · split at h
    · cases h
      cases hf
    · cases h
    · cases h
      cases hf
      exact ⟨rfl, rfl⟩

variable {os : List (SourceUnit × Outcome)} (distinct : (os.map (·.1.path)).Nodup)
  {u : SourceUnit × Outcome} (hu : u ∈ os)
include distinct hu

theorem filter_path_eq : os.filter (·.1.path == u.1.path) = [u] :=
  Keyed.filter_key distinct hu

theorem count_unread : ((os.filter (·.2.isUnread)).map (·.1.path)).count u.1.path =
    if u.2.isUnread then 1 else 0 := by
  have hself := filter_path_eq distinct hu
  rw [List.count, List.countP_map, List.countP_eq_length_filter, List.filter_comm]
  change ((os.filter (·.1.path == u.1.path)).filter (·.2.isUnread)).length = _
  rw [hself, List.filter_singleton]
  cases u.2.isUnread <;> rfl

/-- Only the unit itself has its path in a failure. -/
theorem failures_of_unit (hall : ∀ v ∈ os, outcomeOf registry content v.1 = .ok v.2) :
    (failures (os.filterMap (·.2.failure?))).filter (·.subject == u.1.path) =
      u.2.failure?.toList := by
  have hown : os.filterMap (fun v => ((v.2.failure?).filter (·.kind == .adapterError)).filter
      (·.subject == u.1.path)) =
      os.filterMap fun v => if v.1.path == u.1.path then v.2.failure? else none := by
    apply List.filterMap_congr
    intro v hv
    cases hf : v.2.failure? with
    | none => simp
    | some f =>
      obtain ⟨hkind, hsubject⟩ := failure_of_outcomeOf (hall v hv) hf
      simp [Option.filter, hkind, hsubject]
  rw [failures, List.filter_filterMap, List.filter_filterMap, hown, ← List.filterMap_filter,
    filter_path_eq distinct hu]
  cases hf : u.2.failure? <;> simp [hf]

end

end DocAtlas.Extract
