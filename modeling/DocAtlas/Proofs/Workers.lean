import DocAtlas.Proofs.Accounting
import DocAtlas.Proofs.Documentation
import DocAtlas.Proofs.Schedules

/-!
The workers of an extraction: each task fills the slot of its own unit, so the extraction depends
neither on the order of the units nor on that in which the tasks finish.
-/
namespace DocAtlas.Extract

/-! ### Slots -/

/-- A unit with what came of it, once its task has finished. -/
structure Slot where
  unit : SourceUnit
  outcome : Option Outcome := none

def Slot.result? (s : Slot) : Option (SourceUnit × Outcome) := s.outcome.map (s.unit, ·)

/-- The slots of all units, by path, before any task has finished. -/
def vacant (units : List SourceUnit) : List Slot := (sortUnits units).map fun u => { unit := u }

/-- The outcomes that there are, in the order of the slots. -/
def results (slots : List Slot) : List (SourceUnit × Outcome) := slots.filterMap Slot.result?

/-- One of the tasks that are still to finish does so. -/
inductive Finishes (registry : Registry) (content : SourceUnit → String) :
    List Slot → List Slot → Prop
  | task (before after : List Slot) {u : SourceUnit} {o : Outcome}
      (outcome : outcomeOf registry content u = .ok o) :
      Finishes registry content (before ++ ⟨u, none⟩ :: after) (before ++ ⟨u, some o⟩ :: after)

/-- All tasks finish, whichever is first, and what is gathered from the slots makes the extraction.
-/
def TasksSettle (registry : Registry) (limits : Limits) (content : SourceUnit → String)
    (units : List SourceUnit) (x : Extraction) : Prop :=
  Settles (Finishes registry content) (fun slots => ∀ s ∈ slots, s.outcome ≠ none)
    (fun slots => (gather (results slots)).extraction limits.most.toNat) (vacant units) x

section

variable {registry : Registry} {content : SourceUnit → String}

/-- The slots are those of the units, and what they hold is right. -/
structure Held (registry : Registry) (content : SourceUnit → String) (units : List SourceUnit)
    (slots : List Slot) : Prop where
  units : slots.map Slot.unit = units
  outcomes : ∀ s ∈ slots, ∀ o, s.outcome = some o → outcomeOf registry content s.unit = .ok o

theorem held_vacant (units : List SourceUnit) :
    Held registry content (sortUnits units) (vacant units) where
  units := by simp [vacant, Function.comp_def]
  outcomes := by simp [vacant]

theorem Held.finishes {units : List SourceUnit} {slots later : List Slot}
    (h : Held registry content units slots) (hf : Finishes registry content slots later) :
    Held registry content units later := by
  cases hf with
  | task before after outcome =>
    obtain ⟨hunits, hall⟩ := h
    simp only [List.forall_mem_append, List.forall_mem_cons] at hall
    refine ⟨by simpa using hunits, ?_⟩
    simp only [List.forall_mem_append, List.forall_mem_cons]
    refine ⟨hall.1, ?_, hall.2.2⟩
    intro o ho
    cases ho
    exact outcome

/-- Once all tasks have finished, the slots hold the outcomes of all units. -/
theorem Held.results_eq {units : List SourceUnit} {slots : List Slot}
    (h : Held registry content units slots) (hdone : ∀ s ∈ slots, s.outcome ≠ none)
    {os : List (SourceUnit × Outcome)} (hos : os.map (·.1) = units)
    (hall : ∀ u ∈ os, outcomeOf registry content u.1 = .ok u.2) : results slots = os := by
  obtain ⟨hunits, houtcomes⟩ := h
  rw [← hos] at hunits
  clear hos
  induction slots generalizing os with
  | nil =>
    rw [List.map_nil, eq_comm, List.map_eq_nil_iff] at hunits
    rw [hunits]
    rfl
  | cons s rest ih =>
    obtain ⟨u, us, rfl⟩ := List.exists_cons_of_ne_nil (l := os) (by
      rintro rfl
      cases hunits)
    simp only [List.map_cons, List.cons.injEq] at hunits
    simp only [List.forall_mem_cons] at hdone hall houtcomes
    obtain ⟨o, ho⟩ := Option.ne_none_iff_exists'.mp hdone.1
    have hsame : o = u.2 := by
      have hs := houtcomes.1 o ho
      rw [hunits.1, hall.1] at hs
      exact (Except.ok.inj hs).symm
    have hresult : s.result? = some u := by
      rw [Slot.result?, ho, hunits.1, hsame]
      rfl
    rw [results, List.filterMap_cons_some hresult]
    exact congrArg (u :: ·) (ih hdone.2 hall.2 hunits.2 houtcomes.2)

/-- How many tasks are still to finish. -/
def unfinished (slots : List Slot) : Nat := slots.countP (·.outcome.isNone)

theorem unfinished_lt {slots later : List Slot} (hf : Finishes registry content slots later) :
    unfinished later < unfinished slots := by
  cases hf with
  | task before after outcome =>
    simp [unfinished]

theorem tasksSettle (limits : Limits) {units : List SourceUnit}
    (patient : Patient registry content units) {os : List (SourceUnit × Outcome)}
    (ho : outcomes registry content units = .ok os) :
    TasksSettle registry limits content units ((gather os).extraction limits.most.toNat) := by
  obtain ⟨hunits, hall⟩ := outcomes_units ho
  apply Settles.of_invariant (Held registry content (sortUnits units)) unfinished
  · exact held_vacant units
  · intro slots later h hf
    exact h.finishes hf
  · intro slots later _ hf
    exact unfinished_lt hf
  · intro slots h hnot
    push Not at hnot
    obtain ⟨⟨u, outcome⟩, hs, rfl⟩ := hnot
    have hu : u ∈ units := by
      rw [← Order.mem_sort, ← sortUnits, ← h.units]
      exact List.mem_map_of_mem hs
    obtain ⟨o, houtcome⟩ := outcomeOf_ok (patient u hu)
    obtain ⟨before, after, rfl⟩ := List.append_of_mem hs
    exact ⟨_, .task before after houtcome⟩
  · intro slots h hdone
    rw [h.results_eq hdone hunits hall]

end

/-! ### The extraction -/

/-- Units with distinct paths are sorted into one order. -/
theorem sortUnits_perm {units others : List SourceUnit} (distinct : (units.map (·.path)).Nodup)
    (hp : others.Perm units) : sortUnits others = sortUnits units := by
  apply Order.sort_eq_of_perm (hp.trans (Order.sort_perm _ units).symm)
  apply Order.sort_increasing
  apply (List.pairwise_map.mp distinct).imp
  intro a b hne he
  exact hne (Order.byText_eq_eq.mp he)

theorem extract_perm {registry : Registry} {limits : Limits} {content : SourceUnit → String}
    {units others : List SourceUnit} (distinct : (units.map (·.path)).Nodup)
    (hp : others.Perm units) :
    extract registry limits content others = extract registry limits content units := by
  have houtcomes : outcomes registry content others = outcomes registry content units := by
    rw [outcomes, outcomes, sortUnits_perm distinct hp]
  have hworkers : limits.checkWorkers others = limits.checkWorkers units := by
    rw [Limits.checkWorkers, Limits.checkWorkers, hp.isEmpty_eq]
  rw [extract, extract, houtcomes, hworkers]

/-- How an extraction accounts for the units. -/
structure Accounted (registry : Registry) (limits : Limits) (content : SourceUnit → String)
    (units : List SourceUnit) (x : Extraction) : Prop where
  ids : (x.components.map (·.id)).Nodup
  length : x.components.length = min limits.most.toNat x.candidates
  sources : ∀ m ∈ x.mentions, m.source ∈ x.components.map (·.id)
  /-- A unit that no adapter reads is unread. -/
  unsupported : ∀ u ∈ units, registry.forEcosystem u.ecosystem = none →
    x.unanalyzed.count u.path = 1 ∧ (failures x.findings).filter (·.subject == u.path) = []
  /-- So is one on which its adapter fails, for which there is one finding. -/
  failed : ∀ u ∈ units, ∀ a, registry.forEcosystem u.ecosystem = some a →
    ∀ kind message, a.extract u (content u) = .error (.error kind message) →
      x.unanalyzed.count u.path = 1 ∧ (failures x.findings).filter (·.subject == u.path) =
        [failureFinding a.name u.path kind message]
  read : ∀ u ∈ units, ∀ a, registry.forEcosystem u.ecosystem = some a →
    ∀ y, a.extract u (content u) = .ok y →
      x.unanalyzed.count u.path = 0 ∧ (failures x.findings).filter (·.subject == u.path) = []

section

variable {registry : Registry} {content : SourceUnit → String} {units : List SourceUnit}
  {os : List (SourceUnit × Outcome)}

/-- What an extraction reports of a unit is read off its outcome. -/
theorem reports_of_unit (ho : outcomes registry content units = .ok os)
    (distinct : (units.map (·.path)).Nodup) (limit : Nat) {u : SourceUnit} (hu : u ∈ units)
    {o : Outcome} (houtcome : outcomeOf registry content u = .ok o) :
    ((gather os).extraction limit).unanalyzed.count u.path = (if o.isUnread then 1 else 0) ∧
      (failures ((gather os).extraction limit).findings).filter (·.subject == u.path) =
        o.failure?.toList := by
  obtain ⟨hunits, hall⟩ := outcomes_units ho
  have hpaths : (os.map (·.1.path)).Nodup := by
    have hsorted : os.map (·.1.path) = (sortUnits units).map (·.path) := by
      rw [← hunits, List.map_map]
      rfl
    rw [hsorted]
    exact ((Order.sort_perm _ units).map _).nodup_iff.mpr distinct
  obtain ⟨v, hv, rfl⟩ : ∃ v ∈ os, v.1 = u := by
    rw [← List.mem_map, hunits]
    exact Order.mem_sort.mpr hu
  have hsame : v.2 = o := Except.ok.inj ((hall v hv).symm.trans houtcome)
  have hreports := gather_reports os
  rw [Gathered.reports, Prod.mk.injEq] at hreports
  constructor
  · rw [← hsame, ← count_unread hpaths hv]
    exact congrArg (List.count v.1.path) hreports.1
  · rw [← hsame, ← failures_of_unit hpaths hv hall]
    exact congrArg (List.filter (·.subject == v.1.path)) hreports.2

theorem extraction_accounted (limits : Limits) (ho : outcomes registry content units = .ok os)
    (distinct : (units.map (·.path)).Nodup) :
    Accounted registry limits content units ((gather os).extraction limits.most.toNat) where
  ids := extraction_nodup limits.most.toNat os
  length := surface_length _ _ _
  sources m hm := by
    have hkept := (List.mem_filter.mp hm).2
    exact List.contains_iff_mem.mp hkept
  unsupported u hu hnone := by
    have houtcome : outcomeOf registry content u = .ok .unsupported := by
      rw [outcomeOf, hnone]
    exact reports_of_unit ho distinct _ hu houtcome
  failed u hu a ha kind message he := by
    have houtcome : outcomeOf registry content u =
        .ok (.failed (failureFinding a.name u.path kind message)) := by
      simp only [outcomeOf, ha, he]
    exact reports_of_unit ho distinct _ hu houtcome
  read u hu a ha y hy := by
    have houtcome : outcomeOf registry content u = .ok (.read y) := by
      simp only [outcomeOf, ha, hy]
    exact reports_of_unit ho distinct _ hu houtcome

end

/-- Units with distinct paths give one extraction, in whatever order they come and their tasks
finish. It keeps as many components as it may, under distinct ids, with their own mentions only,
and accounts for each unit that is not read. -/
theorem extract_settled (registry : Registry) (limits : Limits) (content : SourceUnit → String)
    (units : List SourceUnit) (distinct : (units.map (·.path)).Nodup) (most : 1 ≤ limits.most)
    (workers : ∀ n, limits.workers = some n → 1 ≤ n) (patient : Patient registry content units) :
    ∃ x, (∀ others, others.Perm units → extract registry limits content others = .ok x ∧
        TasksSettle registry limits content others x) ∧
      Accounted registry limits content units x := by
  obtain ⟨os, ho⟩ := outcomes_ok patient
  refine ⟨(gather os).extraction limits.most.toNat, ?_, extraction_accounted limits ho distinct⟩
  intro others hp
  constructor
  · obtain ⟨found, hx⟩ := extract_ok most workers patient
    obtain ⟨same, hsame, heq⟩ := extract_eq_ok hx
    rw [ho] at hsame
    cases hsame
    rw [extract_perm distinct hp, hx, heq]
  · have hothers : outcomes registry content others = .ok os := by
      rw [← ho, outcomes, outcomes, sortUnits_perm distinct hp]
    exact tasksSettle limits (fun u hu => patient u (hp.mem_iff.mp hu)) hothers

def twoWorkers : Limits := { workers := some 2 }

/-- The units the other way round, one of which its adapter fails on and one of which none reads. -/
theorem extract_settled_reversed :
    (sharingUnits.map (·.path)).Nodup ∧ (1 : Int) ≤ 15 ∧
      Patient ⟨[sharingAdapter]⟩ (fun _ => "") sharingUnits ∧
      ∃ x, extract ⟨[sharingAdapter]⟩ twoWorkers (fun _ => "") sharingUnits.reverse = .ok x ∧
        TasksSettle ⟨[sharingAdapter]⟩ twoWorkers (fun _ => "") sharingUnits.reverse x ∧
        Accounted ⟨[sharingAdapter]⟩ twoWorkers (fun _ => "") sharingUnits x ∧
        x.unanalyzed.count "broken.py" = 1 := by
  refine ⟨by decide, by decide, sharing_patient, ?_⟩
  have hworkers : ∀ n, twoWorkers.workers = some n → 1 ≤ n := by
    intro n h
    cases h
    decide
  obtain ⟨x, hall, haccounted⟩ := extract_settled ⟨[sharingAdapter]⟩ twoWorkers (fun _ => "")
    sharingUnits (by decide) (by decide) hworkers sharing_patient
  obtain ⟨hx, hsettles⟩ := hall _ sharingUnits.reverse_perm
  refine ⟨x, hx, hsettles, haccounted, ?_⟩
  exact (haccounted.failed ⟨"broken.py", some "python", 0, ""⟩ (by decide) sharingAdapter rfl
    "ValueError" "unreadable" rfl).1

end DocAtlas.Extract
