import DocAtlas.Proofs.Ordering
import DocAtlas.Scan.Snapshot
import DocAtlas.Scan.Walk
import Mathlib.Algebra.BigOperators.Group.List.Lemmas
import Mathlib.Algebra.Group.Prod
import Mathlib.Algebra.GroupWithZero.Nat
import Mathlib.Algebra.Order.Group.Multiset
import Mathlib.Data.Finset.Card
import Mathlib.Data.List.Nodup

/-!
Merging the harvests of a walk: what harvests hold without their order, one candidate that stands for
each real file, and a snapshot that does not depend on the order in which the harvests and their
entries come.
-/
namespace DocAtlas.Scan.Harvest

/-! ### What harvests hold -/

/-- A measure of harvests that adds up when they are put together. -/
structure Additive {M : Type} [AddCommMonoid M] (measure : Harvest → M) : Prop where
  empty : measure {} = 0
  append : ∀ a b : Harvest, measure (a.append b) = measure a + measure b

theorem Additive.all {M : Type} [AddCommMonoid M] {measure : Harvest → M} (h : Additive measure)
    (hs : List Harvest) : measure (Harvest.all hs) = (hs.map measure).sum := by
  have hfold : ∀ first : Harvest,
      measure (hs.foldl Harvest.append first) = measure first + (hs.map measure).sum := by
    induction hs with
    | nil =>
      intro first
      rw [List.foldl_nil, List.map_nil, List.sum_nil, add_zero]
    | cons next rest ih =>
      intro first
      rw [List.foldl_cons, ih, h.append, List.map_cons, List.sum_cons, add_assoc]
  rw [Harvest.all, hfold, h.empty, zero_add]

theorem additive_looked : Additive looked := ⟨rfl, fun _ _ => rfl⟩

/-- The candidates, findings and excluded entries of a harvest without their order. -/
def contents (h : Harvest) : Multiset Candidate × Multiset Finding × Nat :=
  (h.candidates, h.findings, h.excluded)

theorem additive_contents : Additive contents := ⟨rfl, fun _ _ => rfl⟩

theorem contents_eq_iff {a b : Harvest} :
    a.contents = b.contents ↔
      a.candidates.Perm b.candidates ∧ a.findings.Perm b.findings ∧ a.excluded = b.excluded := by
  simp only [contents, Prod.mk.injEq, Multiset.coe_eq_coe]

/-- The parts of a harvest may be put together in any order. -/
theorem contents_all_perm {hs others : List Harvest} (hp : hs.Perm others) :
    (all hs).contents = (all others).contents := by
  rw [additive_contents.all, additive_contents.all, (hp.map contents).sum_eq]

/-- A list that harvests put one after the other. -/
theorem part_all {α : Type} {part : Harvest → List α} (empty : part {} = [])
    (append : ∀ a b : Harvest, part (a.append b) = part a ++ part b) (hs : List Harvest) :
    part (all hs) = hs.flatMap part := by
  have hfold : ∀ first : Harvest, part (hs.foldl Harvest.append first) =
      part first ++ hs.flatMap part := by
    induction hs with
    | nil =>
      intro first
      rw [List.foldl_nil, List.flatMap_nil, List.append_nil]
    | cons next rest ih =>
      intro first
      rw [List.foldl_cons, ih, append, List.flatMap_cons, List.append_assoc]
  rw [all, hfold, empty, List.nil_append]

theorem candidates_all (hs : List Harvest) : (all hs).candidates = hs.flatMap (·.candidates) :=
  part_all rfl (fun _ _ => rfl) hs

theorem findings_all (hs : List Harvest) : (all hs).findings = hs.flatMap (·.findings) :=
  part_all rfl (fun _ _ => rfl) hs

end DocAtlas.Scan.Harvest

namespace DocAtlas.Scan

/-! ### One candidate for each file -/

/-- A candidate before which no other one of the same file comes. -/
def Leads (candidates : List Candidate) (c : Candidate) : Prop :=
  c ∈ candidates ∧ ∀ e ∈ candidates, e.place = c.place → (candidateOrder c e).isLE

instance : Std.TransCmp candidateOrder :=
  inferInstanceAs (Std.TransCmp (Order.andThen (Order.byNat fun c : Candidate => c.viaLink.toNat)
    (Order.byText Candidate.path)))

theorem path_eq_of_candidateOrder {a b : Candidate} (h : candidateOrder a b = .eq) :
    a.path = b.path :=
  Order.byText_eq_eq.mp (Order.andThen_eq_eq.mp h).2

theorem firstOfEach_sublist (seen : List Disk.Place) (cs : List Candidate) :
    (firstOfEach seen cs).Sublist cs := by
  induction cs generalizing seen with
  | nil => exact List.Sublist.refl _
  | cons c rest ih =>
    simp only [firstOfEach]
    split
    · exact (ih seen).cons c
    · exact (ih (c.place :: seen)).cons_cons c

theorem mem_places_firstOfEach {seen : List Disk.Place} {cs : List Candidate} {p : Disk.Place} :
    p ∈ (firstOfEach seen cs).map (·.place) ↔ p ∈ cs.map (·.place) ∧ p ∉ seen := by
  induction cs generalizing seen with
  | nil => simp [firstOfEach]
  | cons c rest ih =>
    simp only [firstOfEach]
    split
    · rename_i hseen
      rw [ih, List.map_cons, List.mem_cons]
      constructor
      · rintro ⟨hp, hn⟩
        exact ⟨.inr hp, hn⟩
      · rintro ⟨rfl | hp, hn⟩
        · exact absurd (List.contains_iff_mem.mp hseen) hn
        · exact ⟨hp, hn⟩
    · rename_i hnew
      rw [List.contains_iff_mem] at hnew
      rw [List.map_cons, List.mem_cons, ih, List.map_cons, List.mem_cons, List.mem_cons]
      constructor
      · rintro (rfl | ⟨hp, hn⟩)
        · exact ⟨.inl rfl, hnew⟩
        · exact ⟨.inr hp, fun h => hn (.inr h)⟩
      · rintro ⟨rfl | hp, hn⟩
        · exact .inl rfl
        · by_cases he : p = c.place
          · exact .inl he
          · exact .inr ⟨hp, fun h => h.elim he hn⟩

theorem firstOfEach_nodup (seen : List Disk.Place) (cs : List Candidate) :
    ((firstOfEach seen cs).map (·.place)).Nodup := by
  induction cs generalizing seen with
  | nil => exact List.nodup_nil
  | cons c rest ih =>
    simp only [firstOfEach]
    split
    · exact ih seen
    · rw [List.map_cons, List.nodup_cons]
      refine ⟨?_, ih _⟩
      intro h
      exact (mem_places_firstOfEach.mp h).2 List.mem_cons_self

theorem leads_cons {first : Candidate} {rest : List Candidate}
    (hfirst : ∀ e ∈ rest, candidateOrder first e = .lt) {c : Candidate} :
    Leads (first :: rest) c ↔ c = first ∨ Leads rest c ∧ c.place ≠ first.place := by
  constructor
  · rintro ⟨hm, hleast⟩
    rcases List.mem_cons.mp hm with rfl | hrest
    · exact .inl rfl
    · refine .inr ⟨⟨hrest, fun e he => hleast e (List.mem_cons_of_mem _ he)⟩, ?_⟩
      intro hplace
      have hle := hleast first List.mem_cons_self hplace.symm
      rw [Std.OrientedCmp.gt_of_lt (hfirst c hrest)] at hle
      cases hle
  · rintro (rfl | ⟨⟨hm, hleast⟩, hplace⟩)
    · refine ⟨List.mem_cons_self, List.forall_mem_cons.mpr ⟨?_, ?_⟩⟩
      · intro _
        have hself : candidateOrder c c = .eq := Std.ReflCmp.compare_self
        rw [hself]
        rfl
      · intro e he _
        rw [hfirst e he]
        rfl
    · refine ⟨List.mem_cons_of_mem _ hm, List.forall_mem_cons.mpr ⟨?_, hleast⟩⟩
      intro h
      exact absurd h.symm hplace

/-- In increasing order the first candidate of a file is the one that leads. -/
theorem mem_firstOfEach {seen : List Disk.Place} {cs : List Candidate}
    (hs : cs.Pairwise fun a b => candidateOrder a b = .lt) {c : Candidate} :
    c ∈ firstOfEach seen cs ↔ Leads cs c ∧ c.place ∉ seen := by
  induction cs generalizing seen with
  | nil => simp [firstOfEach, Leads]
  | cons first rest ih =>
    obtain ⟨hfirst, hrest⟩ := List.pairwise_cons.mp hs
    simp only [firstOfEach]
    rw [leads_cons hfirst]
    split
    · rename_i hseen
      rw [List.contains_iff_mem] at hseen
      rw [ih hrest]
      constructor
      · rintro ⟨hl, hn⟩
        exact ⟨.inr ⟨hl, fun he => hn (he ▸ hseen)⟩, hn⟩
      · rintro ⟨rfl | ⟨hl, -⟩, hn⟩
        · exact absurd hseen hn
        · exact ⟨hl, hn⟩
    · rename_i hnew
      rw [List.contains_iff_mem] at hnew
      rw [List.mem_cons, ih hrest, List.mem_cons, not_or]
      constructor
      · rintro (rfl | ⟨hl, hne, hn⟩)
        · exact ⟨.inl rfl, hnew⟩
        · exact ⟨.inr ⟨hl, hne⟩, hn⟩
      · rintro ⟨rfl | ⟨hl, hne⟩, hn⟩
        · exact .inl rfl
        · exact .inr ⟨hl, hne, hn⟩

section Deduplication

variable {candidates : List Candidate} (distinct : (candidates.map Candidate.path).Nodup)
include distinct

theorem candidates_differ : candidates.Pairwise fun a b => candidateOrder a b ≠ .eq := by
  apply (List.pairwise_map.mp distinct).imp
  intro a b hne he
  exact hne (path_eq_of_candidateOrder he)

theorem mem_deduplicate {c : Candidate} : c ∈ deduplicate candidates ↔ Leads candidates c := by
  rw [deduplicate, Order.mem_sort,
    mem_firstOfEach (Order.sort_increasing candidateOrder (candidates_differ distinct))]
  simp only [Leads, Order.mem_sort, List.not_mem_nil, not_false_eq_true, and_true]

theorem deduplicate_increasing :
    (deduplicate candidates).Pairwise fun a b => Order.byText Candidate.path a b = .lt := by
  have hpaths :
      ((firstOfEach [] (Order.sort candidateOrder candidates)).map Candidate.path).Nodup := by
    have hsorted := ((Order.sort_perm candidateOrder candidates).map _).nodup_iff.mpr distinct
    exact hsorted.sublist ((firstOfEach_sublist _ _).map _)
  apply Order.sort_increasing
  apply (List.pairwise_map.mp hpaths).imp
  intro a b hne he
  exact hne (Order.byText_eq_eq.mp he)

theorem deduplicate_perm {others : List Candidate} (hp : candidates.Perm others) :
    deduplicate candidates = deduplicate others := by
  have hothers := (hp.map Candidate.path).nodup_iff.mp distinct
  apply Order.eq_of_increasing (deduplicate_increasing distinct) (deduplicate_increasing hothers)
  intro c
  simp only [mem_deduplicate distinct, mem_deduplicate hothers, Leads, hp.mem_iff]

end Deduplication

theorem deduplicate_places_nodup (candidates : List Candidate) :
    ((deduplicate candidates).map (·.place)).Nodup :=
  ((Order.sort_perm _ _).map _).nodup_iff.mpr (firstOfEach_nodup _ _)

theorem mem_deduplicate_places {candidates : List Candidate} {p : Disk.Place} :
    p ∈ (deduplicate candidates).map (·.place) ↔ p ∈ candidates.map (·.place) := by
  rw [deduplicate, ((Order.sort_perm _ _).map _).mem_iff, mem_places_firstOfEach,
    ((Order.sort_perm _ candidates).map _).mem_iff]
  simp

theorem deduplicate_length (candidates : List Candidate) :
    (deduplicate candidates).length = (candidates.map (·.place)).toFinset.card := by
  rw [← List.length_map, ← List.toFinset_card_of_nodup (deduplicate_places_nodup candidates)]
  congr 1
  ext p
  rw [List.mem_toFinset, List.mem_toFinset, mem_deduplicate_places]

theorem exists_unique_leads {candidates : List Candidate}
    (distinct : (candidates.map Candidate.path).Nodup) {p : Disk.Place}
    (hp : p ∈ candidates.map (·.place)) : ∃! c, Leads candidates c ∧ c.place = p := by
  obtain ⟨c, hc, rfl⟩ := List.mem_map.mp (mem_deduplicate_places.mpr hp)
  refine ⟨c, ⟨(mem_deduplicate distinct).mp hc, rfl⟩, ?_⟩
  rintro e ⟨he, hplace⟩
  exact List.inj_on_of_nodup_map (deduplicate_places_nodup candidates)
    ((mem_deduplicate distinct).mpr he) hc hplace

/-- A file that is also reached without a link is not represented by a way through one. -/
theorem Leads.direct {candidates : List Candidate} {c e : Candidate} (h : Leads candidates c)
    (he : e ∈ candidates) (hplace : e.place = c.place) (hdirect : e.viaLink = false) :
    c.viaLink = false := by
  have hle := h.2 e he hplace
  cases hc : c.viaLink with
  | false => rfl
  | true => simp [candidateOrder, Order.andThen, Order.byNat, hc, hdirect] at hle

/-! ### Outcomes -/

theorem mem_unitsOf {outcomes : List (Except Omission SourceUnit)} {u : SourceUnit} :
    u ∈ unitsOf outcomes ↔ .ok u ∈ outcomes := by
  rw [unitsOf, List.mem_filterMap]
  constructor
  · rintro ⟨outcome, hm, he⟩
    cases outcome with
    | error o => cases he
    | ok unit =>
      cases he
      exact hm
  · intro h
    exact ⟨_, h, rfl⟩

theorem mem_omissionsOf {outcomes : List (Except Omission SourceUnit)} {o : Omission} :
    o ∈ omissionsOf outcomes ↔ .error o ∈ outcomes := by
  rw [omissionsOf, List.mem_filterMap]
  constructor
  · rintro ⟨outcome, hm, he⟩
    cases outcome with
    | ok u => cases he
    | error omission =>
      cases he
      exact hm
  · intro h
    exact ⟨_, h, rfl⟩

theorem length_outcomes (outcomes : List (Except Omission SourceUnit)) :
    (unitsOf outcomes).length + (omissionsOf outcomes).length = outcomes.length := by
  induction outcomes with
  | nil => rfl
  | cons outcome rest ih =>
    cases outcome with
    | ok u =>
      simp only [unitsOf, omissionsOf, List.filterMap_cons, List.length_cons] at ih ⊢
      omega
    | error o =>
      simp only [unitsOf, omissionsOf, List.filterMap_cons, List.length_cons] at ih ⊢
      omega

theorem load_path {d : Disk} {settings : Settings} {clock : Clock} {c : Candidate} :
    (∀ u, load d settings clock c = .ok u → u.path = c.path) ∧
      ∀ o, load d settings clock c = .error o → o.path = c.path := by
  unfold load
  split
  · split
    · simp
    · simp
  · simp

theorem unitsOf_load_increasing (d : Disk) (settings : Settings) (clock : Clock)
    {cs : List Candidate} (hs : cs.Pairwise fun a b => Order.byText Candidate.path a b = .lt) :
    (unitsOf (cs.map (load d settings clock))).Pairwise fun a b => a.path < b.path := by
  rw [unitsOf, List.pairwise_filterMap, List.pairwise_map]
  apply hs.imp
  intro a b hab u hu v hv
  have ha : load d settings clock a = .ok u := by
    cases h : load d settings clock a <;> rw [h] at hu <;> cases hu
    rfl
  have hb : load d settings clock b = .ok v := by
    cases h : load d settings clock b <;> rw [h] at hv <;> cases hv
    rfl
  rw [load_path.1 u ha, load_path.1 v hb]
  exact Order.byText_eq_lt.mp hab

/-! ### Snapshots -/

instance : Std.TransCmp findingOrder :=
  inferInstanceAs (Std.TransCmp (Order.andThen (Order.byText fun f : Finding => f.kind.label)
    (Order.byText Finding.subject)))

theorem kind_label_injective : Function.Injective Finding.Kind.label := by
  intro a b h
  cases a <;> cases b <;> simp_all [Finding.Kind.label]

/-- By what findings are sorted. -/
def findingKey (f : Finding) : Finding.Kind × String := (f.kind, f.subject)

theorem findingKey_eq_of_findingOrder {a b : Finding} (h : findingOrder a b = .eq) :
    findingKey a = findingKey b := by
  obtain ⟨hkind, hsubject⟩ := Order.andThen_eq_eq.mp h
  exact Prod.ext (kind_label_injective (Order.byText_eq_eq.mp hkind))
    (Order.byText_eq_eq.mp hsubject)

/-- Harvests that hold the same in all make the same snapshot. -/
theorem snapshotOf_congr (load : Candidate → Except Omission SourceUnit) (root : Disk.Place)
    {harvests others : List Harvest}
    (paths : ((Harvest.all harvests).candidates.map Candidate.path).Nodup)
    (findings : ((Harvest.all harvests).findings.map findingKey).Nodup)
    (same : (Harvest.all harvests).contents = (Harvest.all others).contents) :
    snapshotOf load root harvests = snapshotOf load root others := by
  obtain ⟨hcandidates, hfindings, hexcluded⟩ := Harvest.contents_eq_iff.mp same
  have hdiffer : (Harvest.all harvests).findings.Pairwise fun a b => findingOrder a b ≠ .eq := by
    apply (List.pairwise_map.mp findings).imp
    intro a b hne he
    exact hne (findingKey_eq_of_findingOrder he)
  simp only [snapshotOf, deduplicate_perm paths hcandidates, hexcluded,
    Order.sort_append_of_perm hfindings hdiffer]

/-- How a snapshot accounts for what its harvests hold. -/
structure Merged (d : Disk) (settings : Settings) (clock : Clock) (whole : Harvest) (s : Snapshot) :
    Prop where
  /-- Of every real file one candidate leads, by links and then by path. -/
  leader : ∀ p ∈ whole.candidates.map (·.place), ∃! c, Leads whole.candidates c ∧ c.place = p
  /-- Its outcome is a unit or an omission. -/
  units : ∀ u, u ∈ s.units ↔ ∃ c, Leads whole.candidates c ∧ load d settings clock c = .ok u
  omitted : ∀ o, o ∈ s.omitted ↔ ∃ c, Leads whole.candidates c ∧ load d settings clock c = .error o
  /-- There are as many outcomes as real files. -/
  count : s.units.length + s.omitted.length = (whole.candidates.map (·.place)).toFinset.card
  increasing : s.units.Pairwise fun a b => a.path < b.path
  /-- Besides the findings of the harvests there is one for each omission. -/
  findings : s.findings.Perm
    ((if whole.excluded = 0 then [] else [exclusionsFinding whole.excluded]) ++
      (whole.findings ++ s.omitted.map (·.finding)))
  excluded : s.excluded = whole.excluded
  /-- No file that is reached without a link is represented by a way through one. -/
  direct : ∀ c, Leads whole.candidates c → ∀ e ∈ whole.candidates, e.place = c.place →
    e.viaLink = false → c.viaLink = false

theorem snapshotOf_merged (d : Disk) (settings : Settings) (clock : Clock) (root : Disk.Place)
    {harvests : List Harvest}
    (paths : ((Harvest.all harvests).candidates.map Candidate.path).Nodup) :
    Merged d settings clock (Harvest.all harvests)
      (snapshotOf (load d settings clock) root harvests) where
  leader _ hp := exists_unique_leads paths hp
  units u := by
    simp only [snapshotOf, mem_unitsOf, List.mem_map, mem_deduplicate paths]
  omitted o := by
    simp only [snapshotOf, mem_omissionsOf, List.mem_map, mem_deduplicate paths]
  count := by
    simp only [snapshotOf, length_outcomes, List.length_map, deduplicate_length]
  increasing := unitsOf_load_increasing d settings clock (deduplicate_increasing paths)
  findings := by
    simp only [snapshotOf]
    split
    · exact Order.sort_perm _ _
    · exact (Order.sort_perm _ _).cons _
  excluded := rfl
  direct _ h _ he := h.direct he

/-- Harvests with candidates of distinct paths, and findings of which no two have the same kind and
subject, make the same snapshot in whatever order they and their entries come. It holds one outcome
for each real file: that of the least candidate, those without links first. -/
theorem snapshotOf_settled (d : Disk) (settings : Settings) (clock : Clock) (root : Disk.Place)
    (harvests : List Harvest)
    (paths : ((Harvest.all harvests).candidates.map Candidate.path).Nodup)
    (findings : ((Harvest.all harvests).findings.map findingKey).Nodup) :
    (∀ others, (Harvest.all others).contents = (Harvest.all harvests).contents →
      snapshotOf (load d settings clock) root others =
        snapshotOf (load d settings clock) root harvests) ∧
      Merged d settings clock (Harvest.all harvests)
        (snapshotOf (load d settings clock) root harvests) :=
  ⟨fun _ same => (snapshotOf_congr (load d settings clock) root paths findings same.symm).symm,
    snapshotOf_merged d settings clock root paths⟩

/-- A directory with a link to a file that is also reached without it. -/
def aliasDisk : Disk where
  entries := [("repo", .directory [("alias.py", .link "b/x.py"),
    ("b", .directory [("x.py", .file ByteArray.empty), ("y.py", .file ByteArray.empty)])])]

def aliasTop : Harvest where
  candidates := [⟨"alias.py", ["repo", "b", "x.py"], true⟩]
  findings := [cycleFinding "loop"]
  excluded := 1

def aliasBelow : Harvest where
  candidates := [⟨"b/x.py", ["repo", "b", "x.py"], false⟩, ⟨"b/y.py", ["repo", "b", "y.py"], false⟩]
  findings := [cycleFinding "b/up"]

theorem snapshotOf_settled_alias :
    ((Harvest.all [aliasTop, aliasBelow]).candidates.map Candidate.path).Nodup ∧
      ((Harvest.all [aliasTop, aliasBelow]).findings.map findingKey).Nodup ∧
      snapshotOf (load aliasDisk {} stillClock) ["repo"] [aliasBelow, aliasTop] =
        snapshotOf (load aliasDisk {} stillClock) ["repo"] [aliasTop, aliasBelow] ∧
      Merged aliasDisk {} stillClock (Harvest.all [aliasTop, aliasBelow])
        (snapshotOf (load aliasDisk {} stillClock) ["repo"] [aliasTop, aliasBelow]) := by
  have paths : ((Harvest.all [aliasTop, aliasBelow]).candidates.map Candidate.path).Nodup := by
    decide
  have findings : ((Harvest.all [aliasTop, aliasBelow]).findings.map findingKey).Nodup := by
    decide
  obtain ⟨hall, hmerged⟩ :=
    snapshotOf_settled aliasDisk {} stillClock ["repo"] [aliasTop, aliasBelow] paths findings
  have hswap : [aliasBelow, aliasTop].Perm [aliasTop, aliasBelow] := List.Perm.swap _ _ _
  exact ⟨paths, findings, hall _ (Harvest.contents_all_perm hswap), hmerged⟩

end DocAtlas.Scan
