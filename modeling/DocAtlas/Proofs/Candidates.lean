import DocAtlas.Proofs.Mapping
import DocAtlas.Proofs.Ordering
import DocAtlas.Proofs.UnitClaims
import Mathlib.Data.Finset.Card

/-!
Which of all the declared components become one candidate, and whose mentions a candidate has.
-/
namespace DocAtlas.Extract

def Outcome.components : Outcome → List Component
  | .read y => y.components
  | _ => []

def Outcome.mentions : Outcome → List Mention
  | .read y => y.mentions
  | _ => []

def declaredAfter (g : Gathered) : List (SourceUnit × Outcome) → List Declared
  | [] => []
  | u :: rest => declaredFrom { gathered := g } u.2.components ++ declaredAfter (g.add u) rest

/-- All declared components, in the order in which they are claimed. -/
def declared (units : List (SourceUnit × Outcome)) : List Declared := declaredAfter {} units

theorem Gathered.add_known (g : Gathered) (u : SourceUnit × Outcome) :
    (g.add u).known = (u.2.components.foldl Claiming.claim { gathered := g }).gathered.known := by
  unfold Gathered.add Outcome.components
  cases u.2 <;> rfl

theorem Gathered.add_mentions (g : Gathered) (u : SourceUnit × Outcome) :
    (g.add u).mentions = g.mentions ++ u.2.mentions.map
      (follow (u.2.components.foldl Claiming.claim { gathered := g }).renamed) := by
  have hkeep (cs : List Component) :
      (cs.foldl Claiming.claim { gathered := g }).gathered.mentions = g.mentions := by
    refine List.foldlRecOn (motive := fun s : Claiming => s.gathered.mentions = g.mentions) _ _
      rfl ?_
    intro s hs c _
    obtain ⟨id, renamed, -, -, hm, -⟩ := s.claim_spec c
    exact hm.trans hs
  unfold Gathered.add Outcome.mentions Outcome.components
  cases u.2 with
  | unsupported => exact (List.append_nil _).symm
  | failed finding => exact (List.append_nil _).symm
  | read y =>
    dsimp only [Gathered.addYield]
    rw [hkeep]

/-- No two units have one path, and each declares components of its own path only. -/
structure Filed (units : List (SourceUnit × Outcome)) : Prop where
  distinct : (units.map (·.1.path)).Nodup
  own : ∀ u ∈ units, ∀ c ∈ u.2.components, c.path = u.1.path

/-- The mentions of all units, each by the candidate of the component that it names as its source.
-/
def attributed (ds : List Declared) (units : List (SourceUnit × Outcome)) : List Mention :=
  units.flatMap fun u => u.2.mentions.map fun m =>
    { m with source := candidateId ds u.1.path m.source }

/-- How the candidates gathered answer to the declared components. -/
structure Accounts (ds : List Declared) (g : Gathered) : Prop where
  nodup : g.ids.Nodup
  held : ∀ c ∈ g.known, ∃ d ∈ ds, d.id = c.id ∧ d.component.path = c.path
  known : ∀ d ∈ ds, d.id ∈ g.ids
  same : ∀ d ∈ ds, ∀ e ∈ ds, d.id = e.id ↔ d.component.path = e.component.path ∧
    (d.component.id = e.component.id ∨ Displaces d e ∨ Displaces e d)
  numbered : ∀ d ∈ ds, ∀ e ∈ ds, Displaces d e →
    ∃ n, 2 ≤ n ∧ e.component.id = Extract.numbered d.component.id n

theorem accounts_nil : Accounts [] {} := by
  refine ⟨List.nodup_nil, ?_, by simp, by simp, by simp⟩
  intro c hc
  cases hc

theorem Accounts.add {ds new : List Declared} {g g' : Gathered} {path : String} {s : Claiming}
    (h : Accounts ds g) (hc : Claimed g.known path new s)
    (hp : ∀ d ∈ ds, d.component.path ≠ path) (hk : g'.known = s.gathered.known) :
    Accounts (ds ++ new) g' := by
  have hids : g'.ids = s.gathered.ids := congrArg (List.map Component.id) hk
  have hids_differ : ∀ d ∈ ds, ∀ e ∈ new, d.id ≠ e.id := by
    intro d hd e he heq
    exact (hc.fits e he).new (heq ▸ h.known d hd)
  have hpaths_differ : ∀ d ∈ ds, ∀ e ∈ new, d.component.path ≠ e.component.path := by
    intro d hd e he heq
    exact hp d hd (heq.trans (hc.fits e he).path)
  refine ⟨hids ▸ hc.nodup, ?_, ?_, ?_, ?_⟩
  · intro c hm
    rw [hk] at hm
    rcases hc.owned c hm with hb | ⟨hpath, d, hd, hi⟩
    · obtain ⟨d, hd, hi⟩ := h.held c hb
      exact ⟨d, List.mem_append_left _ hd, hi⟩
    · exact ⟨d, List.mem_append_right _ hd, hi, (hc.fits d hd).path.trans hpath.symm⟩
  · intro d hd
    rw [hids]
    rcases List.mem_append.mp hd with hd | hd
    · exact List.map_subset _ hc.kept (h.known d hd)
    · exact (hc.fits d hd).known
  · intro d hd e he
    rcases List.mem_append.mp hd with hd | hd <;> rcases List.mem_append.mp he with he | he
    · exact h.same d hd e he
    · exact iff_of_false (hids_differ d hd e he) fun ⟨heq, _⟩ => hpaths_differ d hd e he heq
    · exact iff_of_false (hids_differ e he d hd).symm
        fun ⟨heq, _⟩ => hpaths_differ e he d hd heq.symm
    · rw [hc.same_iff hd he]
      have hpath := (hc.fits d hd).path.trans (hc.fits e he).path.symm
      exact ⟨fun hsame => ⟨hpath, hsame⟩, And.right⟩
  · intro d hd e he hdisplaces
    rcases List.mem_append.mp hd with hd | hd <;> rcases List.mem_append.mp he with he | he
    · exact h.numbered d hd e he hdisplaces
    · exact absurd hdisplaces.path (hpaths_differ d hd e he)
    · exact absurd hdisplaces.path.symm (hpaths_differ e he d hd)
    · exact hc.displaced_numbered hd hdisplaces

theorem declaredFrom_path {path : String} {cs : List Component} (hc : ∀ c ∈ cs, c.path = path)
    (s : Claiming) : ∀ d ∈ declaredFrom s cs, d.component.path = path := by
  induction cs generalizing s with
  | nil => exact List.forall_mem_nil _
  | cons c rest ih =>
    rw [List.forall_mem_cons] at hc
    exact List.forall_mem_cons.mpr ⟨hc.1, ih hc.2 _⟩

theorem Filed.tail {u : SourceUnit × Outcome} {rest : List (SourceUnit × Outcome)}
    (h : Filed (u :: rest)) : Filed rest :=
  ⟨(List.nodup_cons.mp h.distinct).2, fun v hv => h.own v (List.mem_cons_of_mem _ hv)⟩

theorem Filed.head_path {u : SourceUnit × Outcome} {rest : List (SourceUnit × Outcome)}
    (h : Filed (u :: rest)) {v : SourceUnit × Outcome} (hv : v ∈ rest) : u.1.path ≠ v.1.path := by
  intro he
  exact (List.nodup_cons.mp h.distinct).1 (List.mem_map.mpr ⟨v, hv, he.symm⟩)

theorem declaredAfter_path {units : List (SourceUnit × Outcome)} (h : Filed units)
    (g : Gathered) : ∀ d ∈ declaredAfter g units, ∃ u ∈ units, d.component.path = u.1.path := by
  induction units generalizing g with
  | nil => exact List.forall_mem_nil _
  | cons u rest ih =>
    intro d hd
    rcases List.mem_append.mp hd with hd | hd
    · exact ⟨u, List.mem_cons_self, declaredFrom_path (h.own u List.mem_cons_self) _ d hd⟩
    · obtain ⟨v, hv, he⟩ := ih h.tail _ d hd
      exact ⟨v, List.mem_cons_of_mem _ hv, he⟩

/-- Only the unit's own components are declared under its path. -/
theorem Filed.mem_declaredFrom {u : SourceUnit × Outcome} {rest : List (SourceUnit × Outcome)}
    (h : Filed (u :: rest)) {g : Gathered} {d : Declared} (hd : d ∈ declaredAfter g (u :: rest))
    (hpath : d.component.path = u.1.path) :
    d ∈ declaredFrom { gathered := g } u.2.components := by
  rcases List.mem_append.mp hd with hd | hd
  · exact hd
  · obtain ⟨v, hv, he⟩ := declaredAfter_path h.tail _ d hd
    exact absurd (hpath.symm.trans he) (h.head_path hv)

/-- From any point of the run on, the candidates answer to the declared components, and mentions
go to the candidates of their sources. -/
theorem Accounts.run {units : List (SourceUnit × Outcome)} (hf : Filed units) {g : Gathered}
    {ds : List Declared} (h : Accounts ds g)
    (hp : ∀ d ∈ ds, ∀ u ∈ units, d.component.path ≠ u.1.path) :
    Accounts (ds ++ declaredAfter g units) (units.foldl Gathered.add g) ∧
      (units.foldl Gathered.add g).mentions =
        g.mentions ++ attributed (ds ++ declaredAfter g units) units := by
  induction units generalizing g ds with
  | nil =>
    rw [declaredAfter, attributed, List.flatMap_nil, List.append_nil, List.append_nil]
    exact ⟨h, rfl⟩
  | cons u rest ih =>
    have hown := hf.own u List.mem_cons_self
    have hbefore : ∀ c ∈ g.known, c.path ≠ u.1.path := by
      intro c hc he
      obtain ⟨d, hd, -, hpath⟩ := h.held c hc
      exact hp d hd u List.mem_cons_self (hpath.trans he)
    have hunit := (claimed_nil h.nodup u.1.path).claims hbefore hown
    rw [List.nil_append] at hunit
    have hadd := h.add hunit (fun d hd => hp d hd u List.mem_cons_self) (g.add_known u)
    have hlater : ∀ d ∈ ds ++ declaredFrom { gathered := g } u.2.components, ∀ v ∈ rest,
        d.component.path ≠ v.1.path := by
      intro d hd v hv
      rcases List.mem_append.mp hd with hd | hd
      · exact hp d hd v (List.mem_cons_of_mem _ hv)
      · rw [declaredFrom_path hown _ d hd]
        exact hf.head_path hv
    obtain ⟨haccounts, hmentions⟩ := ih hf.tail hadd hlater
    rw [List.append_assoc] at haccounts hmentions
    refine ⟨haccounts, hmentions.trans ?_⟩
    have hsub : declaredFrom { gathered := g } u.2.components ⊆ ds ++ declaredAfter g (u :: rest) :=
      fun d hd => List.mem_append_right _ (List.mem_append_left _ hd)
    have hall : ∀ d ∈ ds ++ declaredAfter g (u :: rest), d.component.path = u.1.path →
        d ∈ declaredFrom { gathered := g } u.2.components := by
      intro d hd hpath
      rcases List.mem_append.mp hd with hd | hd
      · exact absurd hpath (hp d hd u List.mem_cons_self)
      · exact hf.mem_declaredFrom hd hpath
    rw [g.add_mentions, List.map_congr_left fun m _ => hunit.follow_eq hsub hall m,
      List.append_assoc]
    rfl

/-! ### What an extraction answers to -/

theorem Accounts.candidateId_eq {ds : List Declared} {g : Gathered} (h : Accounts ds g)
    {d : Declared} (hd : d ∈ ds) :
    candidateId ds d.component.path d.component.id = d.id := by
  unfold candidateId
  cases hf : ds.find? fun e => e.component.path == d.component.path &&
      e.component.id == d.component.id with
  | none =>
    have hno := List.find?_eq_none.mp hf d hd
    simp at hno
  | some e =>
    have hk := List.find?_some hf
    rw [Bool.and_eq_true, beq_iff_eq, beq_iff_eq] at hk
    exact (h.same e (List.mem_of_find?_eq_some hf) d hd).mpr ⟨hk.1, .inl hk.2⟩

theorem Accounts.mem_ids_iff {ds : List Declared} {g : Gathered} (h : Accounts ds g)
    {id : String} : id ∈ g.ids ↔ ∃ d ∈ ds, d.id = id := by
  constructor
  · intro hm
    obtain ⟨c, hc, rfl⟩ := List.mem_map.mp hm
    obtain ⟨d, hd, hi, -⟩ := h.held c hc
    exact ⟨d, hd, hi⟩
  · rintro ⟨d, hd, rfl⟩
    exact h.known d hd

/-- A path with an id declared under it. -/
def Declared.pair (d : Declared) : String × String := (d.component.path, d.component.id)

/-- There is a candidate for every declared pair, and none is lost unless one displaces another. -/
theorem Accounts.count_iff {ds : List Declared} {g : Gathered} (h : Accounts ds g) :
    g.known.length = (ds.map Declared.pair).toFinset.card ↔
      ∀ d ∈ ds, ∀ e ∈ ds, ¬Displaces d e := by
  have himage : (ds.map Declared.pair).toFinset.image (fun p => candidateId ds p.1 p.2) =
      g.ids.toFinset := by
    ext id
    simp only [Finset.mem_image, List.mem_toFinset, List.mem_map, h.mem_ids_iff]
    constructor
    · rintro ⟨-, ⟨d, hd, rfl⟩, rfl⟩
      exact ⟨d, hd, (h.candidateId_eq hd).symm⟩
    · rintro ⟨d, hd, rfl⟩
      exact ⟨d.pair, ⟨d, hd, rfl⟩, h.candidateId_eq hd⟩
  have hlength : g.known.length = g.ids.toFinset.card := by
    rw [List.toFinset_card_of_nodup h.nodup, Gathered.ids, List.length_map]
  rw [hlength, ← himage, Finset.card_image_iff]
  constructor
  · intro hinjective d hd e he hdisplaces
    have heq := (h.same d hd e he).mpr ⟨hdisplaces.path, .inr (.inl hdisplaces)⟩
    have hpair : d.pair = e.pair := by
      apply hinjective
      · simpa using ⟨d, hd, rfl⟩
      · simpa using ⟨e, he, rfl⟩
      · exact (h.candidateId_eq hd).trans (heq.trans (h.candidateId_eq he).symm)
    exact hdisplaces.differ (congrArg Prod.snd hpair)
  · intro hnone p hp q hq heq
    obtain ⟨d, hd, rfl⟩ := List.mem_map.mp (List.mem_toFinset.mp hp)
    obtain ⟨e, he, rfl⟩ := List.mem_map.mp (List.mem_toFinset.mp hq)
    have hids : d.id = e.id :=
      (h.candidateId_eq hd).symm.trans (heq.trans (h.candidateId_eq he))
    obtain ⟨hpath, hi | hdisplaces | hdisplaces⟩ := (h.same d hd e he).mp hids
    · exact Prod.ext hpath hi
    · exact absurd hdisplaces (hnone d hd e he)
    · exact absurd hdisplaces (hnone e he d hd)

theorem declaredFrom_components (s : Claiming) (cs : List Component) :
    (declaredFrom s cs).map (·.component) = cs := by
  induction cs generalizing s with
  | nil => rfl
  | cons c rest ih => rw [declaredFrom, List.map_cons, ih]

theorem declared_components (units : List (SourceUnit × Outcome)) :
    (declared units).map (·.component) = units.flatMap (·.2.components) := by
  have hafter : ∀ g : Gathered, (declaredAfter g units).map (·.component) =
      units.flatMap (·.2.components) := by
    induction units with
    | nil => exact fun _ => rfl
    | cons u rest ih =>
      intro g
      rw [declaredAfter, List.map_append, declaredFrom_components, ih, List.flatMap_cons]
  exact hafter {}

theorem extract_eq_ok {registry : Registry} {limits : Limits} {content : SourceUnit → String}
    {units : List SourceUnit} {x : Extraction}
    (h : extract registry limits content units = .ok x) :
    ∃ os, outcomes registry content units = .ok os ∧
      x = (gather os).extraction limits.most.toNat := by
  simp only [extract, bind, Except.bind] at h
  split at h
  · cases h
  · split at h
    · cases h
    · split at h
      · cases h
      · rename_i os ho
        cases h
        exact ⟨os, ho, rfl⟩

theorem outcomes_units {registry : Registry} {content : SourceUnit → String}
    {units : List SourceUnit} {os : List (SourceUnit × Outcome)}
    (h : outcomes registry content units = .ok os) :
    os.map (·.1) = sortUnits units ∧ ∀ u ∈ os, outcomeOf registry content u.1 = .ok u.2 := by
  unfold outcomes at h
  generalize sortUnits units = ordered at h ⊢
  induction ordered generalizing os with
  | nil =>
    cases h
    exact ⟨rfl, List.forall_mem_nil _⟩
  | cons u rest ih =>
    obtain ⟨read, reads, hu, hrest, rfl⟩ := mapM_cons_ok.mp h
    obtain ⟨hmap, hall⟩ := ih hrest
    simp only [bind, Except.bind, pure, Except.pure] at hu
    split at hu
    · cases hu
    · rename_i o ho
      cases hu
      exact ⟨congrArg (u :: ·) hmap, List.forall_mem_cons.mpr ⟨ho, hall⟩⟩

/-- What holds of the components of every file that is read holds of those of the outcomes. -/
theorem outcomes_components {registry : Registry} {content : SourceUnit → String}
    {units : List SourceUnit} {os : List (SourceUnit × Outcome)}
    (h : outcomes registry content units = .ok os) {P : SourceUnit → Component → Prop}
    (hP : ∀ u ∈ units, ∀ y, outcomeOf registry content u = .ok (.read y) →
      ∀ c ∈ y.components, P u c) : ∀ u ∈ os, ∀ c ∈ u.2.components, P u.1 c := by
  obtain ⟨hmap, hall⟩ := outcomes_units h
  intro u hu c hc
  have hsorted : u.1 ∈ sortUnits units := by
    rw [← hmap]
    exact List.mem_map_of_mem hu
  cases ho : u.2 with
  | unsupported =>
    rw [ho] at hc
    cases hc
  | failed finding =>
    rw [ho] at hc
    cases hc
  | read y =>
    rw [ho] at hc
    exact hP u.1 (Order.mem_sort.mp hsorted) y (ho ▸ hall u hu) c hc

theorem outcomes_filed {registry : Registry} {content : SourceUnit → String}
    {units : List SourceUnit} {os : List (SourceUnit × Outcome)}
    (h : outcomes registry content units = .ok os) (distinct : (units.map (·.path)).Nodup)
    (own : ∀ u ∈ units, ∀ y, outcomeOf registry content u = .ok (.read y) →
      ∀ c ∈ y.components, c.path = u.path) : Filed os := by
  constructor
  · have hpaths : os.map (·.1.path) = (sortUnits units).map (·.path) := by
      rw [← (outcomes_units h).1, List.map_map]
      rfl
    rw [hpaths]
    exact ((Order.sort_perm _ units).map _).nodup_iff.mpr distinct
  · exact outcomes_components h own

/-- How the candidates of an extraction answer to what the units declare. -/
structure AnswersTo (os : List (SourceUnit × Outcome)) (x : Extraction) : Prop where
  /-- Every component that a unit declares is accounted for. -/
  all : (declared os).map (·.component) = os.flatMap (·.2.components)
  /-- The candidates are those that declared components become. -/
  ids : ∀ id, id ∈ (gather os).ids ↔ ∃ d ∈ declared os, d.id = id
  /-- Two become the same one if they have the same path and declare the same id, or one of them
  gets a numbered id that the other declares. -/
  same : ∀ d ∈ declared os, ∀ e ∈ declared os, d.id = e.id ↔
    d.component.path = e.component.path ∧
      (d.component.id = e.component.id ∨ Displaces d e ∨ Displaces e d)
  /-- The id that is displaced is another one with a number. -/
  numbered : ∀ d ∈ declared os, ∀ e ∈ declared os, Displaces d e →
    ∃ n, 2 ≤ n ∧ e.component.id = Extract.numbered d.component.id n
  /-- There are as many candidates as distinct pairs of path and declared id, unless some component
  displaces another. -/
  count : x.candidates = ((declared os).map Declared.pair).toFinset.card ↔
    ∀ d ∈ declared os, ∀ e ∈ declared os, ¬Displaces d e
  /-- Mentions keep their order, and go to the candidates of the components they name. -/
  mentions : x.mentions = (attributed (declared os) os).filter fun m =>
    (x.components.map (·.id)).contains m.source
  sources : ∀ d ∈ declared os, candidateId (declared os) d.component.path d.component.id = d.id

/-- The candidates of every extraction from distinct files answer to what is declared in them. -/
theorem candidates_answer {registry : Registry} {limits : Limits} {content : SourceUnit → String}
    {units : List SourceUnit} {x : Extraction}
    (extracted : extract registry limits content units = .ok x)
    (distinct : (units.map (·.path)).Nodup)
    (own : ∀ u ∈ units, ∀ y, outcomeOf registry content u = .ok (.read y) →
      ∀ c ∈ y.components, c.path = u.path) :
    ∃ os, outcomes registry content units = .ok os ∧
      x = (gather os).extraction limits.most.toNat ∧ AnswersTo os x := by
  obtain ⟨os, ho, rfl⟩ := extract_eq_ok extracted
  obtain ⟨haccounts, hmentions⟩ :=
    accounts_nil.run (outcomes_filed ho distinct own) (List.forall_mem_nil _)
  rw [List.nil_append] at haccounts hmentions
  refine ⟨os, ho, rfl, declared_components os, fun _ => haccounts.mem_ids_iff, haccounts.same,
    haccounts.numbered, haccounts.count_iff, ?_, fun _ => haccounts.candidateId_eq⟩
  exact congrArg (List.filter fun m => (((gather os).extraction limits.most.toNat).components.map
    (·.id)).contains m.source) hmentions

/-- Reads from every file what is written down for it. -/
def scriptedAdapter (files : Keyed Yield) : Adapter where
  name := "scripted"
  ecosystems := ["python"]
  extract := fun u _ => .ok ((files.get? u.path).getD {})

def pythonUnit (path : String) : SourceUnit := ⟨path, some "python", 0, ""⟩

def plainComponent (path id : String) : Component :=
  { id := id, name := id, role := .general, path := path }

/-- The second file declares the id `x` of the first one and the id that it gets instead. -/
def displacingFiles : Keyed Yield :=
  [("a.py", ⟨[plainComponent "a.py" "x"], []⟩),
    ("b.py", ⟨[plainComponent "b.py" "x", plainComponent "b.py" "x-2"],
      [⟨"x", "y", .uses⟩, ⟨"x-2", "x", .uses⟩]⟩)]

def displacingOutcomes : List (SourceUnit × Outcome) :=
  displacingFiles.map fun file => (pythonUnit file.1, .read file.2)

theorem outcomes_displacing :
    outcomes ⟨[scriptedAdapter displacingFiles]⟩ (fun _ => "")
      [pythonUnit "b.py", pythonUnit "a.py"] = .ok displacingOutcomes := by
  have hsort : sortUnits [pythonUnit "b.py", pythonUnit "a.py"] =
      [pythonUnit "a.py", pythonUnit "b.py"] :=
    Order.sort_eq_of_perm (List.Perm.swap _ _ _) (by decide)
  rw [outcomes, hsort]
  rfl

theorem extract_displacing :
    extract ⟨[scriptedAdapter displacingFiles]⟩ {} (fun _ => "")
      [pythonUnit "b.py", pythonUnit "a.py"] = .ok ((gather displacingOutcomes).extraction 15) := by
  simp only [extract, outcomes_displacing]
  rfl

theorem displacing_own {u : SourceUnit} (hu : u ∈ [pythonUnit "b.py", pythonUnit "a.py"])
    {y : Yield}
    (hy : outcomeOf ⟨[scriptedAdapter displacingFiles]⟩ (fun _ => "") u = .ok (.read y)) :
    ∀ c ∈ y.components, c.path = u.path := by
  rcases List.mem_cons.mp hu with rfl | hu
  · cases hy
    decide
  · rw [List.mem_singleton.mp hu] at hy ⊢
    cases hy
    decide

theorem candidates_answer_displaced :
    [("b.py" : String), "a.py"].Nodup ∧
      ∃ x os, extract ⟨[scriptedAdapter displacingFiles]⟩ {} (fun _ => "")
          [pythonUnit "b.py", pythonUnit "a.py"] = .ok x ∧
        outcomes ⟨[scriptedAdapter displacingFiles]⟩ (fun _ => "")
          [pythonUnit "b.py", pythonUnit "a.py"] = .ok os ∧ AnswersTo os x := by
  refine ⟨by decide, ?_⟩
  obtain ⟨os, ho, -, ha⟩ :=
    candidates_answer extract_displacing (by decide) fun u hu y hy => displacing_own hu hy
  exact ⟨_, os, extract_displacing, ho, ha⟩

/-- Two of the three declared components become one candidate, although no two of them have the
same path and declare the same id. -/
theorem displaced_pair_is_lost :
    ∃ x, extract ⟨[scriptedAdapter displacingFiles]⟩ {} (fun _ => "")
        [pythonUnit "b.py", pythonUnit "a.py"] = .ok x ∧
      x.candidates = 2 ∧ (declared displacingOutcomes).length = 3 ∧
      ((declared displacingOutcomes).map Declared.pair).toFinset.card = 3 :=
  ⟨_, extract_displacing, by decide, by decide, by decide⟩

end DocAtlas.Extract
