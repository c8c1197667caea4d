import DocAtlas.Proofs.Attribution
import DocAtlas.Proofs.Documentation
import DocAtlas.Proofs.RuleMatching
import DocAtlas.Proofs.Stages

/-!
Runs under a deadline. A run without one tells which legs there are; under a deadline the run either
comes to the same result or stops in the stage in which the deadline passes, with the findings of
the stages before.
-/
namespace DocAtlas.Run

/-! ### Whole runs -/

/-- What a run comes to its result by, where files are read by the clock. -/
structure Course (d : Disk) (clock : Clock) (setup : Setup) (request : Request)
    (rules : Scan.RuleSet) (s : Scan.Snapshot) (x : Extract.Extraction) (r : Result) : Prop where
  ready : Scan.Ready d setup.scan request.path request.rules rules
  snapshot : s = Scan.snapshotOf (Scan.load d setup.scan clock) (d.resolve request.path)
    (Scan.harvestsOf d rules (d.resolve request.path))
  extraction : Extract.extract setup.registry setup.limits (contentOf d s.root) s.units = .ok x
  graph : Graph.build x.components x.mentions = .ok r.graph
  diagrams : r.diagrams = r.graph.views
  plan : r.plan = Tutorial.ofGraph r.graph
  review : Review.review setup.policy Review.likeness (Document.render r.graph r.diagrams r.plan
    (some (nameOf [request.projectName, setup.projectName] s.root))) = .ok (r.tree, r.review)
  root : r.root = s.root
  unanalyzed : r.unanalyzed = x.unanalyzed
  candidates : r.candidates = x.candidates

/-- The legs of a run whose scan reads the clock `n` times. -/
def legsOf (n : Nat) (s : Scan.Snapshot) (x : Extract.Extraction) (r : Result) : List Leg :=
  [⟨Scan.stage, n, s.findings⟩, ⟨Extract.stage, 1 + s.units.length, x.findings⟩,
    ⟨Graph.stage, 1, r.graph.findings⟩, ⟨"diagrams", 1, []⟩, ⟨"render", 1, []⟩,
    ⟨Review.stage, 1, r.review.findings⟩]

section

variable {d : Disk} {clock : Clock} {setup : Setup} {request : Request} {rules : Scan.RuleSet}
  {s : Scan.Snapshot} {x : Extract.Extraction} {r : Result}

theorem Course.takes (h : Course d clock setup request rules s x r) :
    Stage.Takes clock (stages d setup request)
      (legsOf (Scan.readingsOf d rules (d.resolve request.path)) s x r)
      fun found => { r with findings := found } := by
  obtain ⟨ready, hs, hx, hg, hdiagrams, hplan, hr, hroot, hunanalyzed, hcandidates⟩ := h
  rw [hdiagrams, hplan] at hr
  refine .after_note _ ((scanStage_takes ready hs).bind ((extractionStage_takes hx).bind
    ((graphStage_takes hg).bind ((viewStage_takes r.graph).bind ((treeStage_takes _ _ _ _).bind
      ((reviewStage_takes hr).bind ?_))))))
  rw [hdiagrams, hplan, hroot, hunanalyzed, hcandidates]
  exact .findings fun found => (⟨s.root, r.tree, r.graph.views, r.graph, Tutorial.ofGraph r.graph,
    r.review, found, x.unanalyzed, x.candidates⟩ : Result)

/-- Stages that end well, under whatever watch, have a course. -/
theorem course_of_stages {w : Watch} {q : Progress}
    (h : (stages d setup request).run.run { watch := w } = (.ok r, q)) :
    ∃ rules s x, Course d w.clock setup request rules s x r := by
  obtain ⟨_, _, hnote, h⟩ := Stage.run_bind_ok h
  cases hnote
  obtain ⟨s, _, hscan, h⟩ := Stage.run_bind_ok h
  obtain ⟨x, _, hextract, h⟩ := Stage.run_bind_ok h
  obtain ⟨g, _, hgraph, h⟩ := Stage.run_bind_ok h
  obtain ⟨views, _, hviews, h⟩ := Stage.run_bind_ok h
  obtain ⟨tree, _, htree, h⟩ := Stage.run_bind_ok h
  obtain ⟨⟨after, report⟩, _, hreview, h⟩ := Stage.run_bind_ok h
  obtain ⟨reached, _, -, h⟩ := Stage.run_bind_ok h
  cases h
  obtain ⟨rules, hready, hs⟩ := ready_of_scanStage hscan
  cases eq_of_viewStage hviews
  cases eq_of_treeStage htree
  exact ⟨rules, s, x, hready, hs, eq_of_extractionStage hextract, eq_of_graphStage hgraph, rfl, rfl,
    eq_of_reviewStage hreview, rfl, rfl, rfl⟩

end

/-! ### Under a deadline -/

/-- How a run that goes over the legs to the result `r` ends when its watch may expire: with this
result, or in the leg in which a reading comes after the deadline. In that case it keeps the
findings of the legs before, and one that tells of the deadline. -/
inductive Ends (w : Watch) (legs : List Leg) (r : Result) : Except Error Result → Prop
  | finished (running : ∀ k < (legs.map (·.readings)).sum, w.expiredAfter k = false) :
      Ends w legs r (.ok r)
  | expired {before after : List Leg} {leg : Leg} {kept : List Finding} {last : Finding}
      (split : legs = before ++ leg :: after)
      (running : ∀ k < (before.map (·.readings)).sum, w.expiredAfter k = false)
      (seen : ∃ k < leg.readings, w.expiredAfter ((before.map (·.readings)).sum + k) = true)
      (kept_eq : kept = before.flatMap (·.findings)) (cut : kept <+: r.findings)
      (kind : last.kind = .deadlineExceeded) (stage : last.stage = leg.stage)
      (subject : last.subject = leg.stage) (sole : ∀ f ∈ kept, f.kind ≠ .deadlineExceeded)
      (unchanged : leg.stage = Extract.stage → ∀ f ∈ kept, f.kind ≠ .adapterError) :
      Ends w legs r (.error (.expired leg.stage (kept ++ [last])))

section

variable {d : Disk} {clock : Clock} {setup : Setup} {request : Request} {rules : Scan.RuleSet}
  {s : Scan.Snapshot} {x : Extract.Extraction} {r : Result}

theorem Course.legs_allOf (h : Course d clock setup request rules s x r) (n : Nat) :
    ∀ leg ∈ legsOf n s x r, AllOf leg.stage leg.findings := by
  have hscan : AllOf Scan.stage s.findings := by
    rw [h.snapshot]
    exact Scan.snapshotOf_allOf _ _ (Scan.harvestsOf_allOf d rules _)
  simp only [legsOf, List.forall_mem_cons]
  exact ⟨hscan, Extract.extract_allOf h.extraction, Graph.build_allOf h.graph, .nil _, .nil _,
    Review.review_allOf h.review, fun _ hleg => absurd hleg List.not_mem_nil⟩

/-- What a run has found that ended well is what its legs find. -/
theorem Course.findings_eq {w : Watch} (h : Course d w.clock setup request rules s x r)
    {q : Progress} (hrun : (stages d setup request).run.run { watch := w } = (.ok r, q)) :
    r.findings = (legsOf (Scan.readingsOf d rules (d.resolve request.path)) s x r).flatMap
      (·.findings) := by
  rcases travel_cases (legsOf (Scan.readingsOf d rules (d.resolve request.path)) s x r) w [] with
    ⟨-, later, ht⟩ | ⟨before, leg, after, -, -, -, ht⟩
  · obtain ⟨log, hsame⟩ := h.takes.arrives { watch := w } later _ rfl ht
    rw [hrun] at hsame
    have hr := Except.ok.inj (congrArg Prod.fst hsame)
    exact congrArg Result.findings hr
  · obtain ⟨q', hsame, -⟩ := h.takes.stops { watch := w } _ _ rfl ht
    rw [hrun] at hsame
    cases hsame

/-- The workers of an extraction that ends well raise the deadline if it passes on one of their
readings, and extract all units if it does not. -/
theorem workers_settle {registry : Registry} {limits : Extract.Limits}
    {content : SourceUnit → String} {units : List SourceUnit}
    (hx : Extract.extract registry limits content units = .ok x) (w : Watch) :
    Settles (Crew.Works Extract.stage (Extract.outcomeOf registry content)) Crew.Finished
      (fun crew => crew.results.map fun os => (Extract.gather os).extraction limits.most.toNat)
      (Crew.idle w (Extract.sortUnits units))
      (match w.check? units.length with
        | none => .error Extract.stage
        | some _ => .ok x) := by
  obtain ⟨os, ho, rfl⟩ := Extract.extract_eq_ok hx
  obtain ⟨hunits, hall⟩ := Extract.outcomes_units ho
  obtain ⟨value, hable, hos⟩ := exists_values .unsupported hall
  rw [hunits] at hable hos
  have hlength : (Extract.sortUnits units).length = units.length :=
    (Order.sort_perm _ units).length_eq
  have hsettles := (Crew.settles Extract.stage hable w).map fun r =>
    r.map fun os => (Extract.gather os).extraction limits.most.toNat
  rw [hos, hlength] at hsettles
  cases hc : w.check? units.length with
  | none =>
    rw [hc] at hsettles
    exact hsettles
  | some later =>
    rw [hc] at hsettles
    exact hsettles

theorem legsOf_stages_nodup (n : Nat) (s : Scan.Snapshot) (x : Extract.Extraction) (r : Result) :
    ((legsOf n s x r).map (·.stage)).Nodup := by
  simp only [legsOf, List.map_cons, List.map_nil]
  decide

/-- The legs before a leg have no finding of the deadline, and no adapter's error if the units are
extracted in this leg. -/
theorem Course.findings_before (h : Course d clock setup request rules s x r) {n : Nat}
    {before after : List Leg} {leg : Leg} (split : legsOf n s x r = before ++ leg :: after) :
    ∀ f ∈ before.flatMap (·.findings), f.kind ≠ .deadlineExceeded ∧
      (leg.stage = Extract.stage → f.kind ≠ .adapterError) := by
  intro f hf
  obtain ⟨b, hb, hf⟩ := List.mem_flatMap.mp hf
  have hisOf := h.legs_allOf n b (split ▸ List.mem_append_left _ hb) f hf
  refine ⟨hisOf.not_expired, fun hstage hkind => ?_⟩
  have hown := hisOf.2
  rw [hkind, Finding.Kind.stage?, Option.some.injEq] at hown
  have hnodup := legsOf_stages_nodup n s x r
  rw [split, List.map_append, List.map_cons] at hnodup
  exact (List.nodup_append.mp hnodup).2.2 _ (List.mem_map_of_mem hb) _ List.mem_cons_self
    (hown.symm.trans hstage.symm)

/-- Stages that have a course come to its result under any watch, or stop where it expires. -/
theorem Course.ends {w : Watch} (h : Course d w.clock setup request rules s x r)
    (found : r.findings = (legsOf (Scan.readingsOf d rules (d.resolve request.path)) s x r).flatMap
      (·.findings)) :
    Ends w (legsOf (Scan.readingsOf d rules (d.resolve request.path)) s x r) r
      (conclude ((stages d setup request).run.run { watch := w })).result := by
  generalize hn : Scan.readingsOf d rules (d.resolve request.path) = n at found ⊢
  have htakes := hn ▸ h.takes
  rcases travel_cases (legsOf n s x r) w [] with
    ⟨hrunning, later, ht⟩ | ⟨before, leg, after, hsplit, hrunning, hseen, ht⟩
  · obtain ⟨log, hrun⟩ := htakes.arrives { watch := w } later _ rfl ht
    rw [List.nil_append, ← found] at hrun
    rw [hrun]
    exact .finished hrunning
  · obtain ⟨q, hrun, hq⟩ := htakes.stops { watch := w } _ _ rfl ht
    rw [List.nil_append] at hq
    have hbefore := h.findings_before hsplit
    rw [hrun, conclude, hq]
    refine .expired hsplit hrunning hseen rfl ?_ rfl rfl rfl (fun f hf => (hbefore f hf).1)
      fun hstage f hf => (hbefore f hf).2 hstage
    rw [found, hsplit, List.flatMap_append]
    exact List.prefix_append _ _

/-- The time that a request allows has no part in the course of a run. -/
theorem Course.of_seconds {seconds : Option Float}
    (h : Course d clock setup { request with seconds := seconds } rules s x r) :
    Course d clock setup request rules s x r :=
  { h with }

theorem Course.of_alike {free : Clock} (h : Course d free setup request rules s x r)
    (clock : Clock) (alike : Scan.Alike setup.scan.readTimeout free clock) :
    Course d clock setup request rules s x r :=
  { h with snapshot := Scan.load_congr d alike ▸ h.snapshot }

end

theorem scan_of_setup {c : Config} {request : Request} {setup : Setup}
    (h : Setup.of c request = .ok setup) : setup.scan = c.scan := by
  obtain ⟨_, -, h⟩ := bind_ok.mp h
  obtain ⟨_, -, h⟩ := bind_ok.mp h
  obtain ⟨_, -, h⟩ := bind_ok.mp h
  cases h
  rfl

/-- The deadline has no part in the settings of a run. -/
theorem setup_of_unlimited (c : Config) (request : Request) :
    Setup.of { c with deadline := none } { request with seconds := none } = Setup.of c request :=
  rfl

theorem run_of_conclude {ended : Except Halt Result × Progress} {r : Result}
    (h : (conclude ended).result = .ok r) : ∃ q, ended = (.ok r, q) := by
  obtain ⟨(stage | e) | result, q⟩ := ended
  · cases h
  · cases h
  · cases h
    exact ⟨q, rfl⟩

/-- A run that has a result has settings that could be read, and stages that end well. -/
theorem stages_of_runWith {d : Disk} {clock : Clock} {c : Config} {request : Request}
    {r : Result} (h : (runWith d clock c request).result = .ok r) :
    ∃ setup, Setup.of c request = .ok setup ∧ ∃ q, (stages d setup request).run.run
      { watch := .start (request.seconds.or c.deadline) clock } = (.ok r, q) := by
  rw [runWith] at h
  cases hsetup : Setup.of c request with
  | error fault =>
    rw [hsetup] at h
    cases h
  | ok setup =>
    rw [hsetup] at h
    exact ⟨setup, rfl, run_of_conclude h⟩

/-- A run that has a result without a deadline has the same result under any deadline, by any clock
that shows the same files to be slow (the clock of the first run does), unless a reading of it comes
after the deadline. Then the run stops in the stage of this reading, with the findings of the stages
before it and one that tells of the deadline. The workers of the extraction agree, in whatever order
they take up the units: they raise the deadline, or all units are extracted. -/
theorem run_under_deadline {d : Disk} {free : Clock} {c : Config} {request : Request} {r : Result}
    (host : Host) (alike : Scan.Alike c.scan.readTimeout free host.clock)
    (unlimited : (runWith d free { c with deadline := none }
      { request with seconds := none }).result = .ok r) :
    ∃ setup rules s x legs, Setup.of c request = .ok setup ∧
      Course d host.clock setup request rules s x r ∧
      legs = legsOf (Scan.readingsOf d rules (d.resolve request.path)) s x r ∧
      r.findings = s.findings ++ x.findings ++ r.graph.findings ++ r.review.findings ∧
      Ends (Watch.start (request.seconds.or c.deadline) host.clock) legs r
        (runWith d host.clock c request).result ∧
      (configOf d host.room request.path = .ok c →
        Ends (Watch.start (request.seconds.or c.deadline) host.clock) legs r
          (run d host request).result) ∧
      ∀ w : Watch, Settles
        (Crew.Works Extract.stage (Extract.outcomeOf setup.registry (contentOf d s.root)))
        Crew.Finished
        (fun crew => crew.results.map fun os =>
          (Extract.gather os).extraction setup.limits.most.toNat)
        (Crew.idle w (Extract.sortUnits s.units))
        (match w.check? s.units.length with
          | none => .error Extract.stage
          | some _ => .ok x) := by
  obtain ⟨setup, hsetup, q, hrun⟩ := stages_of_runWith unlimited
  rw [setup_of_unlimited] at hsetup
  obtain ⟨rules, s, x, hcourse⟩ := course_of_stages hrun
  have hfound := hcourse.findings_eq hrun
  have hsame : Course d host.clock setup request rules s x r :=
    hcourse.of_seconds.of_alike host.clock (scan_of_setup hsetup ▸ alike)
  have hends : Ends (Watch.start (request.seconds.or c.deadline) host.clock)
      (legsOf (Scan.readingsOf d rules (d.resolve request.path)) s x r) r
      (runWith d host.clock c request).result := by
    rw [runWith, hsetup]
    exact Course.ends (w := .start (request.seconds.or c.deadline) host.clock) hsame hfound
  refine ⟨setup, rules, s, x, _, hsetup, hsame, rfl, ?_, hends, ?_,
    workers_settle hcourse.extraction⟩
  · rw [hfound]
    simp [legsOf]
  · intro hconfig
    rw [run, hconfig]
    exact hends

/-! ### A run that is stopped -/

section

variable {d : Disk} {clock : Clock} {setup : Setup} {request : Request} {rules : Scan.RuleSet}
  {s : Scan.Snapshot}

/-- A scan that is ready leads to a result, if adapters do not see the deadline pass. -/
theorem exists_course (ready : Scan.Ready d setup.scan request.path request.rules rules)
    (hs : s = Scan.snapshotOf (Scan.load d setup.scan clock) (d.resolve request.path)
      (Scan.harvestsOf d rules (d.resolve request.path))) (most : 1 ≤ setup.limits.most)
    (workers : ∀ n, setup.limits.workers = some n → 1 ≤ n)
    (patient : Extract.Patient setup.registry (contentOf d s.root) s.units) :
    ∃ x r, Course d clock setup request rules s x r := by
  obtain ⟨os, hx⟩ := Extract.extract_ok most workers patient
  obtain ⟨g, hg, hwithin⟩ :=
    Graph.exists_build ((Extract.gather os).extraction setup.limits.most.toNat).mentions
      (Extract.extraction_nodup setup.limits.most.toNat os)
  have hsound := Document.render_sound g.views (Tutorial.ofGraph g)
    (some (nameOf [request.projectName, setup.projectName] s.root)) hwithin
  exact ⟨_, ⟨s.root, _, g.views, g, Tutorial.ofGraph g, _, [], _, _⟩, ready, hs, hx, hg, rfl, rfl,
    Review.review_sound setup.policy Review.likeness hsound, rfl, rfl, rfl⟩

/-- Without a deadline a run comes to the result of its course. -/
theorem Course.run_unlimited {c : Config} {x : Extract.Extraction} {r : Result}
    (h : Course d clock setup request rules s x r) (hsetup : Setup.of c request = .ok setup) :
    ∃ found, (runWith d clock { c with deadline := none }
      { request with seconds := none }).result = .ok { r with findings := found } := by
  have hfree : Course d clock setup { request with seconds := none } rules s x r := { h with }
  rw [runWith, setup_of_unlimited, hsetup]
  rcases travel_cases (legsOf (Scan.readingsOf d rules (d.resolve request.path)) s x r)
    (.start none clock) [] with ⟨-, later, ht⟩ | ⟨before, leg, after, -, -, ⟨k, -, he⟩, -⟩
  · obtain ⟨log, hrun⟩ := hfree.takes.arrives { watch := .start none clock } later _ rfl ht
    exact ⟨_, congrArg (fun ended => (conclude ended).result) hrun⟩
  · cases he

end

/-- A repository with a source that is read in time, and one that is not. -/
def slowDisk : Disk :=
  ⟨[("repo", .directory [("app.py", .file "class App: pass".toUTF8),
    ("slow.py", .file "class Slow: pass".toUTF8)])]⟩

def slowConfig : Config := { root := ["repo"] }

/-- Five seconds are allowed for the run, and sources are included. -/
def slowRequest : Request where
  path := "/repo"
  shown := "repo"
  rules := [⟨"*.py", .include⟩]
  seconds := some 5

/-- A clock that has passed five seconds at its seventh reading, by which one file takes six. -/
def lateClock : Clock where
  check n := if n < 6 then 0 else 10
  file place k := if place = ["repo", "slow.py"] ∧ 0 < k then 6 else 0

theorem adapter_patient {a : Adapter} (h : a ∈ builtinAdapters) (u : SourceUnit)
    (content stage : String) : a.extract u content ≠ .error (.expired stage) := by
  have hcases : a = .python ∨ a = .javascript := by simpa [builtinAdapters] using h
  rcases hcases with rfl | rfl
  · change Indented.extract u content ≠ _
    unfold Indented.extract
    split
    · nofun
    · split <;> nofun
  · change Braced.extract u content ≠ _
    unfold Braced.extract
    split
    · nofun
    · dsimp only
      split <;> nofun

/-- The built-in adapters do not read the clock. -/
theorem builtin_patient (content : SourceUnit → String) (units : List SourceUnit) :
    Extract.Patient ⟨builtinAdapters⟩ content units := by
  intro u _ a ha
  obtain ⟨_, -, hlookup⟩ := Option.bind_eq_some_iff.mp ha
  exact adapter_patient (List.mem_of_find?_eq_some hlookup) u (content u)

theorem slow_setup : ∃ policy,
    Setup.of slowConfig slowRequest = .ok ⟨{}, ⟨builtinAdapters⟩, {}, policy, none⟩ := by
  obtain ⟨policy, hpolicy⟩ : ∃ policy, policyOf slowConfig slowRequest.repair = .ok policy :=
    exists_ok_of_isOk (by decide +kernel)
  refine ⟨policy, ?_⟩
  rw [Setup.of, hpolicy]
  rfl

/-- The rule that includes sources. -/
def sourceRule : Scan.CompiledRule where
  pattern := "*.py".toList
  effect := .include
  directoryOnly := false
  anchored := false
  items := [.many (.set true [('/', '/')]), .one (.only '.'), .one (.only 'p'), .one (.only 'y')]
  literal := []

theorem compile_sourceRule : (⟨"*.py", .include⟩ : Scan.Rule).compile = .ok sourceRule := by
  rfl

theorem sources_included (rules : Scan.RuleSet) :
    (rules ++ [sourceRule]).excludes "app.py" false = false ∧
      (rules ++ [sourceRule]).excludes "slow.py" false = false := by
  obtain ⟨happ, hslow⟩ : sourceRule.isMatch "app.py" false = true ∧
      sourceRule.isMatch "slow.py" false = true := by
    simp [sourceRule, Scan.CompiledRule.isMatch, Scan.CompiledRule.acceptsAny,
      Scan.CompiledRule.candidates, Scan.CompiledRule.accepts, Text.splitAt, Text.splitWhere,
      Glob.accepts, Glob.Class.has]
  rw [Scan.RuleSet.excludes_concat, Scan.RuleSet.excludes_concat, if_pos happ, if_pos hslow]
  exact ⟨rfl, rfl⟩

def slowHarvest : Scan.Harvest where
  candidates := [⟨"app.py", ["repo", "app.py"], false⟩, ⟨"slow.py", ["repo", "slow.py"], false⟩]
  looked := 2

theorem slow_harvests (rules : Scan.RuleSet) :
    Scan.harvestsOf slowDisk (rules ++ [sourceRule]) ["repo"] = [slowHarvest] := by
  obtain ⟨happ, hslow⟩ := sources_included rules
  have hentries : Scan.entriesOf slowDisk ["repo"] =
      [⟨"app.py", false, 0, .file ["repo", "app.py"]⟩,
        ⟨"slow.py", false, 0, .file ["repo", "slow.py"]⟩] := by
    have happ : Scan.entryOf slowDisk ["repo"] "app.py" (.file "class App: pass".toUTF8) =
        ⟨"app.py", false, 0, .file ["repo", "app.py"]⟩ := by
      decide +kernel
    have hslow : Scan.entryOf slowDisk ["repo"] "slow.py" (.file "class Slow: pass".toUTF8) =
        ⟨"slow.py", false, 0, .file ["repo", "slow.py"]⟩ := by
      decide +kernel
    change Order.sort _ [Scan.entryOf slowDisk ["repo"] "app.py" _,
      Scan.entryOf slowDisk ["repo"] "slow.py" _] = _
    rw [happ, hslow]
    exact Order.sort_of_sorted (by decide +kernel)
  have hsteps : Scan.steps slowDisk (rules ++ [sourceRule]) (Scan.rootVisit ["repo"]) =
      [.done { candidates := [⟨"app.py", ["repo", "app.py"], false⟩], looked := 1 },
        .done { candidates := [⟨"slow.py", ["repo", "slow.py"], false⟩], looked := 1 }] := by
    simp [Scan.steps, Scan.rootVisit, hentries, Scan.step, Scan.Visit.target, Scan.Visit.below,
      happ, hslow]
  rw [Scan.harvestsOf, hsteps]
  rfl

/-- What the scan of the repository comes to. -/
def slowSnapshot : Scan.Snapshot :=
  Scan.snapshotOf (Scan.load slowDisk {} lateClock) ["repo"] [slowHarvest]

theorem slow_chosen : Scan.deduplicate slowHarvest.candidates = slowHarvest.candidates := by
  have hsorted : Order.sort Scan.candidateOrder slowHarvest.candidates = slowHarvest.candidates :=
    Order.sort_of_sorted (by decide +kernel)
  have hfirst : Scan.firstOfEach [] slowHarvest.candidates = slowHarvest.candidates := rfl
  rw [Scan.deduplicate, hsorted, hfirst]
  exact Order.sort_of_sorted (by decide +kernel)

theorem slow_outcomes : slowSnapshot.units.length = 1 ∧
    slowSnapshot.findings.map (·.kind) = [.unitSkipped] := by
  have hall : Scan.Harvest.all [slowHarvest] = slowHarvest := rfl
  have hload : (Scan.omissionsOf (slowHarvest.candidates.map
      (Scan.load slowDisk {} lateClock))).map (·.path) = ["slow.py"] := by
    decide +kernel
  have hunits : (Scan.unitsOf (slowHarvest.candidates.map
      (Scan.load slowDisk {} lateClock))).length = 1 := by
    decide +kernel
  simp only [slowSnapshot, Scan.snapshotOf, hall, slow_chosen]
  refine ⟨hunits, ?_⟩
  obtain ⟨o, ho, -⟩ := List.map_eq_singleton_iff.mp hload
  rw [ho]
  simp [slowHarvest, Order.sort, Scan.Omission.finding]

theorem slow_rules : ∃ rules, Scan.RuleSet.ofRules (Scan.orderedRules slowDisk ["repo"] {}
    slowRequest.rules) = .ok (rules ++ [sourceRule]) := by
  obtain ⟨rules, hrules⟩ := exists_ok_of_isOk
    (r := Scan.RuleSet.ofRules (Scan.orderedRules slowDisk ["repo"] {} [])) (by decide +kernel)
  refine ⟨rules, ?_⟩
  have hcalled : Scan.orderedRules slowDisk ["repo"] {} slowRequest.rules =
      Scan.orderedRules slowDisk ["repo"] {} [] ++ [⟨"*.py", .include⟩] := by
    simp [Scan.orderedRules, slowRequest]
  have hnotBlank : [(⟨"*.py", .include⟩ : Scan.Rule)].filter
      (fun r => !(Text.trim r.pattern.toList).isEmpty) = [⟨"*.py", .include⟩] := by
    decide +kernel
  rw [Scan.RuleSet.ofRules, hcalled, List.filter_append, hnotBlank]
  exact mapM_concat_ok.mpr ⟨rules, sourceRule, hrules, compile_sourceRule, rfl⟩

/-- The clock is read for both entries and for both files, one of which is left out. -/
theorem slow_scan : ∃ rules, Scan.Ready slowDisk {} "/repo" slowRequest.rules rules ∧
    Scan.readingsOf slowDisk rules ["repo"] = 4 ∧
    Scan.harvestsOf slowDisk rules ["repo"] = [slowHarvest] := by
  obtain ⟨rules, hrules⟩ := slow_rules
  have hharvests := slow_harvests rules
  refine ⟨_, ⟨by decide +kernel, by decide +kernel, hrules, rfl⟩, ?_, hharvests⟩
  rw [Scan.readingsOf, hharvests, show Scan.Harvest.all [slowHarvest] = slowHarvest from rfl,
    slow_chosen]
  rfl

theorem slow_course (clock : Clock) (same : clock.file = lateClock.file) : ∃ setup rules x r,
    Setup.of slowConfig slowRequest = .ok setup ∧
    Course slowDisk clock setup slowRequest rules slowSnapshot x r ∧
    Scan.readingsOf slowDisk rules ["repo"] = 4 := by
  obtain ⟨policy, hsetup⟩ := slow_setup
  obtain ⟨rules, ready, hreadings, hharvests⟩ := slow_scan
  have hsnapshot : slowSnapshot = Scan.snapshotOf (Scan.load slowDisk {} clock)
      (slowDisk.resolve "/repo") (Scan.harvestsOf slowDisk rules (slowDisk.resolve "/repo")) := by
    rw [Scan.load_congr slowDisk (b := lateClock) fun place parts => by rw [same]]
    rw [show slowDisk.resolve "/repo" = ["repo"] from rfl, hharvests]
    rfl
  obtain ⟨x, r, hcourse⟩ : ∃ x r, Course slowDisk clock ⟨{}, ⟨builtinAdapters⟩, {}, policy, none⟩
      slowRequest rules slowSnapshot x r :=
    exists_course ready hsnapshot (show (1 : Int) ≤ 15 by decide) (fun n hn => by cases hn)
      (builtin_patient _ _)
  exact ⟨_, rules, x, r, hsetup, hcourse, hreadings⟩

/-- A run whose deadline passes on its second leg keeps what it has found on the first. -/
theorem Ends.second {w : Watch} {first second : Leg} {rest : List Leg} {r : Result}
    {result : Except Error Result} (h : Ends w (first :: second :: rest) r result) {n : Nat}
    (running : ∀ k < n, w.expiredAfter k = false) (late : w.expiredAfter n = true)
    (low : first.readings ≤ n) (high : n < first.readings + second.readings) :
    ∃ last, result = .error (.expired second.stage (first.findings ++ [last])) ∧
      first.findings <+: r.findings ∧ last.kind = .deadlineExceeded ∧
      last.stage = second.stage ∧ last.subject = second.stage := by
  have hsoon : ∀ m, (∀ k < m, w.expiredAfter k = false) → m ≤ n := by
    intro m hm
    by_contra hlong
    rw [hm n (by omega)] at late
    cases late
  cases h with
  | finished hall =>
    have hbound := hsoon _ hall
    simp only [List.map_cons, List.sum_cons] at hbound
    omega
  | @expired before after leg kept last split hbefore seen hkept cut kind stage subject =>
    have hbound := hsoon _ hbefore
    obtain ⟨k, hk, hseen⟩ := seen
    match before, split with
    | [], split =>
      cases split
      rw [List.map_nil, List.sum_nil, Nat.zero_add, running k (by omega)] at hseen
      cases hseen
    | [_], split =>
      cases split
      simp only [List.flatMap_cons, List.flatMap_nil, List.append_nil] at hkept
      exact ⟨last, by rw [hkept], hkept ▸ cut, kind, stage, subject⟩
    | _ :: _ :: _, split =>
      cases split
      simp only [List.map_cons, List.sum_cons] at hbound
      omega

theorem late_expired : (Watch.start (some 5) lateClock).expiredAfter 5 = true := rfl

theorem late_running : ∀ k < 5, (Watch.start (some 5) lateClock).expiredAfter k = false := by
  decide +kernel

/-- Before the deadline passes in the extraction, a file has been left out. -/
theorem run_under_deadline_late : ∃ r kept last,
    Scan.Alike slowConfig.scan.readTimeout { lateClock with check := fun _ => 0 } lateClock ∧
    (runWith slowDisk { lateClock with check := fun _ => 0 } { slowConfig with deadline := none }
      { slowRequest with seconds := none }).result = .ok r ∧
    (run slowDisk ⟨lateClock, 1000⟩ slowRequest).result =
      .error (.expired Extract.stage (kept ++ [last])) ∧
    kept.map (·.kind) = [.unitSkipped] ∧ kept <+: r.findings ∧
    last.kind = .deadlineExceeded ∧ last.stage = Extract.stage ∧ last.subject = Extract.stage := by
  have alike : Scan.Alike slowConfig.scan.readTimeout { lateClock with check := fun _ => 0 }
      lateClock := fun _ _ => rfl
  obtain ⟨setup, rules, x, r, hsetup, hcourse, hreadings⟩ :=
    slow_course { lateClock with check := fun _ => 0 } rfl
  obtain ⟨found, unlimited⟩ := hcourse.run_unlimited hsetup
  obtain ⟨setup', rules', s, x', legs, hsetup', hcourse', hlegs, -, -, hends, -⟩ :=
    run_under_deadline ⟨lateClock, 1000⟩ alike unlimited
  cases hsetup.symm.trans hsetup'
  cases hcourse.ready.rules.symm.trans hcourse'.ready.rules
  have hs : s = slowSnapshot :=
    hcourse'.snapshot.trans (hcourse.of_alike lateClock fun _ _ => rfl).snapshot.symm
  have hconfig : configOf slowDisk 1000 slowRequest.path = .ok slowConfig := rfl
  obtain ⟨hunits, hkinds⟩ := slow_outcomes
  rw [show slowDisk.resolve slowRequest.path = ["repo"] from rfl, hreadings, hs, legsOf,
    hunits] at hlegs
  obtain ⟨last, hresult, hcut, hlast⟩ :=
    (hlegs ▸ hends hconfig).second late_running late_expired (by decide)
      (show 5 < 4 + (1 + 1) by decide)
  exact ⟨_, _, last, alike, unlimited, hresult, hkinds, hcut, hlast⟩

end DocAtlas.Run
