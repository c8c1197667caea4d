import DocAtlas.Proofs.Mapping
import DocAtlas.Proofs.Readings
import DocAtlas.Proofs.Scanning
import DocAtlas.Run.Pipeline

/-!
The stages of a run as legs of a journey: how often each reads the clock, and what it finds. A stage
that comes to a result under one watch comes to the same under any other with its clock that does not
expire on its legs.
-/
namespace DocAtlas.Run

/-! ### Legs -/

/-- A stretch of a run: the stage that it belongs to, how often the clock is read, and what is found
by its end. -/
structure Leg where
  stage : String
  readings : Nat
  findings : List Finding

/-- What becomes of the watch and of the findings on the way; or else the stage in which the
deadline passes, with the findings until then. -/
def travel : List Leg → Watch → List Finding → Except (String × List Finding) (Watch × List Finding)
  | [], w, findings => .ok (w, findings)
  | leg :: rest, w, findings =>
    match w.check? leg.readings with
    | none => .error (leg.stage, findings)
    | some w => travel rest w (findings ++ leg.findings)

theorem travel_append (legs others : List Leg) (w : Watch) (findings : List Finding) :
    travel (legs ++ others) w findings =
      (travel legs w findings) >>= fun s => travel others s.1 s.2 := by
  induction legs generalizing w findings with
  | nil => rfl
  | cons leg rest ih =>
    rw [List.cons_append, travel, travel]
    cases w.check? leg.readings with
    | none => rfl
    | some w => exact ih w _

/-- A stretch without findings makes one leg with the next of its stage. -/
theorem travel_merge (stage : String) (m n : Nat) (found : List Finding) (rest : List Leg)
    (w : Watch) (findings : List Finding) :
    travel (⟨stage, m, []⟩ :: ⟨stage, n, found⟩ :: rest) w findings =
      travel (⟨stage, m + n, found⟩ :: rest) w findings := by
  simp only [travel, Watch.check?_add]
  cases w.check? m with
  | none => rfl
  | some w => simp only [Option.bind_some, List.append_nil]

/-- The clock stays the same on the way. -/
theorem travel_clock {legs : List Leg} {w later : Watch} {findings found : List Finding}
    (h : travel legs w findings = .ok (later, found)) : later.clock = w.clock := by
  induction legs generalizing w findings with
  | nil =>
    cases h
    rfl
  | cons leg rest ih =>
    rw [travel] at h
    cases hc : w.check? leg.readings with
    | none =>
      rw [hc] at h
      cases h
    | some next =>
      rw [hc] at h
      obtain ⟨-, rfl⟩ := Watch.check?_eq_some_iff.mp hc
      have hrest := ih h
      exact hrest

/-- A journey over legs ends at the end of the last, or in the one in which the deadline passes. -/
theorem travel_cases (legs : List Leg) (w : Watch) (findings : List Finding) :
    ((∀ k < (legs.map (·.readings)).sum, w.expiredAfter k = false) ∧
      ∃ later, travel legs w findings = .ok (later, findings ++ legs.flatMap (·.findings))) ∨
    ∃ before leg after, legs = before ++ leg :: after ∧
      (∀ k < (before.map (·.readings)).sum, w.expiredAfter k = false) ∧
      (∃ k < leg.readings, w.expiredAfter ((before.map (·.readings)).sum + k) = true) ∧
      travel legs w findings = .error (leg.stage, findings ++ before.flatMap (·.findings)) := by
  induction legs generalizing w findings with
  | nil =>
    refine .inl ⟨fun k hk => absurd hk (Nat.not_lt_zero k), w, ?_⟩
    rw [travel, List.flatMap_nil, List.append_nil]
  | cons leg rest ih =>
    rw [travel]
    cases hc : w.check? leg.readings with
    | none =>
      refine .inr ⟨[], leg, rest, rfl, fun k hk => absurd hk (Nat.not_lt_zero k), ?_, ?_⟩
      · simpa using Watch.check?_eq_none_iff.mp hc
      · rw [List.flatMap_nil, List.append_nil]
    | some next =>
      obtain ⟨hclear, rfl⟩ := Watch.check?_eq_some_iff.mp hc
      rcases ih _ (findings ++ leg.findings) with
        ⟨hrest, later, ht⟩ | ⟨before, stop, after, rfl, hbefore, ⟨k, hk, he⟩, ht⟩
      · refine .inl ⟨?_, later, ?_⟩
        · rw [List.map_cons, List.sum_cons]
          exact Watch.running_add_iff.mpr ⟨hclear, hrest⟩
        · rw [List.flatMap_cons, ← List.append_assoc]
          exact ht
      · refine .inr ⟨leg :: before, stop, after, rfl, ?_, ⟨k, hk, ?_⟩, ?_⟩
        · rw [List.map_cons, List.sum_cons]
          exact Watch.running_add_iff.mpr ⟨hclear, hbefore⟩
        · rw [Watch.expiredAfter_advanced] at he
          rwa [List.map_cons, List.sum_cons, Nat.add_assoc]
        · rw [List.flatMap_cons, ← List.append_assoc]
          exact ht

/-! ### Stages that take legs -/

namespace Stage

variable {α β : Type}

theorem run_bind (m : Stage α) (f : α → Stage β) (p : Progress) :
    (m >>= f).run.run p =
      match m.run.run p with
      | (.ok a, q) => (f a).run.run q
      | (.error h, q) => (.error h, q) := by
  rw [ExceptT.run_bind, StateT.run_bind]
  rcases m.run.run p with ⟨_ | _, _⟩ <;> rfl

theorem run_bind_ok {m : Stage α} {f : α → Stage β} {p q : Progress} {b : β}
    (h : (m >>= f).run.run p = (.ok b, q)) :
    ∃ a middle, m.run.run p = (.ok a, middle) ∧ (f a).run.run middle = (.ok b, q) := by
  rw [run_bind] at h
  rcases hm : m.run.run p with ⟨a | a, middle⟩
  · rw [hm] at h
    cases h
  · rw [hm] at h
    exact ⟨a, middle, rfl, h⟩

theorem run_get (p : Progress) : (get : Stage Progress).run.run p = (.ok p, p) := rfl

theorem run_modify (f : Progress → Progress) (p : Progress) :
    (modify f : Stage Unit).run.run p = (.ok (), f p) := rfl

theorem run_pure (a : α) (p : Progress) : (pure a : Stage α).run.run p = (.ok a, p) := rfl

theorem run_halt (h : Halt) (p : Progress) : (halt h : Stage α).run.run p = (.error h, p) := rfl

theorem run_note (records : List Log.Record) (p : Progress) :
    (note records).run.run p = (.ok (), { p with log := p.log ++ records }) := rfl

theorem run_report (findings : List Finding) (p : Progress) :
    (report findings).run.run p = (.ok (), { p with findings := p.findings ++ findings }) := rfl

theorem run_check (stage : String) (n : Nat) (p : Progress) :
    (Stage.check stage n).run.run p =
      match p.watch.check? n with
      | some w => (.ok (), { p with watch := w })
      | none => (.error (.expired stage), p) := by
  rw [Stage.check, run_bind, run_get]
  dsimp only
  cases p.watch.check? n with
  | none => rfl
  | some w => rfl

/-- By the clock the computation goes through the legs and comes to a value, which the findings
until then may show in; if the deadline passes on one of the legs it stops there. -/
structure Takes (clock : Clock) (m : Stage α) (legs : List Leg) (value : List Finding → α) :
    Prop where
  arrives : ∀ p w found, p.watch.clock = clock →
    travel legs p.watch p.findings = .ok (w, found) →
    ∃ log, m.run.run p = (.ok (value found), ⟨w, found, log⟩)
  stops : ∀ p stage found, p.watch.clock = clock →
    travel legs p.watch p.findings = .error (stage, found) →
    ∃ q, m.run.run p = (.error (.expired stage), q) ∧ q.findings = found

namespace Takes

variable {clock : Clock} {m : Stage α} {legs others : List Leg} {a : α}

theorem pure (a : α) : Takes clock (Pure.pure a) [] fun _ => a where
  arrives p w found hclock h := by
    cases h
    exact ⟨p.log, rfl⟩
  stops p stage found hclock h := by cases h

theorem bind {f : α → Stage β} {value : List Finding → β} (hm : Takes clock m legs fun _ => a)
    (hf : Takes clock (f a) others value) : Takes clock (m >>= f) (legs ++ others) value where
  arrives p w found hclock h := by
    rw [travel_append] at h
    obtain ⟨⟨w', found'⟩, hlegs, hothers⟩ := bind_ok.mp h
    obtain ⟨log, hrun⟩ := hm.arrives p w' found' hclock hlegs
    obtain ⟨log', hrun'⟩ := hf.arrives ⟨w', found', log⟩ w found
      ((travel_clock hlegs).trans hclock) hothers
    exact ⟨log', by rw [run_bind, hrun]; exact hrun'⟩
  stops p stage found hclock h := by
    rw [travel_append] at h
    cases hlegs : travel legs p.watch p.findings with
    | error e =>
      rw [hlegs] at h
      cases h
      obtain ⟨q, hrun, hq⟩ := hm.stops p stage found hclock hlegs
      exact ⟨q, by rw [run_bind, hrun], hq⟩
    | ok reached =>
      obtain ⟨w', found'⟩ := reached
      rw [hlegs] at h
      obtain ⟨log, hrun⟩ := hm.arrives p w' found' hclock hlegs
      obtain ⟨q, hrun', hq⟩ := hf.stops ⟨w', found', log⟩ stage found
        ((travel_clock hlegs).trans hclock) h
      exact ⟨q, by rw [run_bind, hrun]; exact hrun', hq⟩

theorem congr {value : List Finding → α} (hm : Takes clock m legs value)
    (h : ∀ w found, travel others w found = travel legs w found) : Takes clock m others value where
  arrives p w found hclock ht := hm.arrives p w found hclock (h _ _ ▸ ht)
  stops p stage found hclock ht := hm.stops p stage found hclock (h _ _ ▸ ht)

theorem note (records : List Log.Record) : Takes clock (Stage.note records) [] fun _ => () where
  arrives p w found hclock h := by
    cases h
    exact ⟨_, rfl⟩
  stops p stage found hclock h := by cases h

theorem report (stage : String) (findings : List Finding) :
    Takes clock (Stage.report findings) [⟨stage, 0, findings⟩] fun _ => () where
  arrives p w found hclock h := by
    rw [travel, Watch.check?_zero] at h
    cases h
    exact ⟨p.log, rfl⟩
  stops p stage found hclock h := by
    rw [travel, Watch.check?_zero] at h
    cases h

theorem check (stage : String) (n : Nat) :
    Takes clock (Stage.check stage n) [⟨stage, n, []⟩] fun _ => () where
  arrives p w found hclock h := by
    rw [travel] at h
    cases hc : p.watch.check? n with
    | none =>
      rw [hc] at h
      cases h
    | some later =>
      rw [hc] at h
      cases h
      exact ⟨p.log, by rw [run_check, hc, List.append_nil]⟩
  stops p stage found hclock h := by
    rw [travel] at h
    cases hc : p.watch.check? n with
    | none =>
      rw [hc] at h
      cases h
      exact ⟨p, by rw [run_check, hc], rfl⟩
    | some later =>
      rw [hc] at h
      cases h

/-! The parts that stages are made of: readings, then what another part of the program answers,
then records and findings. -/

section

variable {stage : String} {n : Nat} {found : List Finding} {value : List Finding → α}

theorem after_check (k : Nat) (hm : Takes clock m (⟨stage, n, found⟩ :: legs) value) :
    Takes clock (do Stage.check stage k; m) (⟨stage, k + n, found⟩ :: legs) value :=
  ((check stage k).bind hm).congr fun w findings =>
    (travel_merge stage k n found legs w findings).symm

theorem after_note (records : List Log.Record) (hm : Takes clock m legs value) :
    Takes clock (do Stage.note records; m) legs value :=
  (note records).bind hm

theorem after_settle {ε : Type} {fail : ε → Halt} {r : Except ε α} {f : α → Stage β}
    {value : List Finding → β} (hr : r = .ok a) (hf : Takes clock (f a) legs value) :
    Takes clock (Stage.settle fail r >>= f) legs value := by
  rw [hr]
  exact (pure a).bind hf

theorem finish (stage : String) (findings : List Finding) (a : α) :
    Takes clock (do Stage.report findings; Pure.pure a) [⟨stage, 0, findings⟩] fun _ => a :=
  (report stage findings).bind (pure a)

theorem findings (value : List Finding → α) :
    Takes clock (do return value (← get).findings) [] value where
  arrives p w found hclock h := by
    cases h
    exact ⟨p.log, rfl⟩
  stops p stage found hclock h := by cases h

theorem nothing (stage : String) (a : α) :
    Takes clock (Pure.pure a : Stage α) [⟨stage, 0, []⟩] fun _ => a :=
  (pure a).congr fun w findings => by
    simp only [travel, Watch.check?_zero, List.append_nil]

end

end Takes

theorem settle_ok {ε α : Type} {fail : ε → Halt} {r : Except ε α} {p q : Progress} {a : α}
    (h : (settle fail r).run.run p = (.ok a, q)) : r = .ok a := by
  cases r with
  | error e => cases h
  | ok b =>
    cases h
    rfl

/-- A stage that logs and reports what it has settled on gives just that. -/
theorem settled_ok {ε α : Type} {fail : ε → Halt} {r : Except ε α} {records : α → List Log.Record}
    {findings : α → List Finding} {p q : Progress} {a : α}
    (h : (do
      let b ← settle fail r
      note (records b)
      Stage.report (findings b)
      return b : Stage α).run.run p = (.ok a, q)) : r = .ok a := by
  obtain ⟨_, _, hsettle, h⟩ := run_bind_ok h
  obtain ⟨_, _, -, h⟩ := run_bind_ok h
  obtain ⟨_, _, -, h⟩ := run_bind_ok h
  cases h
  exact settle_ok hsettle

end Stage

/-! ### The stages of a run -/

theorem run_scanStage (d : Disk) (setup : Setup) (request : Request) (p : Progress) :
    (scanStage d setup request).run.run p =
      match Scan.scan d setup.scan request.path request.shown request.rules p.watch with
      | .ok (s, w) =>
        (.ok s, ⟨w, p.findings ++ s.findings, p.log ++ Records.ofSnapshot s⟩)
      | .error (.expired omitted) =>
        (.error (.expired Scan.stage), { p with log := p.log ++ omitted.map Records.ofOmission })
      | .error e => (.error (.failed (.scan e)), p) := by
  rw [scanStage, Stage.run_bind, Stage.run_get]
  dsimp only
  rcases Scan.scan d setup.scan request.path request.shown request.rules p.watch with e | ⟨s, w⟩
  · cases e <;> simp only [Stage.run_bind, Stage.run_note, Stage.run_halt]
  · simp only [Stage.run_bind, Stage.run_modify, Stage.run_note, Stage.run_report, Stage.run_pure]

theorem ready_of_scanStage {d : Disk} {setup : Setup} {request : Request} {p q : Progress}
    {s : Scan.Snapshot} (h : (scanStage d setup request).run.run p = (.ok s, q)) :
    ∃ rules, Scan.Ready d setup.scan request.path request.rules rules ∧
      s = Scan.snapshotOf (Scan.load d setup.scan p.watch.clock) (d.resolve request.path)
        (Scan.harvestsOf d rules (d.resolve request.path)) := by
  rw [run_scanStage] at h
  rcases hr : Scan.scan d setup.scan request.path request.shown request.rules p.watch with
    e | ⟨s', later⟩
  · rw [hr] at h
    cases e <;> cases h
  · rw [hr] at h
    cases h
    exact Scan.ready_of_scan hr

section

variable {clock : Clock}

theorem scanStage_takes {d : Disk} {setup : Setup} {request : Request} {rules : Scan.RuleSet}
    {s : Scan.Snapshot} (ready : Scan.Ready d setup.scan request.path request.rules rules)
    (hs : s = Scan.snapshotOf (Scan.load d setup.scan clock) (d.resolve request.path)
      (Scan.harvestsOf d rules (d.resolve request.path))) :
    Stage.Takes clock (scanStage d setup request)
      [⟨Scan.stage, Scan.readingsOf d rules (d.resolve request.path), s.findings⟩] fun _ => s where
  arrives p w found hclock ht := by
    obtain ⟨hok, -⟩ := ready.scan_eq request.shown p.watch
    rw [travel] at ht
    cases hc : p.watch.check? (Scan.readingsOf d rules (d.resolve request.path)) with
    | none =>
      rw [hc] at ht
      cases ht
    | some later =>
      rw [hc] at ht
      cases ht
      exact ⟨_, by rw [run_scanStage, hok w hc, hclock, ← hs]⟩
  stops p stage found hclock ht := by
    obtain ⟨-, hexpired⟩ := ready.scan_eq request.shown p.watch
    rw [travel] at ht
    cases hc : p.watch.check? (Scan.readingsOf d rules (d.resolve request.path)) with
    | none =>
      rw [hc] at ht
      cases ht
      obtain ⟨omitted, homitted⟩ := hexpired hc
      refine ⟨{ p with log := p.log ++ omitted.map Records.ofOmission }, ?_, rfl⟩
      rw [run_scanStage, homitted]
    | some later =>
      rw [hc] at ht
      cases ht

theorem eq_of_extractionStage {d : Disk} {setup : Setup} {s : Scan.Snapshot} {p q : Progress}
    {x : Extract.Extraction} (h : (extractionStage d setup s).run.run p = (.ok x, q)) :
    Extract.extract setup.registry setup.limits (contentOf d s.root) s.units = .ok x := by
  obtain ⟨_, _, -, h⟩ := Stage.run_bind_ok h
  obtain ⟨_, _, -, h⟩ := Stage.run_bind_ok h
  exact Stage.settled_ok h

theorem extractionStage_takes {d : Disk} {setup : Setup} {s : Scan.Snapshot}
    {x : Extract.Extraction}
    (hx : Extract.extract setup.registry setup.limits (contentOf d s.root) s.units = .ok x) :
    Stage.Takes clock (extractionStage d setup s)
      [⟨Extract.stage, 1 + s.units.length, x.findings⟩] fun _ => x := by
  refine .after_check 1 (.after_check (n := 0) s.units.length ?_)
  exact .after_settle hx (.after_note _ (.finish _ _ _))

theorem eq_of_graphStage {x : Extract.Extraction} {p q : Progress} {g : Graph}
    (h : (graphStage x).run.run p = (.ok g, q)) :
    Graph.build x.components x.mentions = .ok g := by
  obtain ⟨_, _, -, h⟩ := Stage.run_bind_ok h
  exact Stage.settled_ok h

theorem graphStage_takes {x : Extract.Extraction} {g : Graph}
    (hg : Graph.build x.components x.mentions = .ok g) :
    Stage.Takes clock (graphStage x) [⟨Graph.stage, 1, g.findings⟩] fun _ => g := by
  refine .after_check (n := 0) 1 ?_
  exact .after_settle hg (.after_note _ (.finish _ _ _))

theorem eq_of_viewStage {g : Graph} {views : List Diagram × Tutorial} {p q : Progress}
    (h : (viewStage g).run.run p = (.ok views, q)) : views = (g.views, Tutorial.ofGraph g) := by
  obtain ⟨_, _, -, h⟩ := Stage.run_bind_ok h
  obtain ⟨_, _, -, h⟩ := Stage.run_bind_ok h
  cases h
  rfl

theorem eq_of_treeStage {g : Graph} {diagrams : List Diagram} {plan : Tutorial} {name : String}
    {tree : Page} {p q : Progress}
    (h : (treeStage g diagrams plan name).run.run p = (.ok tree, q)) :
    tree = Document.render g diagrams plan (some name) := by
  obtain ⟨_, _, -, h⟩ := Stage.run_bind_ok h
  obtain ⟨_, _, -, h⟩ := Stage.run_bind_ok h
  cases h
  rfl

theorem viewStage_takes (g : Graph) :
    Stage.Takes clock (viewStage g) [⟨"diagrams", 1, []⟩] fun _ => (g.views, Tutorial.ofGraph g) :=
  .after_check 1 (.after_note _ (.nothing _ _))

theorem treeStage_takes (g : Graph) (diagrams : List Diagram) (plan : Tutorial) (name : String) :
    Stage.Takes clock (treeStage g diagrams plan name) [⟨"render", 1, []⟩]
      fun _ => Document.render g diagrams plan (some name) :=
  .after_check 1 (.after_note _ (.nothing _ _))

theorem eq_of_reviewStage {policy : Review.Policy} {tree after : Page} {report : Review.Report}
    {p q : Progress} (h : (reviewStage policy tree).run.run p = (.ok (after, report), q)) :
    Review.review policy Review.likeness tree = .ok (after, report) := by
  obtain ⟨_, _, -, h⟩ := Stage.run_bind_ok h
  exact Stage.settled_ok h

theorem reviewStage_takes {policy : Review.Policy} {tree after : Page} {report : Review.Report}
    (hr : Review.review policy Review.likeness tree = .ok (after, report)) :
    Stage.Takes clock (reviewStage policy tree) [⟨Review.stage, 1, report.findings⟩]
      fun _ => (after, report) := by
  refine .after_check (n := 0) 1 ?_
  exact .after_settle hr (.after_note _ (.finish _ _ _))

end

end DocAtlas.Run
