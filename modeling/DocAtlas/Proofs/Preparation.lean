import DocAtlas.Proofs.Ordering
import DocAtlas.Proofs.Stages

/-!
Settings that are read without a complaint are settings that a run can be prepared from: what the
reading checks is what the scan, the extraction and the review ask for.
-/
namespace DocAtlas

namespace Config
open Yaml (Value)

/-! ### What the reading has checked -/

/-- What the scan, the extraction and the review ask of the settings that they are made from. The
threshold is a number, and none beyond the bounds. -/
structure Usable (c : Config) : Prop where
  scanWorkers : ∀ n, c.scan.workers = some n → 1 ≤ n
  workers : ∀ n, c.limits.workers = some n → 1 ≤ n
  most : 1 ≤ c.limits.most
  fewest : 0 ≤ c.limits.fewest
  adapters : ∀ name ∈ c.adapters, lowerText name ∈ builtinAdapters.map (·.name)
  threshold : ∃ t, Decimal.toRat? c.threshold = some t ∧ 0 ≤ t ∧ t ≤ 1

theorem demand_eq_ok {b : Bool} {c : Complaint} {u : Unit} : demand b c = .ok u ↔ b = true := by
  cases b with
  | true => exact iff_of_true rfl rfl
  | false => exact iff_of_false nofun nofun

theorem checkWorkers_eq_ok {key : String} {workers : Option Int} {u : Unit} :
    checkWorkers key workers = .ok u ↔ ∀ n, workers = some n → 1 ≤ n := by
  rw [checkWorkers, demand_eq_ok]
  cases workers with
  | none => simp
  | some n => simp

/-- What a scan is set to, and that its workers have been checked. -/
theorem readScan_eq_ok {room : Nat} {v : Value} {s : Scan.Settings}
    (h : readScan room v = .ok s) :
    s.maxBytes = wholeOr ({} : Scan.Settings).maxBytes (v.entry "max_file_bytes") ∧
      realOr ({} : Scan.Settings).readTimeout.toFloat (v.entry "read_timeout") =
        .ok s.readTimeout.toFloat ∧
      s.workers = whole? (v.entry "workers") ∧ ∀ n, s.workers = some n → 1 ≤ n := by
  obtain ⟨rules, -, h⟩ := bind_ok.mp h
  obtain ⟨timeout, htimeout, h⟩ := bind_ok.mp h
  obtain ⟨_, hworkers, h⟩ := bind_ok.mp h
  cases h
  exact ⟨rfl, htimeout, rfl, checkWorkers_eq_ok.mp hworkers⟩

/-- Limits are accepted when they are within their bounds. -/
theorem readLimits_eq_ok_iff {v : Value} {l : Extract.Limits} :
    readLimits v = .ok l ↔
      l.most = wholeOr ({} : Extract.Limits).most (v.entry "max_abstractions") ∧
      l.fewest = (whole? (v.entry "min_abstractions")).getD ({} : Extract.Limits).fewest ∧
      l.workers = whole? (v.entry "workers") ∧
      1 ≤ l.most ∧ 0 ≤ l.fewest ∧ ∀ n, l.workers = some n → 1 ≤ n := by
  constructor
  · intro h
    obtain ⟨_, hmost, h⟩ := bind_ok.mp h
    obtain ⟨_, hfewest, h⟩ := bind_ok.mp h
    obtain ⟨_, hworkers, h⟩ := bind_ok.mp h
    cases h
    exact ⟨rfl, rfl, rfl, of_decide_eq_true (demand_eq_ok.mp hmost),
      of_decide_eq_true (demand_eq_ok.mp hfewest), checkWorkers_eq_ok.mp hworkers⟩
  · obtain ⟨most, fewest, workers⟩ := l
    rintro ⟨rfl, rfl, rfl, hmost, hfewest, hworkers⟩
    exact bind_ok.mpr ⟨(), demand_eq_ok.mpr (decide_eq_true hmost),
      bind_ok.mpr ⟨(), demand_eq_ok.mpr (decide_eq_true hfewest),
        bind_ok.mpr ⟨(), checkWorkers_eq_ok.mpr hworkers, rfl⟩⟩⟩

theorem mem_unknownNames {known names : List String} {s : String} :
    s ∈ unknownNames known names ↔ (∃ name ∈ names, lowerText name = s) ∧ s ∉ known := by
  rw [unknownNames, Order.sortTexts, Order.mem_sort, List.mem_eraseDups, List.mem_filter,
    List.mem_map]
  simp

theorem checkAdapters_eq_ok {known names : List String} {u : Unit} :
    checkAdapters known names = .ok u ↔ ∀ name ∈ names, lowerText name ∈ known := by
  rw [checkAdapters, demand_eq_ok, List.isEmpty_iff, List.eq_nil_iff_forall_not_mem]
  simp only [mem_unknownNames, not_and, not_not, forall_exists_index, and_imp]
  exact ⟨fun h name hname => h _ name hname rfl, fun h _ name hname hs => hs ▸ h name hname⟩

theorem policy_eq_some {repair : Bool} {threshold : Float} {policy : Review.Policy} :
    Review.Policy.of? repair threshold = some policy ↔
      policy.repair = repair ∧ Decimal.toRat? threshold = some policy.threshold ∧
        0 ≤ policy.threshold ∧ policy.threshold ≤ 1 := by
  obtain ⟨allowed, bound⟩ := policy
  unfold Review.Policy.of?
  cases Decimal.toRat? threshold with
  | none => simp
  | some t =>
    simp only [Option.ite_none_right_eq_some, Option.some.injEq, Review.Policy.mk.injEq]
    constructor
    · rintro ⟨hbounds, rfl, rfl⟩
      exact ⟨rfl, rfl, hbounds⟩
    · rintro ⟨rfl, rfl, hbounds⟩
      exact ⟨hbounds, rfl, rfl⟩

theorem readThreshold_eq_ok {v : Value} {x : Float} (h : readThreshold v = .ok x) :
    (∃ given, real? (v.entry "repair_threshold") = .ok given ∧
      x = given.getD Review.defaultThreshold) ∧
    ∃ t, Decimal.toRat? x = some t ∧ 0 ≤ t ∧ t ≤ 1 := by
  obtain ⟨given, hgiven, h⟩ := bind_ok.mp h
  obtain ⟨_, hpolicy, h⟩ := bind_ok.mp h
  cases h
  obtain ⟨policy, hpolicy⟩ := Option.isSome_iff_exists.mp (demand_eq_ok.mp hpolicy)
  exact ⟨⟨given, hgiven, rfl⟩, policy.threshold, (policy_eq_some.mp hpolicy).2⟩

/-- Each part of a configuration with the settings that it is read from. -/
structure IsReading (room : Nat) (place : Disk.Place) (v : Value) (c : Config) : Prop where
  mapping : isMapping v = true
  root : c.root = place
  scan : readScan room (v.entry "scan") = .ok c.scan
  adapters : texts ((v.entry "extract").entry "adapters") = .ok c.adapters
  limits : readLimits (v.entry "extract") = .ok c.limits
  known : checkAdapters (builtinAdapters.map (·.name)) c.adapters = .ok ()
  repair : c.repair = (truth? ((v.entry "validate").entry "auto_repair")).getD false
  threshold : readThreshold (v.entry "validate") = .ok c.threshold
  output : textOr ({ root := place : Config }).output ((v.entry "output").entry "directory") =
    .ok c.output
  projectName : text? ((v.entry "output").entry "project_name") = .ok c.projectName
  deadline : real? (v.entry "deadline") = .ok c.deadline

theorem ofValue_eq_ok_iff {room : Nat} {root : Disk.Place} {v : Value} {c : Config} :
    ofValue room root v = .ok c ↔ IsReading room root v c := by
  constructor
  · intro h
    obtain ⟨_, hmapping, h⟩ := bind_ok.mp h
    obtain ⟨scan, hscan, h⟩ := bind_ok.mp h
    obtain ⟨adapters, hadapters, h⟩ := bind_ok.mp h
    obtain ⟨limits, hlimits, h⟩ := bind_ok.mp h
    obtain ⟨_, hknown, h⟩ := bind_ok.mp h
    obtain ⟨threshold, hthreshold, h⟩ := bind_ok.mp h
    obtain ⟨output, houtput, h⟩ := bind_ok.mp h
    obtain ⟨projectName, hprojectName, h⟩ := bind_ok.mp h
    obtain ⟨deadline, hdeadline, h⟩ := bind_ok.mp h
    cases h
    exact ⟨demand_eq_ok.mp hmapping, rfl, hscan, hadapters, hlimits, hknown, rfl, hthreshold,
      houtput, hprojectName, hdeadline⟩
  · intro h
    cases c
    cases h.root
    cases h.repair
    exact bind_ok.mpr ⟨(), demand_eq_ok.mpr h.mapping, bind_ok.mpr ⟨_, h.scan,
      bind_ok.mpr ⟨_, h.adapters, bind_ok.mpr ⟨_, h.limits, bind_ok.mpr ⟨(), h.known,
        bind_ok.mpr ⟨_, h.threshold, bind_ok.mpr ⟨_, h.output, bind_ok.mpr ⟨_, h.projectName,
          bind_ok.mpr ⟨_, h.deadline, rfl⟩⟩⟩⟩⟩⟩⟩⟩⟩

theorem usable_of_value {room : Nat} {root : Disk.Place} {v : Value} {c : Config}
    (h : ofValue room root v = .ok c) : c.Usable := by
  have hreading := ofValue_eq_ok_iff.mp h
  obtain ⟨-, -, -, hscanWorkers⟩ := readScan_eq_ok hreading.scan
  obtain ⟨-, -, -, hmost, hfewest, hworkers⟩ := readLimits_eq_ok_iff.mp hreading.limits
  exact {
    scanWorkers := hscanWorkers
    workers := hworkers
    most := hmost
    fewest := hfewest
    adapters := checkAdapters_eq_ok.mp hreading.known
    threshold := (readThreshold_eq_ok hreading.threshold).2 }

end Config

/-! ### Registries -/

/-- The adapters that are asked for are found, of all names if none is asked for. -/
theorem Registry.select_eq_ok {available : List Adapter} {lower : String → String}
    {names : List String} (known : ∀ name ∈ names, lower name ∈ available.map (·.name)) :
    Registry.select available lower names =
      .ok ⟨available.filter fun a => names.isEmpty || (names.map lower).contains a.name⟩ := by
  unfold Registry.select
  cases hnames : names.isEmpty with
  | true => simp
  | false =>
    have hmissing : (names.map lower).filter
        (fun n => !(available.map (·.name)).contains n) = [] := by
      rw [List.filter_eq_nil_iff]
      intro n hn
      obtain ⟨name, hname, rfl⟩ := List.mem_map.mp hn
      simpa using known name hname
    simp only [Bool.false_eq_true, if_false, hmissing, List.eraseDups_nil, List.isEmpty_nil,
      if_true, Bool.false_or]

namespace Run

/-! ### Prepared runs -/

/-- What a run is prepared with that changes nothing in its configuration. -/
structure Setup.IsFor (c : Config) (setup : Setup) : Prop where
  scan : setup.scan = c.scan
  adapters : setup.registry.adapters =
    builtinAdapters.filter fun a => c.adapters.isEmpty || (c.adapters.map lowerText).contains a.name
  limits : setup.limits = c.limits
  repair : setup.policy.repair = c.repair
  threshold : Decimal.toRat? c.threshold = some setup.policy.threshold
  projectName : setup.projectName = c.projectName

/-- A run is prepared from settings that have what it asks for, if its bound is one. -/
theorem setup_eq {c : Config} (h : c.Usable) {request : Request}
    (most : 1 ≤ request.most.getD c.limits.most) :
    ∃ t, Decimal.toRat? c.threshold = some t ∧ Setup.of c request = .ok ⟨c.scan,
      ⟨builtinAdapters.filter fun a =>
        c.adapters.isEmpty || (c.adapters.map lowerText).contains a.name⟩,
      { c.limits with most := request.most.getD c.limits.most },
      ⟨request.repair.getD c.repair, t⟩, c.projectName⟩ := by
  obtain ⟨t, hvalue, hlow, hhigh⟩ := h.threshold
  have hregistry := Registry.select_eq_ok h.adapters
  have hlimits : Extract.Limits.check { c.limits with most := request.most.getD c.limits.most } =
      .ok () := by
    rw [Extract.Limits.check, if_neg (Int.not_lt.mpr most)]
  have hpolicy : Review.Policy.of? (request.repair.getD c.repair) c.threshold =
      some ⟨request.repair.getD c.repair, t⟩ :=
    Config.policy_eq_some.mpr ⟨rfl, hvalue, hlow, hhigh⟩
  refine ⟨t, hvalue, ?_⟩
  simp only [Setup.of, registryOf, hregistry, limitsOf, hlimits, policyOf, hpolicy]
  rfl

theorem exists_setup {c : Config} (h : c.Usable) {request : Request} (most : request.most = none)
    (repair : request.repair = none) : ∃ setup, Setup.of c request = .ok setup ∧ setup.IsFor c := by
  have hmost : 1 ≤ request.most.getD c.limits.most := by
    rw [most]
    exact h.most
  obtain ⟨t, hvalue, hsetup⟩ := setup_eq h hmost
  rw [most, repair] at hsetup
  exact ⟨_, hsetup, rfl, rfl, rfl, rfl, hvalue, rfl⟩

/-! ### Failures of stages -/

namespace Stage

variable {α β : Type}

/-- The computation stops early for no other reasons than these. -/
def StopsOnly (reasons : Halt → Prop) (m : Stage α) : Prop :=
  ∀ p h q, m.run.run p = (.error h, q) → reasons h

variable {reasons : Halt → Prop}

theorem StopsOnly.bind {m : Stage α} {f : α → Stage β} (hm : StopsOnly reasons m)
    (hf : ∀ a, StopsOnly reasons (f a)) : StopsOnly reasons (m >>= f) := by
  intro p h q hrun
  rw [run_bind] at hrun
  rcases hfirst : m.run.run p with ⟨e | a, middle⟩
  · rw [hfirst] at hrun
    cases hrun
    exact hm p h q hfirst
  · rw [hfirst] at hrun
    exact hf a middle h q hrun

/-- What always has a result stops for no reason. -/
theorem stopsOnly_of_ok {m : Stage α} (h : ∀ p, ∃ a q, m.run.run p = (.ok a, q)) :
    StopsOnly reasons m := by
  intro p e q hrun
  obtain ⟨a, next, hok⟩ := h p
  rw [hok] at hrun
  cases hrun

theorem stopsOnly_get : StopsOnly reasons (get : Stage Progress) :=
  stopsOnly_of_ok fun p => ⟨_, _, run_get p⟩

theorem stopsOnly_pure (a : α) : StopsOnly reasons (pure a : Stage α) :=
  stopsOnly_of_ok fun p => ⟨_, _, run_pure a p⟩

theorem stopsOnly_note (records : List Log.Record) : StopsOnly reasons (note records) :=
  stopsOnly_of_ok fun p => ⟨_, _, run_note records p⟩

theorem stopsOnly_report (findings : List Finding) : StopsOnly reasons (report findings) :=
  stopsOnly_of_ok fun p => ⟨_, _, run_report findings p⟩

theorem stopsOnly_modify (f : Progress → Progress) :
    StopsOnly reasons (modify f : Stage Unit) :=
  stopsOnly_of_ok fun p => ⟨_, _, run_modify f p⟩

theorem stopsOnly_halt {h : Halt} (hh : reasons h) : StopsOnly reasons (halt h : Stage α) := by
  intro p h' q hrun
  cases hrun
  exact hh

theorem stopsOnly_check {stage : String} (h : reasons (.expired stage)) (n : Nat) :
    StopsOnly reasons (check stage n) := by
  refine stopsOnly_get.bind fun p => ?_
  split
  · exact stopsOnly_modify _
  · exact stopsOnly_halt h

theorem stopsOnly_settle {ε : Type} {fail : ε → Halt} (h : ∀ e, reasons (fail e))
    (r : Except ε α) : StopsOnly reasons (settle fail r) := by
  cases r with
  | ok a => exact stopsOnly_pure a
  | error e => exact stopsOnly_halt (h e)

end Stage

/-- The reason lies in the run itself, not in the settings that it was prepared from. -/
def Halt.IsOwn : Halt → Prop
  | .failed (.config _) => False
  | _ => True

theorem stages_stopsOnly (d : Disk) (setup : Setup) (request : Request) :
    Stage.StopsOnly Halt.IsOwn (stages d setup request) := by
  have hscan : Stage.StopsOnly Halt.IsOwn (scanStage d setup request) := by
    refine Stage.stopsOnly_get.bind fun p => ?_
    split
    · exact (Stage.stopsOnly_modify _).bind fun _ => (Stage.stopsOnly_note _).bind fun _ =>
        (Stage.stopsOnly_report _).bind fun _ => Stage.stopsOnly_pure _
    · exact (Stage.stopsOnly_note _).bind fun _ => Stage.stopsOnly_halt trivial
    · exact Stage.stopsOnly_halt trivial
  have hextraction (s : Scan.Snapshot) : Stage.StopsOnly Halt.IsOwn (extractionStage d setup s) :=
    (Stage.stopsOnly_check trivial 1).bind fun _ => (Stage.stopsOnly_check trivial _).bind fun _ =>
      (Stage.stopsOnly_settle (fun e => by cases e <;> trivial) _).bind fun _ =>
        (Stage.stopsOnly_note _).bind fun _ => (Stage.stopsOnly_report _).bind fun _ =>
          Stage.stopsOnly_pure _
  have hgraph (x : Extract.Extraction) : Stage.StopsOnly Halt.IsOwn (graphStage x) :=
    (Stage.stopsOnly_check trivial 1).bind fun _ =>
      (Stage.stopsOnly_settle (fun _ => trivial) _).bind fun _ =>
        (Stage.stopsOnly_note _).bind fun _ => (Stage.stopsOnly_report _).bind fun _ =>
          Stage.stopsOnly_pure _
  have hviews (g : Graph) : Stage.StopsOnly Halt.IsOwn (viewStage g) :=
    (Stage.stopsOnly_check trivial 1).bind fun _ =>
      (Stage.stopsOnly_note _).bind fun _ => Stage.stopsOnly_pure _
  have htree (g : Graph) (diagrams : List Diagram) (plan : Tutorial) (name : String) :
      Stage.StopsOnly Halt.IsOwn (treeStage g diagrams plan name) :=
    (Stage.stopsOnly_check trivial 1).bind fun _ =>
      (Stage.stopsOnly_note _).bind fun _ => Stage.stopsOnly_pure _
  have hreview (tree : Page) : Stage.StopsOnly Halt.IsOwn (reviewStage setup.policy tree) :=
    (Stage.stopsOnly_check trivial 1).bind fun _ =>
      (Stage.stopsOnly_settle (fun _ => trivial) _).bind fun _ =>
        (Stage.stopsOnly_note _).bind fun _ => (Stage.stopsOnly_report _).bind fun _ =>
          Stage.stopsOnly_pure _
  exact (Stage.stopsOnly_note _).bind fun _ => hscan.bind fun _ => (hextraction _).bind fun _ =>
    (hgraph _).bind fun _ => (hviews _).bind fun _ => (htree _ _ _ _).bind fun _ =>
      (hreview _).bind fun _ => Stage.stopsOnly_get.bind fun _ => Stage.stopsOnly_pure _

/-- A run that could be prepared does not blame its configuration. -/
theorem result_ne_config {d : Disk} {clock : Clock} {c : Config} {request : Request}
    {setup : Setup} (h : Setup.of c request = .ok setup) (fault : Config.Fault) :
    (runWith d clock c request).result ≠ .error (.config fault) := by
  rw [runWith, h]
  dsimp only
  have howns := stages_stopsOnly d setup request
  generalize hended : (stages d setup request).run.run
    { watch := .start (request.seconds.or c.deadline) clock } = ended
  obtain ⟨(stage | e) | result, q⟩ := ended
  · nofun
  · intro he
    cases he
    exact howns _ _ _ hended
  · nofun

/-- Settings that are read without a complaint have what every part of a run asks for. A run that
changes none of them is prepared with just these settings, and whatever becomes of it, it does not
blame them. -/
theorem prepared_of_value {room : Nat} {root : Disk.Place} {v : Yaml.Value} {c : Config}
    (read : Config.ofValue room root v = .ok c) :
    c.Usable ∧ ∀ request : Request, request.most = none → request.repair = none →
      (∃ setup, Setup.of c request = .ok setup ∧ setup.IsFor c) ∧
      ∀ (d : Disk) (host : Host) (fault : Config.Fault),
        (runWith d host.clock c request).result ≠ .error (.config fault) ∧
        (configOf d host.room request.path = .ok c →
          (run d host request).result ≠ .error (.config fault)) := by
  have husable := Config.usable_of_value read
  refine ⟨husable, fun request most repair => ?_⟩
  obtain ⟨setup, hsetup, hfor⟩ := exists_setup husable most repair
  refine ⟨⟨setup, hsetup, hfor⟩, fun d host fault => ⟨result_ne_config hsetup fault, ?_⟩⟩
  intro hconfig
  rw [run, hconfig]
  exact result_ne_config hsetup fault

/-- Settings with adapters, workers and a threshold of their own. -/
def chosenSettings : Yaml.Value :=
  .mapping [(.text "scan", .mapping [(.text "workers", .text "3")]),
    (.text "extract", .mapping [(.text "adapters", .list [.text "Python", .text "JAVASCRIPT"]),
      (.text "max_abstractions", .int 8), (.text "min_abstractions", .int 0)]),
    (.text "validate", .mapping [(.text "repair_threshold", .int 1)])]

theorem prepared_of_value_chosen : ∃ c, Config.ofValue 1000 [] chosenSettings = .ok c ∧ c.Usable ∧
    ∃ setup, Setup.of c { path := "/", shown := "/" } = .ok setup ∧ setup.IsFor c := by
  obtain ⟨c, hread⟩ := exists_ok_of_isOk (r := Config.ofValue 1000 [] chosenSettings)
    (by decide +kernel)
  obtain ⟨husable, hprepared⟩ := prepared_of_value hread
  exact ⟨c, hread, husable, (hprepared { path := "/", shown := "/" } rfl rfl).1⟩

end Run

end DocAtlas
