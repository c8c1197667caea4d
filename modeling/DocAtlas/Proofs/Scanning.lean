import DocAtlas.Proofs.Merging
import DocAtlas.Proofs.NormalPaths
import DocAtlas.Proofs.Readings
import DocAtlas.Proofs.Worklist
import Mathlib.Data.List.Forall2

/-!
Scans: the walk of a root and its directories is complete, and the snapshot taken from it depends
neither on the order in which directories are walked nor on a deadline that does not pass.
-/
namespace DocAtlas.Scan

/-! ### The whole walk -/

/-- The harvests of the root and of its directories. -/
def harvestsOf (d : Disk) (rules : RuleSet) (root : Disk.Place) : List Harvest :=
  topHarvest (steps d rules (rootVisit root)) :: subtrees d rules (steps d rules (rootVisit root))

/-- What has come in is that of the entries that the walk goes to, once each. -/
structure Covers (d : Disk) (rules : RuleSet) (root : Disk.Place) (whole : Harvest) : Prop where
  candidates : ∀ c, c ∈ whole.candidates ↔ ∃ k : Look, k.Reached d rules root ∧
    ∃ place, (k.entry.target = .file place ∧ k.links ≤ Disk.maxLinks) ∧
      rules.excludes k.path false = false ∧ c = ⟨k.path, place, k.entries.any (·.isLink)⟩
  paths : (whole.candidates.map Candidate.path).Nodup
  findings : ∀ f, f ∈ whole.findings ↔ ∃ k : Look, k.Reached d rules root ∧
    ∃ place, (k.entry.target = .directory place ∧ k.links ≤ Disk.maxLinks) ∧
      rules.prunes k.path = false ∧ place ∈ passed root k.way ∧ f = cycleFinding k.path
  subjects : (whole.findings.map Finding.subject).Nodup

section

variable {d : Disk} (hd : d.isProper = true) (rules : RuleSet) (root : Disk.Place)
include hd

/-- The walks of the root's directories come to an end. -/
theorem settles_entered : ∀ v ∈ entered (steps d rules (rootVisit root)),
    RoundsSettle d rules v (walk d rules (depthBound d) v) := by
  have hroot : Due d rules root (rootVisit root) := ⟨[], root, goes_root d rules root, rfl⟩
  intro v hv
  rw [walk_entered hd hroot hv]
  exact settles_of_due hd (due_of_entered hd hroot hv)

/-- The root and its directories bring in what the looks at all entries do. -/
theorem contents_harvestsOf :
    (Harvest.all (harvestsOf d rules root)).contents =
      (Harvest.all ((looks d rules root (depthBound d + 1) []).map (report rules root))).contents
    := by
  have hsplit := sum_walk_succ Harvest.additive_contents d rules (depthBound d) (visitAt root [])
  rw [harvestsOf, Harvest.additive_contents.all, Harvest.additive_contents.all, List.map_cons,
    List.sum_cons, subtrees_eq, List.map_map, List.map_map, rootVisit_eq]
  exact hsplit.symm.trans (contents_walk hd (goes_root d rules root))

theorem covers_harvestsOf : Covers d rules root (Harvest.all (harvestsOf d rules root)) := by
  obtain ⟨hcandidates, hfindings, -⟩ :=
    Harvest.contents_eq_iff.mp (contents_harvestsOf hd rules root)
  rw [Harvest.candidates_all (List.map _ _), List.flatMap_map] at hcandidates
  rw [Harvest.findings_all (List.map _ _), List.flatMap_map] at hfindings
  refine ⟨?_, ?_, ?_, ?_⟩
  · intro c
    rw [hcandidates.mem_iff]
    exact mem_flatMap_looks hd fun k hk c => candidates_report hd hk
  · rw [(hcandidates.map _).nodup_iff, List.map_flatMap]
    exact nodup_looks hd fun k h => (report_paths hd h).1
  · intro f
    rw [hfindings.mem_iff]
    exact mem_flatMap_looks hd fun k hk f => findings_report hd hk
  · rw [(hfindings.map _).nodup_iff, List.map_flatMap]
    exact nodup_looks hd fun k h => (report_paths hd h).2

end

/-- Whatever is walked first, the walks of the root's directories come to an end with what `walk`
gives for them. Together they hold a candidate for exactly the files that are not excluded on ways
without a pruned directory or one met twice, and a finding for exactly the directories, not pruned,
that such a way meets again; none comes twice. No way counts that leads through more links than are
followed along a path. -/
theorem walk_complete (d : Disk) (rules : RuleSet) (root : Disk.Place)
    (proper : d.isProper = true) :
    (∀ v ∈ entered (steps d rules (rootVisit root)),
      RoundsSettle d rules v (walk d rules (depthBound d) v)) ∧
      harvestsOf d rules root = topHarvest (steps d rules (rootVisit root)) ::
        (entered (steps d rules (rootVisit root))).map (walk d rules (depthBound d)) ∧
      Covers d rules root (Harvest.all (harvestsOf d rules root)) :=
  ⟨settles_entered proper rules root, congrArg (_ :: ·) (subtrees_eq d rules _),
    covers_harvestsOf proper rules root⟩

/-- A directory with a file, a link to itself, and a directory with a link up. -/
def loopDisk : Disk where
  entries := [("repo", .directory [("a.py", .file ByteArray.empty), ("loop", .link "."),
    ("sub", .directory [("b.py", .file ByteArray.empty), ("up", .link "..")])])]

theorem loopDisk_loop :
    entryOf loopDisk ["repo"] "loop" (.link ".") = ⟨"loop", true, 1, .directory ["repo"]⟩ := by
  decide +kernel

theorem walk_complete_loop :
    loopDisk.isProper = true ∧
      (∀ v ∈ entered (steps loopDisk [] (rootVisit ["repo"])),
        RoundsSettle loopDisk [] v (walk loopDisk [] (depthBound loopDisk) v)) ∧
      Covers loopDisk [] ["repo"] (Harvest.all (harvestsOf loopDisk [] ["repo"])) ∧
      cycleFinding "loop" ∈ (Harvest.all (harvestsOf loopDisk [] ["repo"])).findings := by
  have proper : loopDisk.isProper = true := by decide
  have hentry : entryOf loopDisk ["repo"] "loop" (.link ".") ∈ entriesOf loopDisk ["repo"] :=
    mem_entriesOf rfl (List.mem_cons_of_mem _ List.mem_cons_self)
  obtain ⟨hsettles, -, hcovers⟩ := walk_complete loopDisk [] ["repo"] proper
  refine ⟨proper, hsettles, hcovers, (hcovers.findings _).mpr ?_⟩
  exact ⟨⟨[], ⟨"loop", true, 1, .directory ["repo"]⟩⟩,
    ⟨["repo"], goes_root loopDisk [] ["repo"], loopDisk_loop ▸ hentry⟩, ["repo"],
    ⟨rfl, by decide⟩, rfl, List.mem_cons_self, rfl⟩

/-! ### Ways through too many links -/

/-- No candidate has a path that leads through more links than are followed. -/
theorem path_ne_of_links {d : Disk} (hd : d.isProper = true) (rules : RuleSet)
    {root p : Disk.Place} {es : List Entry} (way : Way d root es p) {e : Entry}
    (entry : e ∈ entriesOf d p) (long : Disk.maxLinks < linksOf (es ++ [e])) :
    ∀ c ∈ (Harvest.all (harvestsOf d rules root)).candidates, c.path ≠ pathOf (es ++ [e]) := by
  intro c hc hpath
  obtain ⟨⟨fs, f⟩, ⟨q, hgoes, hentry⟩, place, ⟨-, hlinks⟩, -, rfl⟩ :=
    ((covers_harvestsOf hd rules root).candidates c).mp hc
  have hnames : (fs ++ [f]).map Entry.name = (es ++ [e]).map Entry.name :=
    pathOf_inj (hgoes.way.isName_concat hd hentry) (way.isName_concat hd entry) (by simp) (by simp)
      hpath
  rw [List.map_append, List.map_append] at hnames
  obtain ⟨hbefore, hlast⟩ := List.append_inj' hnames rfl
  obtain ⟨rfl, rfl⟩ := hgoes.way.eq_of_names hd way hbefore
  obtain rfl := eq_of_name hd hentry entry (List.singleton_inj.mp hlast)
  exact absurd hlinks (Nat.not_le.mpr long)

/-- The way through a directory and, time and again, a link in it to itself. -/
def hops : String := "../c/" ++ String.join (List.replicate 25 "h/")

/-- A link leads from the repository into a directory, and a link there into another one, each
through 25 links more. -/
def hopDisk : Disk where
  entries := [("repo", .directory [("a", .link (hops ++ "../x"))]),
    ("c", .directory [("h", .link ".")]), ("x", .directory [("b", .link (hops ++ "../y"))]),
    ("y", .directory [("f.txt", .file "text".toUTF8)])]

def hopEntries : List Entry :=
  [⟨"a", true, 26, .directory ["x"]⟩, ⟨"b", true, 26, .directory ["y"]⟩]

def hopFile : Entry := ⟨"f.txt", false, 0, .file ["y", "f.txt"]⟩

theorem hop_way : Way hopDisk ["repo"] hopEntries ["y"] ∧ hopFile ∈ entriesOf hopDisk ["y"] := by
  have ha : entryOf hopDisk ["repo"] "a" (.link (hops ++ "../x")) =
      ⟨"a", true, 26, .directory ["x"]⟩ := by
    decide +kernel
  have hb : entryOf hopDisk ["x"] "b" (.link (hops ++ "../y")) =
      ⟨"b", true, 26, .directory ["y"]⟩ := by
    decide +kernel
  have hf : entryOf hopDisk ["y"] "f.txt" (.file "text".toUTF8) = hopFile := by
    decide +kernel
  have hfirst : Way hopDisk ["repo"] [⟨"a", true, 26, .directory ["x"]⟩] ["x"] :=
    .down .here (ha ▸ mem_entriesOf rfl List.mem_cons_self) rfl
  exact ⟨.down hfirst (hb ▸ mem_entriesOf rfl List.mem_cons_self) rfl,
    hf ▸ mem_entriesOf rfl List.mem_cons_self⟩

/-- Nothing on the way to the file is pruned, excluded or met twice, but it is no candidate: 52
links are too many. -/
theorem long_way_missed : hopDisk.isProper = true ∧ Way hopDisk ["repo"] hopEntries ["y"] ∧
    (∀ before, before ≠ [] → before <+: hopEntries → RuleSet.prunes [] (pathOf before) = false) ∧
    (passed ["repo"] hopEntries).Nodup ∧ hopFile ∈ entriesOf hopDisk ["y"] ∧
    hopFile.target = .file ["y", "f.txt"] ∧
    RuleSet.excludes [] (pathOf (hopEntries ++ [hopFile])) false = false ∧
    pathOf (hopEntries ++ [hopFile]) = "a/b/f.txt" ∧
    ∀ c ∈ (Harvest.all (harvestsOf hopDisk [] ["repo"])).candidates, c.path ≠ "a/b/f.txt" := by
  have proper : hopDisk.isProper = true := by decide +kernel
  obtain ⟨way, hfile⟩ := hop_way
  have hpath : pathOf (hopEntries ++ [hopFile]) = "a/b/f.txt" := by decide +kernel
  refine ⟨proper, way, fun _ _ _ => rfl, by decide, hfile, rfl, rfl, hpath, ?_⟩
  rw [← hpath]
  exact path_ne_of_links proper [] way hfile (by decide)

/-! ### Scans -/

/-- How often a scan reads the clock: once for every entry that it looks at and once for every file
that it loads. -/
def readingsOf (d : Disk) (rules : RuleSet) (root : Disk.Place) : Nat :=
  (Harvest.all (harvestsOf d rules root)).looked +
    (deduplicate (Harvest.all (harvestsOf d rules root)).candidates).length

/-- By both clocks the same files take longer than is allowed. -/
def Alike (timeout : Seconds) (a b : Clock) : Prop :=
  ∀ place parts, isSlow timeout (a.file place) parts = isSlow timeout (b.file place) parts

theorem load_congr (d : Disk) {settings : Settings} {a b : Clock}
    (h : Alike settings.readTimeout a b) : load d settings a = load d settings b := by
  funext c
  have hslow := h c.place
  simp only [load, skip?, hslow]

/-- What a scan goes by: its root is a directory, its rules are well formed, and it has workers. -/
structure Ready (d : Disk) (settings : Settings) (path : String) (callRules : List Rule)
    (rules : RuleSet) : Prop where
  exists_ : d.exists? path = true
  directory : d.isDirectory path = true
  rules : RuleSet.ofRules (orderedRules d (d.resolve path) settings callRules) = .ok rules
  workers : checkWorkers settings = .ok ()

section

variable {d : Disk} {settings : Settings} {path : String} {callRules : List Rule} {rules : RuleSet}

/-- Such a scan takes its snapshot under any deadline that does not pass on its readings. -/
theorem Ready.scan_eq (h : Ready d settings path callRules rules) (shown : String) (w : Watch) :
    (∀ later, w.check? (readingsOf d rules (d.resolve path)) = some later →
      scan d settings path shown callRules w =
        .ok (snapshotOf (load d settings w.clock) (d.resolve path)
          (harvestsOf d rules (d.resolve path)), later)) ∧
    (w.check? (readingsOf d rules (d.resolve path)) = none →
      ∃ omitted, scan d settings path shown callRules w = .error (.expired omitted)) := by
  obtain ⟨hexists, hdirectory, hrules, hworkers⟩ := h
  have hall : topHarvest (steps d rules (rootVisit (d.resolve path))) ::
      subtrees d rules (steps d rules (rootVisit (d.resolve path))) =
        harvestsOf d rules (d.resolve path) := rfl
  have hlooked : (Harvest.all (harvestsOf d rules (d.resolve path))).looked =
      (topHarvest (steps d rules (rootVisit (d.resolve path)))).looked +
        (Harvest.all (subtrees d rules (steps d rules (rootVisit (d.resolve path))))).looked := by
    simp only [harvestsOf, Harvest.additive_looked.all, List.map_cons, List.sum_cons]
  simp only [scan, hexists, hdirectory, hrules, hworkers, checked, Bool.not_true,
    Bool.false_eq_true, if_false, bind, Except.bind, readingsOf, hlooked, Watch.check?_add, hall]
  cases w.check? (topHarvest (steps d rules (rootVisit (d.resolve path)))).looked with
  | none => simp
  | some w =>
    simp only [Option.bind_some]
    cases w.check? (Harvest.all (subtrees d rules
        (steps d rules (rootVisit (d.resolve path))))).looked with
    | none => simp
    | some w =>
      simp only [Option.bind_some]
      cases w.check? (deduplicate (Harvest.all
          (harvestsOf d rules (d.resolve path))).candidates).length with
      | none => simp
      | some w => simp [pure, Except.pure]

end

/-- A scan that takes a snapshot is ready. -/
theorem ready_of_scan {d : Disk} {settings : Settings} {path shown : String}
    {callRules : List Rule} {w later : Watch} {s : Snapshot}
    (h : scan d settings path shown callRules w = .ok (s, later)) :
    ∃ rules, Ready d settings path callRules rules ∧
      s = snapshotOf (load d settings w.clock) (d.resolve path)
        (harvestsOf d rules (d.resolve path)) := by
  cases hexists : d.exists? path with
  | false => simp [scan, hexists] at h
  | true =>
    cases hdirectory : d.isDirectory path with
    | false => simp [scan, hexists, hdirectory] at h
    | true =>
      cases hrules : RuleSet.ofRules (orderedRules d (d.resolve path) settings callRules) with
      | error fault => simp [scan, hexists, hdirectory, hrules] at h
      | ok rules =>
        cases hworkers : checkWorkers settings with
        | error e =>
          simp only [scan, hexists, hdirectory, hrules, hworkers, bind, Except.bind, Bool.not_true,
            Bool.false_eq_true, if_false] at h
          split at h <;> cases h
        | ok u =>
          have ready : Ready d settings path callRules rules :=
            ⟨hexists, hdirectory, hrules, hworkers⟩
          refine ⟨rules, ready, ?_⟩
          obtain ⟨hok, hexpired⟩ := ready.scan_eq shown w
          cases hc : w.check? (readingsOf d rules (d.resolve path)) with
          | none =>
            obtain ⟨omitted, he⟩ := hexpired hc
            rw [he] at h
            cases h
          | some next =>
            rw [hok next hc] at h
            exact (congrArg Prod.fst (Except.ok.inj h)).symm

theorem scan_eq_ok {d : Disk} {settings : Settings} {path shown : String} {callRules : List Rule}
    {w later : Watch} {s : Snapshot}
    (h : scan d settings path shown callRules w = .ok (s, later)) :
    ∃ rules, RuleSet.ofRules (orderedRules d (d.resolve path) settings callRules) = .ok rules ∧
      s = snapshotOf (load d settings w.clock) (d.resolve path)
        (harvestsOf d rules (d.resolve path)) := by
  obtain ⟨rules, ready, hs⟩ := ready_of_scan h
  exact ⟨rules, ready.rules, hs⟩

/-! ### Units -/

section

variable {d : Disk} (hd : d.isProper = true)
include hd

/-- What a walk takes an entry to lead to is what its path leads to. -/
theorem Look.target_eq {rules : RuleSet} {root : Disk.Place} (directory : d.HasDirectory root)
    (real : d.Follows [] root 0 root) {k : Look} (h : k.Reached d rules root) :
    k.target = (d.follow Disk.maxLinks [] (Path.segments (Path.join root.text k.path))).elim .other
      (targetAt d ·.2) := by
  obtain ⟨p, hgoes, hentry⟩ := h
  have hroot : ∀ name ∈ root, '/' ∉ name.toList ∧ name ≠ "" := fun name hname =>
    proper_of_isName (Disk.isName_of_hasDirectory hd directory name hname)
  have hnames : ∀ name ∈ k.names, '/' ∉ name.toList ∧ name ≠ "" :=
    List.forall_mem_map.mpr fun e he => proper_of_isName (hgoes.way.isName_concat hd hentry e he)
  have hne : k.names ≠ [] := by simp [Look.names, Look.entries]
  have hsegments : Path.segments (Path.join root.text k.path) = "" :: (root ++ k.names) :=
    Path.segments_join_text hroot hnames hne
  rw [hsegments, Disk.follow_after_slash]
  exact hgoes.way.reached_eq directory real hentry

/-- The file of a candidate is what its path leads to. -/
theorem reach?_candidate {rules : RuleSet} {root : Disk.Place} (directory : d.HasDirectory root)
    (real : d.Follows [] root 0 root) {c : Candidate}
    (hc : c ∈ (Harvest.all (harvestsOf d rules root)).candidates) :
    d.reach? (Path.join root.text c.path) = d.node? c.place := by
  obtain ⟨k, hk, place, hfile, -, rfl⟩ := ((covers_harvestsOf hd rules root).candidates c).mp hc
  have htarget := Look.target_eq hd directory real hk
  rw [Look.target_eq_file.mpr hfile] at htarget
  unfold Disk.reach?
  cases hfollow : d.follow Disk.maxLinks [] (Path.segments (Path.join root.text k.path)) with
  | none =>
    rw [hfollow] at htarget
    cases htarget
  | some found =>
    rw [hfollow] at htarget
    rw [Option.bind_some, (targetAt_eq_file htarget.symm).1]

/-- Every unit of a snapshot can be read at its path below the root, as the bytes that were scanned.
-/
theorem read?_of_scan {settings : Settings} {path shown : String} {callRules : List Rule}
    {w later : Watch} {s : Snapshot}
    (h : scan d settings path shown callRules w = .ok (s, later)) {u : SourceUnit}
    (hu : u ∈ s.units) :
    ∃ bytes, d.read? (Path.join s.root.text u.path) = some bytes ∧ u.size = bytes.size ∧
      u.digest = Digest.sha256 bytes := by
  obtain ⟨rules, ready, rfl⟩ := ready_of_scan h
  have hpaths := (covers_harvestsOf hd rules (d.resolve path)).paths
  obtain ⟨hdirectory, hreal⟩ := Disk.follows_resolve ready.directory
  obtain ⟨c, hleads, hload⟩ :=
    ((snapshotOf_merged d settings w.clock (d.resolve path) hpaths).units u).mp hu
  have hreach := reach?_candidate hd hdirectory hreal hleads.1
  unfold load at hload
  split at hload
  · rename_i bytes hbytes
    split at hload
    · cases hload
    · cases hload
      have hread : d.read? (Path.join (d.resolve path).text c.path) = some bytes := by
        rw [Disk.read?, hreach, hbytes]
      exact ⟨bytes, hread, rfl, rfl⟩
  · cases hload

end

/-! ### Deliveries -/

/-- The harvests of the root and of its directories, when all are walked in some order, and come in
in some order. -/
def Delivers (d : Disk) (rules : RuleSet) (root : Disk.Place) (harvests : List Harvest) : Prop :=
  ∃ ends : List Worklist,
    List.Forall₂ (fun v w => Relation.ReflTransGen (Round d rules) ⟨[v], {}⟩ w ∧ w.pending = [])
      (entered (steps d rules (rootVisit root))) ends ∧
    harvests.Perm (topHarvest (steps d rules (rootVisit root)) :: ends.map (·.harvest))

section

variable {d : Disk} (hd : d.isProper = true)
include hd

theorem Delivers.contents_eq {rules : RuleSet} {root : Disk.Place} {harvests : List Harvest}
    (h : Delivers d rules root harvests) :
    (Harvest.all (harvestsOf d rules root)).contents = (Harvest.all harvests).contents := by
  obtain ⟨ends, hends, hp⟩ := h
  have hsame : (entered (steps d rules (rootVisit root))).map
      (fun v => (walk d rules (depthBound d) v).contents) = ends.map (·.harvest.contents) := by
    rw [← List.forall₂_eq_eq_eq, List.forall₂_map_left_iff, List.forall₂_map_right_iff]
    have hboth := (List.forall₂_and_left _ _).mpr ⟨settles_entered hd rules root, hends⟩
    exact hboth.imp fun v w h => (h.1.result w h.2.1 h.2.2).symm
  rw [Harvest.contents_all_perm hp, harvestsOf, Harvest.additive_contents.all,
    Harvest.additive_contents.all, List.map_cons, List.map_cons, subtrees_eq, List.map_map,
    List.map_map]
  exact congrArg (fun parts => (_ :: parts).sum) hsame

/-- A scan takes its snapshot from the harvests of the walk, and would take the same one in whatever
order directories were walked and their harvests came in. -/
theorem scan_delivered {settings : Settings} {path shown : String} {callRules : List Rule}
    {w later : Watch} {s : Snapshot}
    (h : scan d settings path shown callRules w = .ok (s, later)) :
    ∃ rules, RuleSet.ofRules (orderedRules d (d.resolve path) settings callRules) = .ok rules ∧
      ∀ harvests, Delivers d rules (d.resolve path) harvests →
        s = snapshotOf (load d settings w.clock) (d.resolve path) harvests := by
  obtain ⟨rules, hrules, rfl⟩ := scan_eq_ok h
  refine ⟨rules, hrules, ?_⟩
  intro harvests hdelivers
  have hcovers := covers_harvestsOf hd rules (d.resolve path)
  have hfindings := List.Nodup.of_map Prod.snd (l := List.map findingKey _)
    (by rw [List.map_map]; exact hcovers.subjects)
  exact snapshotOf_congr _ _ hcovers.paths hfindings (hdelivers.contents_eq hd)

end

end DocAtlas.Scan
