import DocAtlas.Proofs.GlobReading
import DocAtlas.Proofs.RuleLanguage
import DocAtlas.Proofs.Scanning

/-!
Which rules compile, and when a scan answers: a single rule that cannot be read stops it.
-/
namespace DocAtlas.Scan
open Text

/-! ### Rules -/

namespace Rule

/-- The pattern of the rule can be read. -/
def IsLegible (rule : Rule) : Prop := Glob.Legible false rule.body

theorem not_backslash_mem_body (rule : Rule) : '\\' ∉ rule.body := by
  intro hm
  have hwritten : '\\' ∈ rule.written :=
    (dropEndSlashes_isPrefix _).subset ((List.dropWhile_suffix _).subset hm)
  obtain ⟨c, -, he⟩ := List.mem_map.mp hwritten
  split at he
  · exact absurd he (by decide)
  · rename_i hc
    exact hc (beq_iff_eq.mpr he)

/-- A rule compiles if it is legible. -/
theorem answers_compile (rule : Rule) :
    Glob.Answers rule.IsLegible (fun r => Glob.Spells rule.body r.items) rule.compile := by
  have hbody := Glob.answers_compile rule.not_backslash_mem_body
  rw [compile_eq]
  cases hc : Glob.compile rule.body with
  | ok items =>
    rw [hc] at hbody
    cases hbody with
    | ok holds result => exact .ok holds result
  | error fault =>
    rw [hc] at hbody
    cases hbody with
    | error fails => exact .error fails

/-- Where nothing is in brackets, everything can be read. -/
theorem isLegible_of_plain {rule : Rule} (plain : '[' ∉ rule.pattern.toList) : rule.IsLegible := by
  obtain ⟨r, hr⟩ := exists_compilesTo plain
  exact rule.answers_compile.exists_ok_iff.mp ⟨r, hr.compiled⟩

theorem isLegible_of_blank {rule : Rule} (blank : trim rule.pattern.toList = []) :
    rule.IsLegible := by
  have hbody : rule.body = [] := by rw [body, written, blank]; rfl
  rw [IsLegible, hbody, Glob.Legible]

end Rule

theorem isLegible_of_mem_defaultRules {rule : Rule} (h : rule ∈ defaultRules) :
    rule.IsLegible := by
  have hplain : ∀ p ∈ defaultPatterns, '[' ∉ p.toList := by decide
  obtain ⟨p, hp, rfl⟩ := List.mem_map.mp h
  exact Rule.isLegible_of_plain (hplain p hp)

/-- Rules compile together if each is legible; else one that is not stops them. -/
theorem RuleSet.answers_ofRules (rules : List Rule) :
    (∀ rule ∈ rules, rule.IsLegible) ∧ (∃ set, ofRules rules = .ok set) ∨
      ∃ rule ∈ rules, ¬rule.IsLegible ∧ ∃ fault, rule.compile = .error fault ∧
        ofRules rules = .error fault := by
  cases hset : ofRules rules with
  | ok set =>
    left
    refine ⟨fun rule hrule => ?_, set, rfl⟩
    by_cases hblank : trim rule.pattern.toList = []
    · exact Rule.isLegible_of_blank hblank
    · refine rule.answers_compile.exists_ok_iff.mp (exists_mapM_iff.mp ⟨set, hset⟩ rule ?_)
      exact List.mem_filter.mpr ⟨hrule, by simpa using hblank⟩
  | error fault =>
    right
    obtain ⟨rule, hrule, hfault⟩ := exists_of_mapM_error hset
    refine ⟨rule, (List.mem_filter.mp hrule).1, fun hlegible => ?_, fault, hfault, rfl⟩
    obtain ⟨r, hr⟩ := rule.answers_compile.exists_ok_iff.mpr hlegible
    rw [hfault] at hr
    cases hr

/-! ### Scans -/

/-- The rules that a repository and its callers give, besides those that hold anyway. -/
def givenRules (d : Disk) (root : Disk.Place) (settings : Settings) (callRules : List Rule) :
    List Rule :=
  (if settings.respectIgnore then ignoreRules d root else []) ++ settings.rules ++ callRules

theorem orderedRules_eq (d : Disk) (root : Disk.Place) (settings : Settings)
    (callRules : List Rule) :
    orderedRules d root settings callRules =
      defaultRules ++ givenRules d root settings callRules := by
  simp [orderedRules, givenRules]

theorem scan_eq_pattern {d : Disk} {settings : Settings} {path : String} {callRules : List Rule}
    (found : d.exists? path = true) (directory : d.isDirectory path = true) {fault : PatternFault}
    (h : RuleSet.ofRules (orderedRules d (d.resolve path) settings callRules) = .error fault)
    (shown : String) (w : Watch) :
    scan d settings path shown callRules w = .error (.pattern fault) := by
  simp only [scan, found, directory, h, Bool.not_true, Bool.false_eq_true, if_false]

theorem checkWorkers_cases (settings : Settings) :
    (∀ n, settings.workers = some n → 0 ≤ n) ∧ checkWorkers settings = .ok () ∨
      ¬(∀ n, settings.workers = some n → 0 ≤ n) ∧ checkWorkers settings = .error .noWorkers := by
  rw [checkWorkers]
  cases settings.workers with
  | none => exact .inl ⟨nofun, rfl⟩
  | some n =>
    dsimp only
    split
    · exact .inr ⟨fun h => absurd (h n rfl) (by omega), rfl⟩
    · exact .inl ⟨fun m hm => Option.some.inj hm ▸ by omega, rfl⟩

theorem scan_eq_noWorkers {d : Disk} {settings : Settings} {path : String} {callRules : List Rule}
    (found : d.exists? path = true) (directory : d.isDirectory path = true) {rules : RuleSet}
    (h : RuleSet.ofRules (orderedRules d (d.resolve path) settings callRules) = .ok rules)
    (hworkers : checkWorkers settings = .error .noWorkers) (shown : String) {w : Watch}
    (unlimited : w.deadline.expiry = none) :
    scan d settings path shown callRules w = .error .noWorkers := by
  simp only [scan, found, directory, h, hworkers, checked, w.check?_of_unlimited unlimited,
    bind, Except.bind, Bool.not_true, Bool.false_eq_true, if_false]

/-- Without a deadline, the scan of a directory takes its snapshot if each of the rules given can be
read and the number of workers is not negative, and only then. It fails with the fault of a rule that
cannot be read or else for its workers, and in no other way. -/
theorem scan_answers_iff (d : Disk) (settings : Settings) (path shown : String)
    (callRules : List Rule) (w : Watch) (found : d.exists? path = true)
    (directory : d.isDirectory path = true) (unlimited : w.deadline.expiry = none) :
    ((∃ s later, scan d settings path shown callRules w = .ok (s, later)) ↔
      (∀ rule ∈ givenRules d (d.resolve path) settings callRules, rule.IsLegible) ∧
        ∀ n, settings.workers = some n → 0 ≤ n) ∧
    ∀ e, scan d settings path shown callRules w = .error e →
      (∃ rule ∈ givenRules d (d.resolve path) settings callRules, ¬rule.IsLegible ∧
        ∃ fault, rule.compile = .error fault ∧ e = .pattern fault) ∨
      ¬(∀ n, settings.workers = some n → 0 ≤ n) ∧ e = .noWorkers := by
  rcases RuleSet.answers_ofRules (orderedRules d (d.resolve path) settings callRules) with
    ⟨hlegible, set, hset⟩ | ⟨rule, hrule, hnot, fault, hfault, herror⟩
  · have hgiven : ∀ rule ∈ givenRules d (d.resolve path) settings callRules, rule.IsLegible := by
      intro rule hrule
      apply hlegible
      rw [orderedRules_eq]
      exact List.mem_append_right _ hrule
    rcases checkWorkers_cases settings with ⟨hsome, hworkers⟩ | ⟨hnone, hworkers⟩
    · have ready : Ready d settings path callRules set := ⟨found, directory, hset, hworkers⟩
      have hscan := (ready.scan_eq shown w).1 _ (w.check?_of_unlimited unlimited _)
      refine ⟨iff_of_true ⟨_, _, hscan⟩ ⟨hgiven, hsome⟩, fun e he => ?_⟩
      rw [hscan] at he
      cases he
    · have hscan := scan_eq_noWorkers found directory hset hworkers shown unlimited
      rw [hscan]
      exact ⟨iff_of_false nofun fun h => hnone h.2,
        fun e he => .inr ⟨hnone, (Except.error.inj he).symm⟩⟩
  · have hgiven : rule ∈ givenRules d (d.resolve path) settings callRules := by
      rw [orderedRules_eq] at hrule
      exact (List.mem_append.mp hrule).resolve_left fun h =>
        hnot (isLegible_of_mem_defaultRules h)
    rw [scan_eq_pattern found directory herror shown w]
    exact ⟨iff_of_false nofun fun h => hnot (h.1 rule hgiven),
      fun e he => .inl ⟨rule, hgiven, hnot, fault, hfault, (Except.error.inj he).symm⟩⟩

theorem decodeReplacing_toUTF8 (s : String) : Utf8.decodeReplacing s.toUTF8 = s := by
  have hvalid : String.fromUTF8? s.toUTF8 = some s := dif_pos s.isValidUTF8
  rw [Utf8.decodeReplacing, hvalid]

/-- A directory that holds an ignore file. -/
def ignoringDisk (text : String) : Disk where
  entries := [("repo", .directory [(".gitignore", .file text.toUTF8)])]

theorem ignoringDisk_root (text : String) :
    (ignoringDisk text).exists? "/repo" = true ∧ (ignoringDisk text).isDirectory "/repo" = true ∧
      (ignoringDisk text).resolve "/repo" = ["repo"] :=
  ⟨rfl, rfl, rfl⟩

theorem givenRules_ignoring (text : String) :
    givenRules (ignoringDisk text) ["repo"] {} [] = Ignore.readRules text := by
  have hpath : Disk.Place.text (["repo"] ++ [".gitignore"]) = "/repo/.gitignore" := by
    decide +kernel
  have hread : (ignoringDisk text).read? "/repo/.gitignore" = some text.toUTF8 := rfl
  rw [givenRules, if_pos rfl, ignoreRules, hpath, hread]
  dsimp only
  rw [decodeReplacing_toUTF8, List.append_nil, List.append_nil]

theorem scan_answers_ranges :
    (ignoringDisk "[a-z].log").exists? "/repo" = true ∧
      (ignoringDisk "[a-z].log").isDirectory "/repo" = true ∧
      Watch.idle.deadline.expiry = none ∧
      ∃ s later, scan (ignoringDisk "[a-z].log") {} "/repo" "repo" [] Watch.idle =
        .ok (s, later) := by
  obtain ⟨found, directory, hroot⟩ := ignoringDisk_root "[a-z].log"
  have hrules : Ignore.readRules "[a-z].log" = [⟨"[a-z].log", .exclude⟩] := by decide +kernel
  obtain ⟨hanswers, -⟩ := scan_answers_iff (ignoringDisk "[a-z].log") {} "/repo" "repo" []
    Watch.idle found directory rfl
  refine ⟨found, directory, rfl, hanswers.mpr ⟨?_, nofun⟩⟩
  rw [hroot, givenRules_ignoring, hrules, List.forall_mem_singleton]
  exact (Rule.answers_compile _).exists_ok_iff.mp ⟨_, rfl⟩

/-- A range in an ignore file that runs downwards stops the scan. -/
theorem scan_stopped_by_range :
    (ignoringDisk "[z-a]").isDirectory "/repo" = true ∧
      ∃ fault, scan (ignoringDisk "[z-a]") {} "/repo" "repo" [] Watch.idle =
          .error (.pattern fault) ∧
        fault.message = "bad character range z-a at position 1" := by
  obtain ⟨found, directory, hroot⟩ := ignoringDisk_root "[z-a]"
  have hrules : Ignore.readRules "[z-a]" = [⟨"[z-a]", .exclude⟩] := by decide +kernel
  have hcompile : Rule.compile ⟨"[z-a]", .exclude⟩ =
      .error ⟨"[z-a]".toList, .badRange ['z'] ['a'] 1⟩ := rfl
  have hgiven : givenRules (ignoringDisk "[z-a]") ["repo"] {} [] = [⟨"[z-a]", .exclude⟩] := by
    rw [givenRules_ignoring, hrules]
  refine ⟨directory, ?_⟩
  rcases RuleSet.answers_ofRules
      (orderedRules (ignoringDisk "[z-a]") ((ignoringDisk "[z-a]").resolve "/repo") {} []) with
    ⟨hlegible, -⟩ | ⟨rule, hrule, hnot, fault, hfault, herror⟩
  · rw [hroot, orderedRules_eq, hgiven, List.forall_mem_append, List.forall_mem_singleton]
      at hlegible
    obtain ⟨r, hr⟩ := (Rule.answers_compile _).exists_ok_iff.mpr hlegible.2
    rw [hcompile] at hr
    cases hr
  · rw [hroot, orderedRules_eq, hgiven] at hrule
    rcases List.mem_append.mp hrule with hdefault | hone
    · exact absurd (isLegible_of_mem_defaultRules hdefault) hnot
    · rw [List.mem_singleton.mp hone, hcompile] at hfault
      cases hfault
      exact ⟨_, scan_eq_pattern found directory herror "repo" Watch.idle, by decide +kernel⟩

end DocAtlas.Scan
