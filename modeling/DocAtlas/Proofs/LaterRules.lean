import DocAtlas.Proofs.RuleMatching
import DocAtlas.Proofs.Scanning

/-!
What one more rule does to a walk: a last rule that excludes takes candidates away and adds none,
one that includes adds candidates and takes none away.
-/
namespace DocAtlas.Scan

/-! ### Stricter rules -/

/-- Whatever the first rules exclude or prune, the others do. -/
structure Stricter (lax strict : RuleSet) : Prop where
  excludes : ∀ path isDirectory, lax.excludes path isDirectory = true →
    strict.excludes path isDirectory = true
  prunes : ∀ directory, lax.prunes directory = true → strict.prunes directory = true

namespace RuleSet

theorem prunes_iff {rules : RuleSet} {directory : String} :
    rules.prunes directory = true ↔ rules.excludes directory true = true ∧
      ∀ r ∈ rules, r.effect = .include → r.mayApplyBeneath directory = false := by
  constructor
  · intro h
    exact ⟨excludes_of_prunes h, fun r hr hi => mayApplyBeneath_of_prunes h hr hi⟩
  · rintro ⟨hexcluded, hinclude⟩
    rw [prunes, hexcluded, Bool.true_and, Bool.not_eq_true', List.any_eq_false]
    intro r hr
    simpa using hinclude r hr

/-- A last rule that excludes closes more directories and opens none. -/
theorem stricter_of_exclude {rules : RuleSet} {r : CompiledRule} (h : r.effect = .exclude) :
    Stricter rules (rules ++ [r]) := by
  have hexcludes : ∀ path isDirectory, rules.excludes path isDirectory = true →
      excludes (rules ++ [r]) path isDirectory = true := by
    intro path isDirectory hexcluded
    rw [excludes_concat]
    split
    · simp [h]
    · exact hexcluded
  refine ⟨hexcludes, ?_⟩
  intro directory hpruned
  rw [prunes_iff] at hpruned ⊢
  refine ⟨hexcludes _ _ hpruned.1, ?_⟩
  rw [List.forall_mem_append, List.forall_mem_singleton]
  refine ⟨hpruned.2, ?_⟩
  intro hinclude
  rw [h] at hinclude
  cases hinclude

/-- A last rule that includes may keep directories open, and closes none. -/
theorem stricter_of_include {rules : RuleSet} {r : CompiledRule} (h : r.effect = .include) :
    Stricter (rules ++ [r]) rules := by
  have hexcludes : ∀ path isDirectory, excludes (rules ++ [r]) path isDirectory = true →
      rules.excludes path isDirectory = true := by
    intro path isDirectory hexcluded
    rw [excludes_concat] at hexcluded
    split at hexcluded
    · simp [h] at hexcluded
    · exact hexcluded
  refine ⟨hexcludes, ?_⟩
  intro directory hpruned
  rw [prunes_iff, List.forall_mem_append] at hpruned
  exact prunes_iff.mpr ⟨hexcludes _ _ hpruned.1, hpruned.2.1⟩

theorem effect_of_compile {rule : Rule} {r : CompiledRule} (h : rule.compile = .ok r) :
    r.effect = rule.effect := by
  unfold Rule.compile at h
  dsimp only at h
  split at h
  · cases h
  · cases h
    rfl

/-- One more rule is the last one, unless it is blank and left out. -/
theorem ofRules_concat {rules : List Rule} {rule : Rule} {before after : RuleSet}
    (hb : ofRules rules = .ok before) (ha : ofRules (rules ++ [rule]) = .ok after) :
    after = before ∨ ∃ r, r.effect = rule.effect ∧ after = before ++ [r] := by
  unfold ofRules at hb ha
  rw [List.filter_append] at ha
  cases hblank : (Text.trim rule.pattern.toList).isEmpty with
  | true =>
    rw [List.filter_singleton, hblank] at ha
    have hsame := ha.symm.trans ((congrArg _ (List.append_nil _)).trans hb)
    exact .inl (Except.ok.inj hsame)
  | false =>
    rw [List.filter_singleton, hblank] at ha
    obtain ⟨rs, r, hrs, hr, rfl⟩ := mapM_concat_ok.mp ha
    rw [hb] at hrs
    cases hrs
    exact .inr ⟨r, effect_of_compile hr, rfl⟩

end RuleSet

/-! ### Walks under stricter rules -/

section

variable {d : Disk} {lax strict : RuleSet} {root : Disk.Place} (h : Stricter lax strict)
include h

theorem Goes.of_stricter {es : List Entry} {p : Disk.Place} (hgoes : Goes d strict root es p) :
    Goes d lax root es p := by
  obtain ⟨way, kept, distinct, links⟩ := hgoes
  refine ⟨way, ?_, distinct, links⟩
  intro before hne hp
  cases hpruned : lax.prunes (pathOf before) with
  | false => rfl
  | true =>
    have hkept := kept before hne hp
    rw [h.prunes _ hpruned] at hkept
    cases hkept

/-- Under stricter rules a walk brings in no further candidates. -/
theorem candidates_of_stricter (hd : d.isProper = true) :
    (Harvest.all (harvestsOf d strict root)).candidates ⊆
      (Harvest.all (harvestsOf d lax root)).candidates := by
  intro c hc
  obtain ⟨k, ⟨p, hgoes, hentry⟩, place, htarget, hkept, hpath⟩ :=
    ((covers_harvestsOf hd strict root).candidates c).mp hc
  refine ((covers_harvestsOf hd lax root).candidates c).mpr
    ⟨k, ⟨p, hgoes.of_stricter h, hentry⟩, place, htarget, ?_, hpath⟩
  cases hexcluded : lax.excludes k.path false with
  | false => rfl
  | true =>
    rw [h.excludes _ _ hexcluded] at hkept
    cases hkept

end

/-- A rule appended to others takes candidates away from a walk if it excludes, and adds some if it
includes; it never does both. -/
theorem candidates_appended (d : Disk) (root : Disk.Place) (rules : List Rule) (pattern : String)
    (proper : d.isProper = true) {before : RuleSet}
    (compiled : RuleSet.ofRules rules = .ok before) :
    (∀ after, RuleSet.ofRules (rules ++ [⟨pattern, .exclude⟩]) = .ok after →
      (Harvest.all (harvestsOf d after root)).candidates ⊆
        (Harvest.all (harvestsOf d before root)).candidates) ∧
    ∀ after, RuleSet.ofRules (rules ++ [⟨pattern, .include⟩]) = .ok after →
      (Harvest.all (harvestsOf d before root)).candidates ⊆
        (Harvest.all (harvestsOf d after root)).candidates := by
  constructor
  · intro after ha
    rcases RuleSet.ofRules_concat compiled ha with rfl | ⟨c, hc, rfl⟩
    · exact List.Subset.refl _
    · exact candidates_of_stricter (RuleSet.stricter_of_exclude hc) proper
  · intro after ha
    rcases RuleSet.ofRules_concat compiled ha with rfl | ⟨c, hc, rfl⟩
    · exact List.Subset.refl _
    · exact candidates_of_stricter (RuleSet.stricter_of_include hc) proper

/-- The rule compiled from the path of a file in a directory. -/
def fileRule (effect : Effect) (path : List Char) : CompiledRule :=
  ⟨path, effect, false, true, path.map fun c => .one (.only c), path⟩

/-- A directory is excluded; then a file in it is included, or another one excluded besides. -/
theorem candidates_appended_beneath :
    loopDisk.isProper = true ∧
      RuleSet.ofRules [⟨"sub/", .exclude⟩] = .ok [RuleSet.nameRule .exclude true "sub".toList] ∧
      RuleSet.prunes [RuleSet.nameRule .exclude true "sub".toList] "sub" = true ∧
      RuleSet.prunes [RuleSet.nameRule .exclude true "sub".toList,
        fileRule .include "sub/b.py".toList] "sub" = false ∧
      (Harvest.all (harvestsOf loopDisk [RuleSet.nameRule .exclude true "sub".toList,
        RuleSet.nameRule .exclude false "a.py".toList] ["repo"])).candidates ⊆
        (Harvest.all (harvestsOf loopDisk [RuleSet.nameRule .exclude true "sub".toList]
          ["repo"])).candidates ∧
      (Harvest.all (harvestsOf loopDisk [RuleSet.nameRule .exclude true "sub".toList]
        ["repo"])).candidates ⊆
        (Harvest.all (harvestsOf loopDisk [RuleSet.nameRule .exclude true "sub".toList,
          fileRule .include "sub/b.py".toList] ["repo"])).candidates := by
  have proper : loopDisk.isProper = true := by decide
  have compiled : RuleSet.ofRules [⟨"sub/", .exclude⟩] =
      .ok [RuleSet.nameRule .exclude true "sub".toList] := rfl
  have hexcluding := (candidates_appended loopDisk ["repo"] _ "a.py" proper compiled).1
  have hincluding := (candidates_appended loopDisk ["repo"] _ "sub/b.py" proper compiled).2
  refine ⟨proper, compiled, ?_, ?_, hexcluding _ rfl, hincluding _ rfl⟩
  all_goals
    simp [RuleSet.nameRule, fileRule, RuleSet.prunes, RuleSet.excludes, CompiledRule.isMatch,
      CompiledRule.acceptsAny, CompiledRule.candidates, CompiledRule.accepts,
      CompiledRule.mayApplyBeneath, Text.splitAt, Text.splitWhere, Text.join, Glob.accepts,
      Glob.Class.has, List.isPrefixOf]

end DocAtlas.Scan
