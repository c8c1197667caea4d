import DocAtlas.Proofs.GlobLanguage
import DocAtlas.Proofs.Mapping
import DocAtlas.Proofs.Splitting
import Mathlib.Data.List.Induction

/-!
Which paths beneath a directory a scan rule matches, which of several rules decides, and what a walk
misses by not entering a pruned directory. An anchored rule that includes something beneath a
directory keeps it open. A rule for single segments does not, so it cannot bring back what it
includes there.
-/
namespace DocAtlas.Scan
open Text

/-! ### Rules and what stands beneath a directory -/

namespace CompiledRule

theorem acceptsAny_cons (r : CompiledRule) (isDirectory : Bool) (a : List Char)
    {l : List (List Char)} (hl : l ≠ []) :
    r.acceptsAny isDirectory (a :: l) = (r.accepts a true || r.acceptsAny isDirectory l) := by
  cases l with
  | nil => contradiction
  | cons b l => rfl

theorem acceptsAny_append (r : CompiledRule) (isDirectory : Bool) (as : List (List Char))
    {bs : List (List Char)} (hb : bs ≠ []) :
    r.acceptsAny isDirectory (as ++ bs) =
      (r.acceptsAny true as || r.acceptsAny isDirectory bs) := by
  induction as with
  | nil => simp [acceptsAny]
  | cons a as ih =>
    have hn : as ++ bs ≠ [] := by simp [hb]
    rw [List.cons_append, acceptsAny_cons r isDirectory a hn, ih]
    cases as with
    | nil => simp [acceptsAny]
    | cons a' as => rw [acceptsAny_cons r true a (by simp), Bool.or_assoc]

theorem exists_of_acceptsAny {r : CompiledRule} {isDirectory : Bool} {l : List (List Char)}
    (h : r.acceptsAny isDirectory l = true) : ∃ a ∈ l, ∃ b, r.accepts a b = true := by
  induction l with
  | nil => simp [acceptsAny] at h
  | cons a l ih =>
    cases l with
    | nil => exact ⟨a, by simp, isDirectory, h⟩
    | cons a' l =>
      simp only [acceptsAny, Bool.or_eq_true] at h
      rcases h with ha | ht
      · exact ⟨a, by simp, true, ha⟩
      · obtain ⟨c, hc, b, hb⟩ := ih ht
        exact ⟨c, List.mem_cons_of_mem _ hc, b, hb⟩

/-- The texts that a rule is tried on beneath a directory. -/
def candidatesBeneath (r : CompiledRule) (directory : List Char) (segments : List (List Char)) :
    List (List Char) :=
  if r.anchored then (r.candidates segments).map (directory ++ '/' :: ·) else segments

theorem candidates_append (r : CompiledRule) (directory path : List Char) :
    r.candidates (splitAt '/' (directory ++ '/' :: path)) =
      r.candidates (splitAt '/' directory) ++
        r.candidatesBeneath directory (splitAt '/' path) := by
  have hd : splitAt '/' directory ≠ [] := splitWhere_ne_nil _ _
  unfold candidates candidatesBeneath
  rw [splitAt_append]
  split
  · rename_i ha
    rw [List.length_append, List.range_add, List.map_append, List.map_map]
    congr 1
    · apply List.map_congr_left
      intro n hn
      have hlt := List.mem_range.mp hn
      rw [List.take_append_of_le_length (by omega)]
    · rw [candidates, if_pos ha, List.map_map]
      apply List.map_congr_left
      intro n hn
      have hlt := List.mem_range.mp hn
      have ht : (splitAt '/' path).take (n + 1) ≠ [] := by
        intro he
        have := congrArg List.length he
        simp only [List.length_take, List.length_nil] at this
        omega
      simp only [Function.comp_apply, Nat.add_assoc]
      rw [List.take_length_add_append, join_append _ hd ht, join_splitAt]
      simp
  · rfl

/-- A rule matches a path beneath a directory if it matches the directory already, or else by what
the path has beneath it. -/
theorem isMatch_beneath (r : CompiledRule) (directory path : String) (isDirectory : Bool) :
    r.isMatch (directory ++ "/" ++ path) isDirectory =
      (r.isMatch directory true ||
        r.acceptsAny isDirectory
          (r.candidatesBeneath directory.toList (splitAt '/' path.toList))) := by
  have hp : splitAt '/' path.toList ≠ [] := splitWhere_ne_nil _ _
  have hs : (directory ++ "/" ++ path).toList = directory.toList ++ '/' :: path.toList := by
    simp
  unfold isMatch
  rw [hs, candidates_append, acceptsAny_append]
  unfold candidatesBeneath candidates
  split <;> simp [hp]

theorem isMatch_beneath_of_isMatch {r : CompiledRule} {directory : String}
    (h : r.isMatch directory true = true) (path : String) (isDirectory : Bool) :
    r.isMatch (directory ++ "/" ++ path) isDirectory = true := by
  rw [isMatch_beneath, h, Bool.true_or]

/-- An unanchored rule looks at single segments, wherever they stand. -/
theorem isMatch_of_unanchored {r : CompiledRule} {directory path : String} {isDirectory : Bool}
    (ha : r.anchored = false)
    (h : r.isMatch (directory ++ "/" ++ path) isDirectory = true)
    (hd : r.isMatch directory true = false) : r.isMatch path isDirectory = true := by
  rw [isMatch_beneath, hd, Bool.false_or] at h
  simpa [isMatch, candidatesBeneath, candidates, ha] using h

theorem compile_literal {rule : Rule} {r : CompiledRule} (h : rule.compile = .ok r) :
    ∃ more, r.items = r.literal.map (fun c => Glob.Item.one (.only c)) ++ more := by
  unfold Rule.compile at h
  dsimp only at h
  split at h
  · cases h
  · rename_i items hc
    cases h
    exact Glob.compile_literal
      (fun c hm => by simpa using List.all_eq_true.mp List.all_takeWhile c hm)
      ((congrArg Glob.compile List.takeWhile_append_dropWhile).trans hc)

/-- A rule may apply beneath a directory if some path there begins with its literal part. -/
theorem mayApplyBeneath_iff {r : CompiledRule} {directory : String} :
    r.mayApplyBeneath directory = true ↔
      r.anchored = true ∧ ∃ path : String, r.literal <+: (directory ++ "/" ++ path).toList := by
  have hpath (path : String) :
      (directory ++ "/" ++ path).toList = directory.toList ++ ['/'] ++ path.toList := by simp
  simp only [mayApplyBeneath, Bool.and_eq_true, Bool.or_eq_true, List.isPrefixOf_iff_prefix, hpath]
  refine and_congr_right fun _ => ?_
  constructor
  · rintro (⟨rest, h⟩ | h)
    · exact ⟨String.ofList rest, [], by rw [List.append_nil, String.toList_ofList, h]⟩
    · exact ⟨"", h.trans (List.prefix_append _ _)⟩
  · rintro ⟨path, h⟩
    exact List.prefix_or_prefix_of_prefix (List.prefix_append _ _) h

/-- An anchored rule that matches beneath a directory, but not the directory itself, begins as the
directory does. -/
theorem mayApplyBeneath_of_isMatch {rule : Rule} {r : CompiledRule} (hc : rule.compile = .ok r)
    (ha : r.anchored = true) {directory path : String} {isDirectory : Bool}
    (h : r.isMatch (directory ++ "/" ++ path) isDirectory = true)
    (hd : r.isMatch directory true = false) : r.mayApplyBeneath directory = true := by
  rw [isMatch_beneath, hd, Bool.false_or] at h
  obtain ⟨candidate, hm, b, hb⟩ := exists_of_acceptsAny h
  rw [candidatesBeneath, if_pos ha] at hm
  obtain ⟨tail, -, rfl⟩ := List.mem_map.mp hm
  obtain ⟨more, hitems⟩ := compile_literal hc
  simp only [accepts, hitems, Bool.and_eq_true, Bool.or_eq_true] at hb
  refine mayApplyBeneath_iff.mpr ⟨ha, ?_⟩
  rcases hb.2 with hb | ⟨-, hb⟩
  · exact ⟨String.ofList tail, by simpa using Glob.isPrefix_of_accepts hb⟩
  · exact ⟨String.ofList (tail ++ ['/']), by simpa using Glob.isPrefix_of_accepts hb⟩

/-- What an anchored rule matches beneath a directory lies in one that it matches, or in one beneath
which it may apply: there some path begins as the rule does. What any rule matches as a directory it
matches with all that lies beneath. -/
theorem reaches_beneath {rule : Rule} {r : CompiledRule} (compiled : rule.compile = .ok r)
    (directory : String) :
    (r.anchored = true → ∀ (path : String) (isDirectory : Bool),
      r.isMatch (directory ++ "/" ++ path) isDirectory = true →
        r.isMatch directory true = true ∨ r.mayApplyBeneath directory = true) ∧
      (r.isMatch directory true = true → ∀ (path : String) (isDirectory : Bool),
        r.isMatch (directory ++ "/" ++ path) isDirectory = true) ∧
      (r.mayApplyBeneath directory = true ↔
        r.anchored = true ∧ ∃ path : String, r.literal <+: (directory ++ "/" ++ path).toList) := by
  refine ⟨?_, fun h => isMatch_beneath_of_isMatch h, mayApplyBeneath_iff⟩
  intro ha path isDirectory h
  cases hd : r.isMatch directory true with
  | true => exact .inl rfl
  | false => exact .inr (mayApplyBeneath_of_isMatch compiled ha h hd)

/-- A rule for names in directories of `docs` may apply there, and what lies beneath a directory with
such a name is matched with it. -/
theorem reaches_beneath_docs :
    ∃ r, Rule.compile ⟨"docs/*/a", .include⟩ = .ok r ∧ r.anchored = true ∧
      r.isMatch ("docs" ++ "/" ++ "x/a") false = true ∧ r.isMatch "docs" true = false ∧
      r.mayApplyBeneath "docs" = true ∧ r.isMatch ("docs/x/a" ++ "/" ++ "b") false = true := by
  have hc : Rule.compile ⟨"docs/*/a", .include⟩ = .ok
      ⟨"docs/*/a".toList, .include, false, true,
        ['d', 'o', 'c', 's', '/'].map (fun c => .one (.only c)) ++
          [.many (.set true [('/', '/')]), .one (.only '/'), .one (.only 'a')],
        "docs/".toList⟩ := rfl
  refine ⟨_, hc, rfl, ?_⟩
  generalize hr : CompiledRule.mk _ _ _ _ _ _ = r at hc
  have hopens : r.isMatch ("docs" ++ "/" ++ "x/a") false = true := by
    simp [← hr, isMatch, acceptsAny, candidates, accepts, splitAt, splitWhere, List.range_succ,
      Glob.accepts, Glob.Class.has, join]
  have hdocs : r.isMatch "docs" true = false := by
    simp [← hr, isMatch, acceptsAny, candidates, accepts, splitAt, splitWhere, Glob.accepts,
      Glob.Class.has, join]
  have hname : r.isMatch "docs/x/a" true = true := by
    simp [← hr, isMatch, acceptsAny, candidates, accepts, splitAt, splitWhere, List.range_succ,
      Glob.accepts, Glob.Class.has, join]
  have hbelow := (reaches_beneath hc "docs").1 (by rw [← hr]) "x/a" false hopens
  have hwith := (reaches_beneath hc "docs/x/a").2.1 hname "b" false
  exact ⟨hopens, hdocs, hbelow.resolve_left (by simp [hdocs]), hwith⟩

end CompiledRule

/-! ### The last rule that matches -/

namespace RuleSet

theorem compile_of_mem {rules : List Rule} {set : RuleSet} (h : ofRules rules = .ok set)
    {r : CompiledRule} (hr : r ∈ set) : ∃ rule ∈ rules, rule.compile = .ok r := by
  obtain ⟨rule, hm, he⟩ := exists_of_mem_mapM h hr
  exact ⟨rule, (List.mem_filter.mp hm).1, he⟩

theorem excludes_concat (set : RuleSet) (r : CompiledRule) (path : String) (isDirectory : Bool) :
    excludes (set ++ [r]) path isDirectory =
      if r.isMatch path isDirectory then decide (r.effect = .exclude)
      else set.excludes path isDirectory := by
  simp [excludes, List.foldl_append]

/-- No rule after `r` matches, so `r` decides. -/
structure Decides (set : RuleSet) (r : CompiledRule) (path : String) (isDirectory : Bool) :
    Prop where
  matched : r.isMatch path isDirectory = true
  last : ∃ before after, set = before ++ r :: after ∧
    ∀ s ∈ after, s.isMatch path isDirectory = false

theorem Decides.concat {set : RuleSet} {r : CompiledRule} {path : String} {isDirectory : Bool}
    (h : set.Decides r path isDirectory) {s : CompiledRule}
    (hs : s.isMatch path isDirectory = false) : Decides (set ++ [s]) r path isDirectory := by
  obtain ⟨hr, before, after, rfl, hafter⟩ := h
  refine ⟨hr, before, after ++ [s], by simp, ?_⟩
  intro t ht
  rcases List.mem_append.mp ht with ht | ht
  · exact hafter t ht
  · rw [List.mem_singleton.mp ht]
    exact hs

theorem Decides.excludes {set : RuleSet} {r : CompiledRule} {path : String} {isDirectory : Bool}
    (h : set.Decides r path isDirectory) :
    set.excludes path isDirectory = decide (r.effect = .exclude) := by
  obtain ⟨hr, before, after, rfl, hafter⟩ := h
  induction after using List.reverseRecOn with
  | nil => rw [excludes_concat, if_pos hr]
  | append_singleton after s ih =>
    rw [← List.cons_append, ← List.append_assoc, excludes_concat, if_neg]
    · exact ih (fun t ht => hafter t (List.mem_append_left _ ht))
    · simp [hafter s (by simp)]

/-- Either no rule matches, and the path is kept, or one of them decides. -/
theorem decides_or (set : RuleSet) (path : String) (isDirectory : Bool) :
    (∀ r ∈ set, r.isMatch path isDirectory = false) ∧ set.excludes path isDirectory = false ∨
      ∃ r, set.Decides r path isDirectory := by
  induction set using List.reverseRecOn with
  | nil => exact .inl ⟨by simp, rfl⟩
  | append_singleton set r ih =>
    cases hr : r.isMatch path isDirectory with
    | true => exact .inr ⟨r, hr, set, [], rfl, by simp⟩
    | false =>
      rcases ih with ⟨hnone, hkept⟩ | ⟨s, hs⟩
      · refine .inl ⟨?_, by simp [excludes_concat, hr, hkept]⟩
        intro t ht
        rcases List.mem_append.mp ht with ht | ht
        · exact hnone t ht
        · rw [List.mem_singleton.mp ht]
          exact hr
      · exact .inr ⟨s, hs.concat hr⟩

end RuleSet

end DocAtlas.Scan

namespace DocAtlas.Scan.RuleSet

/-! ### Pruned directories -/

theorem excludes_of_prunes {set : RuleSet} {directory : String}
    (h : set.prunes directory = true) : set.excludes directory true = true := by
  simp only [prunes, Bool.and_eq_true] at h
  exact h.1

theorem mayApplyBeneath_of_prunes {set : RuleSet} {directory : String}
    (h : set.prunes directory = true) {r : CompiledRule} (hr : r ∈ set)
    (hi : r.effect = .include) : r.mayApplyBeneath directory = false := by
  simp only [prunes, Bool.and_eq_true, Bool.not_eq_true', List.any_eq_false, decide_eq_true_eq,
    not_and, Bool.not_eq_true] at h
  exact h.2 r hr hi

theorem Decides.mem {set : RuleSet} {r : CompiledRule} {path : String} {isDirectory : Bool}
    (h : set.Decides r path isDirectory) : r ∈ set := by
  obtain ⟨-, before, after, rfl, -⟩ := h
  simp

/-- The rule that decides beneath a directory also decides the directory, if it matches it. -/
theorem Decides.directory {set : RuleSet} {r : CompiledRule} {directory path : String}
    {isDirectory : Bool} (h : set.Decides r (directory ++ "/" ++ path) isDirectory)
    (hd : r.isMatch directory true = true) : set.Decides r directory true := by
  obtain ⟨-, before, after, he, hafter⟩ := h
  refine ⟨hd, before, after, he, ?_⟩
  intro s hs
  cases hm : s.isMatch directory true with
  | false => rfl
  | true =>
    have := CompiledRule.isMatch_beneath_of_isMatch hm path isDirectory
    rw [hafter s hs] at this
    contradiction

/-- In an excluded directory some rule decides every path. -/
theorem exists_decides_beneath {set : RuleSet} {directory : String}
    (h : set.excludes directory true = true) (path : String) (isDirectory : Bool) :
    ∃ r, set.Decides r (directory ++ "/" ++ path) isDirectory := by
  rcases set.decides_or (directory ++ "/" ++ path) isDirectory with ⟨hnone, -⟩ | hr
  · rcases set.decides_or directory true with ⟨-, hkept⟩ | ⟨r, hr⟩
    · rw [hkept] at h
      contradiction
    · have := CompiledRule.isMatch_beneath_of_isMatch hr.matched path isDirectory
      rw [hnone r hr.mem] at this
      contradiction
  · exact hr

/-- What decides to keep a path beneath a pruned directory is no anchored rule. -/
theorem unanchored_of_decides {rules : List Rule} {set : RuleSet} (hc : ofRules rules = .ok set)
    {directory path : String} {isDirectory : Bool} (hp : set.prunes directory = true)
    {r : CompiledRule} (hr : set.Decides r (directory ++ "/" ++ path) isDirectory)
    (hi : r.effect = .include) : r.anchored = false ∧ r.isMatch path isDirectory = true := by
  have hd : r.isMatch directory true = false := by
    cases hm : r.isMatch directory true with
    | false => rfl
    | true =>
      have he := (hr.directory hm).excludes
      rw [excludes_of_prunes hp, hi] at he
      contradiction
  cases ha : r.anchored with
  | false => exact ⟨rfl, CompiledRule.isMatch_of_unanchored ha hr.matched hd⟩
  | true =>
    obtain ⟨rule, -, hrule⟩ := compile_of_mem hc hr.mem
    have hb := CompiledRule.mayApplyBeneath_of_isMatch hrule ha hr.matched hd
    rw [mayApplyBeneath_of_prunes hp hr.mem hi] at hb
    contradiction

theorem Decides.keeps_iff {set : RuleSet} {r : CompiledRule} {path : String} {isDirectory : Bool}
    (h : set.Decides r path isDirectory) :
    set.excludes path isDirectory = false ↔ r.effect = .include := by
  rw [h.excludes]
  cases r.effect <;> simp

/-- The rules keep a path beneath a pruned directory if the last rule that matches it includes
single segments. -/
theorem keeps_beneath_iff {rules : List Rule} {set : RuleSet} (hc : ofRules rules = .ok set)
    {directory : String} (hp : set.prunes directory = true) (path : String) (isDirectory : Bool) :
    set.excludes (directory ++ "/" ++ path) isDirectory = false ↔
      ∃ r, set.Decides r (directory ++ "/" ++ path) isDirectory ∧ r.effect = .include ∧
        r.anchored = false ∧ r.isMatch path isDirectory = true := by
  constructor
  · intro h
    obtain ⟨r, hr⟩ := exists_decides_beneath (excludes_of_prunes hp) path isDirectory
    have hi := hr.keeps_iff.mp h
    exact ⟨r, hr, hi, unanchored_of_decides hc hp hr hi⟩
  · rintro ⟨r, hr, hi, -⟩
    exact hr.keeps_iff.mpr hi

/-- A pruned directory hides a path that the rules keep exactly if the last rule that matches the
path is an unanchored one that includes some segment beneath the directory. Where all rules that
include are anchored it hides none. -/
theorem keeps_beneath_pruned {rules : List Rule} {set : RuleSet}
    (compiled : ofRules rules = .ok set) {directory : String} (pruned : set.prunes directory = true) :
    (∀ (path : String) (isDirectory : Bool),
      set.excludes (directory ++ "/" ++ path) isDirectory = false ↔
        ∃ r, set.Decides r (directory ++ "/" ++ path) isDirectory ∧ r.effect = .include ∧
          r.anchored = false ∧ r.isMatch path isDirectory = true) ∧
      ((∀ r ∈ set, r.effect = .include → r.anchored = true) →
        ∀ (path : String) (isDirectory : Bool),
          set.excludes (directory ++ "/" ++ path) isDirectory = true) := by
  refine ⟨keeps_beneath_iff compiled pruned, ?_⟩
  intro hanchored path isDirectory
  cases h : set.excludes (directory ++ "/" ++ path) isDirectory with
  | true => rfl
  | false =>
    obtain ⟨r, hr, hi, ha, -⟩ := (keeps_beneath_iff compiled pruned path isDirectory).mp h
    rw [hanchored r hr.mem hi] at ha
    contradiction

/-- The rule compiled from a name without wildcards and slashes. -/
def nameRule (effect : Effect) (directoryOnly : Bool) (name : List Char) : CompiledRule :=
  ⟨name, effect, directoryOnly, false, name.map fun c => .one (.only c), name⟩

/-- The rule compiled from all names in a directory. -/
def entriesRule (effect : Effect) (directory : List Char) : CompiledRule :=
  ⟨directory ++ ['/', '*'], effect, false, true,
    (directory ++ ['/']).map (fun c => .one (.only c)) ++ [.many (.set true [('/', '/')])],
    directory ++ ['/']⟩

/-- The rules keep a nested file, although no rule that includes whole paths reaches it. -/
theorem keeps_nested_beneath_pruned :
    ∃ set, ofRules [⟨"build/", .exclude⟩, ⟨"docs/*", .include⟩, ⟨"keep", .include⟩] = .ok set ∧
      set.prunes "build" = true ∧ set.excludes ("build" ++ "/" ++ "a/keep") false = false := by
  have hc : ofRules [⟨"build/", .exclude⟩, ⟨"docs/*", .include⟩, ⟨"keep", .include⟩] =
      .ok [nameRule .exclude true ['b', 'u', 'i', 'l', 'd'],
        entriesRule .include ['d', 'o', 'c', 's'],
        nameRule .include false ['k', 'e', 'e', 'p']] := rfl
  have hp : prunes [nameRule .exclude true ['b', 'u', 'i', 'l', 'd'],
      entriesRule .include ['d', 'o', 'c', 's'],
      nameRule .include false ['k', 'e', 'e', 'p']] "build" = true := by
    simp [nameRule, entriesRule, prunes, excludes, CompiledRule.isMatch, CompiledRule.acceptsAny,
      CompiledRule.candidates, CompiledRule.accepts, CompiledRule.mayApplyBeneath, Text.splitAt,
      Text.splitWhere, Glob.accepts, Glob.Class.has, Text.join, List.isPrefixOf]
  refine ⟨_, hc, hp, ?_⟩
  apply ((keeps_beneath_pruned hc hp).1 "a/keep" false).mpr
  refine ⟨nameRule .include false ['k', 'e', 'e', 'p'], ⟨?_, [_, _], [], rfl, by simp⟩, rfl, rfl,
    ?_⟩
  all_goals
    simp [nameRule, CompiledRule.isMatch, CompiledRule.acceptsAny, CompiledRule.candidates,
      CompiledRule.accepts, Text.splitAt, Text.splitWhere, Glob.accepts, Glob.Class.has]

/-- The rule for `keep.txt` keeps the file, but the walk does not reach it. -/
theorem pruned_hides_kept :
    ∃ set, ofRules [⟨"build/", .exclude⟩, ⟨"keep.txt", .include⟩] = .ok set ∧
      set.prunes "build" = true ∧ set.excludes ("build" ++ "/" ++ "keep.txt") false = false := by
  refine ⟨[nameRule .exclude true ['b', 'u', 'i', 'l', 'd'],
    nameRule .include false ['k', 'e', 'e', 'p', '.', 't', 'x', 't']], rfl, ?_, ?_⟩
  all_goals
    simp [nameRule, prunes, excludes, CompiledRule.isMatch, CompiledRule.acceptsAny,
      CompiledRule.candidates, CompiledRule.accepts, CompiledRule.mayApplyBeneath, Text.splitAt,
      Text.splitWhere, Glob.accepts, Glob.Class.has]

end DocAtlas.Scan.RuleSet
