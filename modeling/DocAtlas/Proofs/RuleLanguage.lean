import DocAtlas.Proofs.FilePaths
import DocAtlas.Proofs.GlobLanguage
import DocAtlas.Proofs.LineReading
import DocAtlas.Proofs.RuleMatching

/-!
What scan rules match, told by the texts that their patterns stand for: single segments, or leading
parts of a path.
-/
namespace DocAtlas

/-- The first segments of a path. -/
def Path.leading (path : String) (k : Nat) : List Char :=
  (Path.joinSegments ((Path.segments path).take k)).toList

end DocAtlas

namespace DocAtlas.Scan
open Text

/-! ### What a rule describes -/

namespace Rule

/-- The pattern without blanks around it, with slashes of one kind. -/
def written (rule : Rule) : List Char := replaceChar '\\' '/' (trim rule.pattern.toList)

/-- The pattern without its outer slashes. -/
def body (rule : Rule) : List Char := (dropEndSlashes rule.written).dropWhile (· == '/')

def IsForDirectories (rule : Rule) : Prop := rule.written.getLast? = some '/'

def IsAnchored (rule : Rule) : Prop := rule.written.head? = some '/' ∨ '/' ∈ rule.body

/-- The segment at place `k` of a path is one of the texts. The last one only counts for rules
about directories if the path leads to a directory. -/
structure FitsSegment (rule : Rule) (path : String) (isDirectory : Bool) (k : Nat) (s : String) :
    Prop where
  place : (Path.segments path)[k]? = some s
  counts : rule.IsForDirectories → k + 1 < (Path.segments path).length ∨ isDirectory = true
  found : s.toList ∈ Glob.language rule.body

/-- The first `k` segments of a path are one of the texts, or they are a directory that is one with
a slash behind it. All of them only count for rules about directories if the path leads to one. -/
structure FitsLeading (rule : Rule) (path : String) (isDirectory : Bool) (k : Nat) : Prop where
  first : 1 ≤ k
  within : k ≤ (Path.segments path).length
  counts : rule.IsForDirectories → k < (Path.segments path).length ∨ isDirectory = true
  found : Path.leading path k ∈ Glob.language rule.body ∨
    (k < (Path.segments path).length ∨ isDirectory = true) ∧
      Path.leading path k ++ ['/'] ∈ Glob.language rule.body

def Describes (rule : Rule) (path : String) (isDirectory : Bool) : Prop :=
  rule.IsAnchored ∧ (∃ k, rule.FitsLeading path isDirectory k) ∨
    ¬rule.IsAnchored ∧ ∃ k s, rule.FitsSegment path isDirectory k s

end Rule

/-! ### Candidates in their places -/

namespace CompiledRule

theorem acceptsAny_iff {r : CompiledRule} {isDirectory : Bool} {l : List (List Char)} :
    r.acceptsAny isDirectory l = true ↔
      ∃ k c, l[k]? = some c ∧ r.accepts c (decide (k + 1 < l.length) || isDirectory) = true := by
  induction l with
  | nil => simp [acceptsAny]
  | cons a l ih =>
    cases l with
    | nil =>
      constructor
      · intro h
        exact ⟨0, a, rfl, h⟩
      · rintro ⟨k, c, hk, h⟩
        cases k with
        | zero => cases hk; exact h
        | succ k => simp at hk
    | cons b l =>
      rw [acceptsAny_cons r isDirectory a (List.cons_ne_nil b l), Bool.or_eq_true, ih]
      constructor
      · rintro (h | ⟨k, c, hk, h⟩)
        · exact ⟨0, a, rfl, by simpa using h⟩
        · exact ⟨k + 1, c, hk, by simpa using h⟩
      · rintro ⟨k, c, hk, h⟩
        cases k with
        | zero =>
          cases hk
          exact .inl (by simpa using h)
        | succ k => exact .inr ⟨k, c, hk, by simpa using h⟩

theorem accepts_iff {r : CompiledRule} {c : List Char} {isDirectory : Bool} :
    r.accepts c isDirectory = true ↔
      (r.directoryOnly = true → isDirectory = true) ∧
        (c ∈ Glob.accepted r.items ∨
          r.anchored = true ∧ isDirectory = true ∧ c ++ ['/'] ∈ Glob.accepted r.items) := by
  simp only [accepts, Bool.and_eq_true, Bool.or_eq_true, Bool.not_eq_true', Glob.mem_accepted,
    and_assoc]
  cases r.directoryOnly <;> simp

theorem getElem?_candidates {r : CompiledRule} (ha : r.anchored = true)
    {segments : List (List Char)} {k : Nat} {c : List Char} :
    (r.candidates segments)[k]? = some c ↔
      k < segments.length ∧ join ['/'] (segments.take (k + 1)) = c := by
  rw [candidates, if_pos ha, List.getElem?_map, Option.map_eq_some_iff]
  constructor
  · rintro ⟨n, hn, hc⟩
    obtain ⟨hk, rfl⟩ := List.getElem?_eq_some_iff.mp hn
    rw [List.getElem_range] at hc
    exact ⟨by simpa using hk, hc⟩
  · rintro ⟨hk, hc⟩
    exact ⟨k, List.getElem?_range hk, hc⟩

section

variable {r : CompiledRule} {path : String} {isDirectory : Bool}

theorem isMatch_segments (ha : r.anchored = false) :
    r.isMatch path isDirectory = true ↔ ∃ k s, (Path.segments path)[k]? = some s ∧
      r.accepts s.toList (decide (k + 1 < (Path.segments path).length) || isDirectory) = true := by
  rw [isMatch, candidates, if_neg (by simp [ha]), acceptsAny_iff, ← Path.map_toList_segments,
    List.length_map]
  constructor
  · rintro ⟨k, c, hk, h⟩
    rw [List.getElem?_map, Option.map_eq_some_iff] at hk
    obtain ⟨s, hs, rfl⟩ := hk
    exact ⟨k, s, hs, h⟩
  · rintro ⟨k, s, hk, h⟩
    exact ⟨k, s.toList, by rw [List.getElem?_map, hk, Option.map_some], h⟩

theorem isMatch_leading (ha : r.anchored = true) :
    r.isMatch path isDirectory = true ↔ ∃ k < (Path.segments path).length,
      r.accepts (Path.leading path (k + 1))
        (decide (k + 1 < (Path.segments path).length) || isDirectory) = true := by
  have hleading (k : Nat) : Path.leading path k =
      join ['/'] (((Path.segments path).map String.toList).take k) := by
    rw [Path.leading, Path.joinSegments, String.toList_intercalate, List.map_take]
    rfl
  have hlength : (r.candidates ((Path.segments path).map String.toList)).length =
      (Path.segments path).length := by
    simp [candidates, ha]
  rw [isMatch, acceptsAny_iff, ← Path.map_toList_segments, hlength]
  simp only [getElem?_candidates ha, List.length_map, hleading]
  constructor
  · rintro ⟨k, c, ⟨hk, rfl⟩, h⟩
    exact ⟨k, hk, h⟩
  · rintro ⟨k, hk, h⟩
    exact ⟨k, _, ⟨hk, rfl⟩, h⟩

end

end CompiledRule

/-! ### What a rule compiles to -/

namespace Rule

theorem dropEndSlashes_eq_self {s : List Char} (h : s.getLast? ≠ some '/') :
    dropEndSlashes s = s := by
  rw [← List.head?_reverse] at h
  cases hs : s.reverse with
  | nil => rw [dropEndSlashes, hs, List.dropWhile_nil, ← hs, List.reverse_reverse]
  | cons c rest =>
    rw [hs, List.head?_cons, ne_eq, Option.some.injEq] at h
    rw [dropEndSlashes, hs, List.dropWhile_cons_of_neg (by simpa using h), ← hs,
      List.reverse_reverse]

theorem dropEndSlashes_isPrefix (s : List Char) : dropEndSlashes s <+: s := by
  rw [dropEndSlashes, ← List.reverse_suffix, List.reverse_reverse]
  exact List.dropWhile_suffix _

theorem not_bracket_of_mem_body {rule : Rule} (h : '[' ∉ rule.pattern.toList) :
    '[' ∉ rule.body := by
  intro hm
  have hwritten : '[' ∈ rule.written :=
    (dropEndSlashes_isPrefix _).subset ((List.dropWhile_suffix _).subset hm)
  obtain ⟨c, hc, he⟩ := List.mem_map.mp hwritten
  have hself : c = '[' := by
    split at he
    · exact absurd he (by decide)
    · exact he
  exact h ((trim_isInfix _).subset (hself ▸ hc))

/-- What a rule compiles to, if its items have been read. -/
def compiledWith (rule : Rule) (items : List Glob.Item) : CompiledRule where
  pattern := rule.body
  effect := rule.effect
  directoryOnly := rule.written.getLast? == some '/'
  anchored := (dropEndSlashes rule.written).head? == some '/' || rule.body.contains '/'
  items := items
  literal := rule.body.takeWhile (!isWildcard ·)

theorem compile_eq (rule : Rule) :
    rule.compile = match Glob.compile rule.body with
      | .error fault => .error ⟨Glob.expand rule.body, fault⟩
      | .ok items => .ok (rule.compiledWith items) := by
  have hbare : (if (rule.written.getLast? == some '/') = true then dropEndSlashes rule.written
      else rule.written) = dropEndSlashes rule.written := by
    split
    · rfl
    · next hlast => exact (dropEndSlashes_eq_self (by simpa using hlast)).symm
  unfold compiledWith
  cases hitems : Glob.compile rule.body
  all_goals
    unfold body at hitems ⊢
    unfold written at hbare hitems ⊢
    unfold compile
    simp only [hbare, hitems]

theorem exists_items {rule : Rule} {r : CompiledRule} (h : rule.compile = .ok r) :
    ∃ items, Glob.compile rule.body = .ok items ∧ r = rule.compiledWith items := by
  rw [compile_eq] at h
  cases hitems : Glob.compile rule.body with
  | error fault =>
    rw [hitems] at h
    cases h
  | ok items =>
    rw [hitems] at h
    exact ⟨items, rfl, (Except.ok.inj h).symm⟩

/-- What a rule and its compiled form have in common. -/
structure CompilesTo (rule : Rule) (r : CompiledRule) : Prop where
  compiled : rule.compile = .ok r
  directories : r.directoryOnly = true ↔ rule.IsForDirectories
  anchored : rule.body ≠ [] → (r.anchored = true ↔ rule.IsAnchored)
  texts : Glob.accepted r.items = Glob.language rule.body

theorem exists_compilesTo {rule : Rule} (h : '[' ∉ rule.pattern.toList) :
    ∃ r, rule.CompilesTo r := by
  obtain ⟨items, hitems, htexts⟩ := Glob.exists_compile (not_bracket_of_mem_body h)
  refine ⟨rule.compiledWith items, by rw [compile_eq, hitems], ?_, ?_, htexts⟩
  · simp [compiledWith, IsForDirectories]
  · intro hbody
    have hbare : dropEndSlashes rule.written ≠ [] := by
      intro he
      rw [body, he] at hbody
      exact hbody rfl
    have hhead : (dropEndSlashes rule.written).head? = rule.written.head? := by
      obtain ⟨tail, htail⟩ := dropEndSlashes_isPrefix rule.written
      conv_rhs => rw [← htail]
      exact (List.head?_append_of_ne_nil _ hbare).symm
    simp [compiledWith, IsAnchored, hhead]

/-! ### Compiled rules match what their patterns describe -/

section

variable {rule : Rule} {path : String} {isDirectory : Bool}

theorem leading_ne_nil (hpath : ∀ s ∈ Path.segments path, s ≠ "") {k : Nat} (hk : 1 ≤ k) :
    Path.leading path k ≠ [] := by
  intro hempty
  have hne : (Path.segments path).take k ≠ [] := by
    rw [ne_eq, List.take_eq_nil_iff, not_or]
    exact ⟨Nat.one_le_iff_ne_zero.mp hk, Path.segments_ne_nil path⟩
  have hparts := Path.segments_joinSegments hne
    fun s hs => Path.no_slash_of_mem_segments (List.mem_of_mem_take hs)
  rw [String.toList_eq_nil_iff.mp hempty] at hparts
  have hmem : "" ∈ (Path.segments path).take k := by
    rw [← hparts]
    exact List.mem_singleton_self _
  exact hpath "" (List.mem_of_mem_take hmem) rfl

/-- A rule without a pattern matches nothing. -/
theorem not_fits_of_empty (hpath : ∀ s ∈ Path.segments path, s ≠ "") (hbody : rule.body = []) :
    (∀ k, ¬rule.FitsLeading path isDirectory k) ∧
      ∀ k s, ¬rule.FitsSegment path isDirectory k s := by
  constructor
  · intro k h
    have hfound := h.found
    rw [hbody] at hfound
    rcases hfound with hl | ⟨-, hl⟩
    · exact leading_ne_nil hpath h.first hl
    · exact List.append_ne_nil_of_right_ne_nil _ (List.cons_ne_nil _ _) hl
  · intro k s h
    have hfound := h.found
    rw [hbody] at hfound
    exact hpath s (List.mem_of_getElem? h.place) (String.toList_eq_nil_iff.mp hfound)

theorem CompilesTo.isMatch_leading_iff {r : CompiledRule} (h : rule.CompilesTo r)
    (ha : r.anchored = true) :
    r.isMatch path isDirectory = true ↔ ∃ k, rule.FitsLeading path isDirectory k := by
  rw [CompiledRule.isMatch_leading ha]
  simp only [CompiledRule.accepts_iff, h.texts, h.directories, ha, Bool.or_eq_true,
    decide_eq_true_eq, true_and]
  constructor
  · rintro ⟨k, hk, hcounts, hfound⟩
    exact ⟨k + 1, Nat.le_add_left 1 k, hk, hcounts, hfound⟩
  · rintro ⟨k, hfirst, hwithin, hcounts, hfound⟩
    obtain ⟨j, rfl⟩ := Nat.exists_eq_add_of_le' hfirst
    exact ⟨j, hwithin, hcounts, hfound⟩

theorem CompilesTo.isMatch_segment_iff {r : CompiledRule} (h : rule.CompilesTo r)
    (ha : r.anchored = false) :
    r.isMatch path isDirectory = true ↔ ∃ k s, rule.FitsSegment path isDirectory k s := by
  rw [CompiledRule.isMatch_segments ha]
  simp only [CompiledRule.accepts_iff, h.texts, h.directories, ha, Bool.or_eq_true,
    decide_eq_true_eq, Bool.false_eq_true, false_and, or_false]
  constructor
  · rintro ⟨k, s, hplace, hcounts, hfound⟩
    exact ⟨k, s, hplace, hcounts, hfound⟩
  · rintro ⟨k, s, hplace, hcounts, hfound⟩
    exact ⟨k, s, hplace, hcounts, hfound⟩

end

/-- A rule without brackets compiles, and it matches the paths that it describes. -/
theorem isMatch_iff_describes {rule : Rule} (plain : '[' ∉ rule.pattern.toList) :
    ∃ r, rule.compile = .ok r ∧ ∀ (path : String) (isDirectory : Bool),
      (∀ s ∈ Path.segments path, s ≠ "") →
        (r.isMatch path isDirectory = true ↔ rule.Describes path isDirectory) := by
  obtain ⟨r, hr⟩ := exists_compilesTo plain
  refine ⟨r, hr.compiled, fun path isDirectory hpath => ?_⟩
  by_cases hbody : rule.body = []
  · obtain ⟨hleading, hsegment⟩ := not_fits_of_empty hpath hbody
    refine iff_of_false ?_ ?_
    · cases ha : r.anchored with
      | true =>
        rw [hr.isMatch_leading_iff ha]
        exact fun ⟨k, h⟩ => hleading k h
      | false =>
        rw [hr.isMatch_segment_iff ha]
        exact fun ⟨k, s, h⟩ => hsegment k s h
    · rintro (⟨-, k, h⟩ | ⟨-, k, s, h⟩)
      · exact hleading k h
      · exact hsegment k s h
  · have hsame := hr.anchored hbody
    cases ha : r.anchored with
    | true =>
      have hanchored : rule.IsAnchored := hsame.mp ha
      rw [hr.isMatch_leading_iff ha]
      simp only [Describes, hanchored, true_and, not_true_eq_false, false_and, or_false]
    | false =>
      have hanchored : ¬rule.IsAnchored := fun h => by simp [hsame.mpr h] at ha
      rw [hr.isMatch_segment_iff ha]
      simp only [Describes, hanchored, not_false_eq_true, true_and, false_and, false_or]

/-- A rule about directories matches what lies in such a directory, however deep it lies. -/
theorem isMatch_in_deep_directory :
    ∃ r, Rule.compile ⟨"/**/b/", .exclude⟩ = .ok r ∧ r.isMatch "x/y/b/z" false = true := by
  have hplain : '[' ∉ (⟨"/**/b/", .exclude⟩ : Rule).pattern.toList := by decide
  obtain ⟨r, hr, h⟩ := isMatch_iff_describes hplain
  have hfound : "x/y/b".toList ∈ Glob.language "**/b".toList :=
    ⟨"x/y/".toList, .inr (by decide), ['b'], ⟨['b'], rfl, [], rfl, rfl⟩, rfl⟩
  refine ⟨r, hr, (h "x/y/b/z" false (by decide)).mpr (.inl ⟨.inl (by decide), 3, ?_⟩)⟩
  exact ⟨by decide, by decide, fun _ => .inl (by decide), .inl hfound⟩

end Rule

end DocAtlas.Scan
