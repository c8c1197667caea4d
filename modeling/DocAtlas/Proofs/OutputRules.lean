import DocAtlas.Cli.Execute
import DocAtlas.Proofs.GlobLiterals
import DocAtlas.Proofs.RuleReading

/-!
The rule that keeps the pages of earlier runs out of a scan. The names on the way to the pages are
its pattern as they are, so it covers the place of the pages and nothing else if and only if none of
their characters has a meaning of its own in a pattern.
-/
namespace DocAtlas

open Text

/-! ### Texts of paths -/

namespace Path

/-- Every segment is a name. -/
def IsNamed (s : List Char) : Prop := ∀ piece ∈ splitAt '/' s, piece ≠ []

theorem not_named_nil : ¬IsNamed [] := fun h => h [] (by simp [splitAt, splitWhere]) rfl

theorem isNamed_append {a b : List Char} : IsNamed (a ++ '/' :: b) ↔ IsNamed a ∧ IsNamed b := by
  rw [IsNamed, splitAt_append, List.forall_mem_append]
  rfl

theorem isNamed_toList {path : String} :
    IsNamed path.toList ↔ ∀ s ∈ segments path, s ≠ "" := by
  rw [IsNamed, ← map_toList_segments, List.forall_mem_map]
  simp only [ne_eq, String.toList_eq_nil_iff]

section

variable {s : List Char} (h : IsNamed s)
include h

theorem IsNamed.head_ne : s.head? ≠ some '/' := by
  intro hs
  obtain ⟨rest, rfl⟩ := List.head?_eq_some_iff.mp hs
  exact not_named_nil (isNamed_append.mp (show IsNamed ([] ++ '/' :: rest) from h)).1

theorem IsNamed.last_ne : s.getLast? ≠ some '/' := by
  intro hs
  obtain ⟨front, rfl⟩ := List.getLast?_eq_some_iff.mp hs
  exact not_named_nil (isNamed_append.mp h).2

theorem IsNamed.no_slashes : ¬['/', '/'] <:+: s := by
  rintro ⟨a, b, rfl⟩
  rw [List.append_assoc, List.cons_append, isNamed_append] at h
  exact h.2.head_ne rfl

theorem IsNamed.no_slashes_behind : ¬['/', '/'] <:+: s ++ ['/'] := by
  rintro ⟨a, b, he⟩
  rcases List.eq_nil_or_concat b with rfl | ⟨rest, c, rfl⟩
  · have hsplit : (a ++ ['/']) ++ ['/'] = s ++ ['/'] := by simpa using he
    obtain ⟨rfl, -⟩ := List.append_inj' hsplit rfl
    exact h.last_ne List.getLast?_concat
  · have hsplit : (a ++ ['/', '/'] ++ rest) ++ [c] = s ++ ['/'] := by simpa using he
    obtain ⟨rfl, -⟩ := List.append_inj' hsplit rfl
    exact h.no_slashes ⟨a, rest, rfl⟩

end

/-- Another path with as many names. -/
structure IsVariant (s t : List Char) : Prop where
  named : IsNamed t
  depth : (splitAt '/' t).length = (splitAt '/' s).length
  other : t ≠ s

/-- Where a character is put into a name, or in place of some of its characters, there is still a
name. -/
theorem IsNamed.variant {before old after : List Char} {c : Char}
    (h : IsNamed (before ++ (old ++ after))) (name : '/' ∉ old) (slash : c ≠ '/')
    (other : old ≠ [c]) : IsVariant (before ++ (old ++ after)) (before ++ c :: after) := by
  obtain ⟨first, x, y, rest, hsplit⟩ := exists_splitAt_between '/' before after
  have hold := hsplit old name
  have hnew := hsplit [c] (by simpa using Ne.symm slash)
  rw [List.singleton_append] at hnew
  constructor
  · rw [IsNamed, hold, List.forall_mem_append, List.forall_mem_cons] at h
    rw [IsNamed, hnew, List.forall_mem_append, List.forall_mem_cons]
    exact ⟨h.1, by simp, h.2.2⟩
  · rw [hold, hnew, List.length_append, List.length_append, List.length_cons, List.length_cons]
  · intro he
    rw [List.append_cancel_left_eq, ← List.singleton_append, List.append_cancel_right_eq] at he
    exact other he.symm

theorem IsNamed.beside {s t : List Char} (h : IsNamed s) (hbeside : Glob.Beside s t) :
    IsVariant s t := by
  obtain ⟨before, old, after, c, rfl, rfl, name, slash, other, -⟩ := hbeside
  exact h.variant name slash other

/-- What stands beside a path with a slash behind it is another path with a slash behind it. -/
theorem IsNamed.beside_slash {s t : List Char} (h : IsNamed s)
    (hbeside : Glob.Beside (s ++ ['/']) t) : ∃ u, t = u ++ ['/'] ∧ IsVariant s u := by
  obtain ⟨before, old, after, c, he, rfl, name, slash, other, inner⟩ := hbeside
  rcases List.eq_nil_or_concat after with rfl | ⟨rest, d, rfl⟩
  · rcases List.eq_nil_or_concat old with rfl | ⟨rest, d, rfl⟩
    · exact absurd inner (by simp)
    · rw [List.append_nil, List.concat_eq_append, ← List.append_assoc] at he
      obtain rfl := List.singleton_inj.mp (List.append_inj' he rfl).2
      exact absurd (by simp) name
  · rw [List.concat_eq_append, ← List.append_assoc, ← List.append_assoc] at he
    obtain ⟨rfl, hlast⟩ := List.append_inj' he rfl
    obtain rfl := List.singleton_inj.mp hlast
    rw [List.append_assoc] at h ⊢
    exact ⟨before ++ c :: rest, by simp, h.variant name slash other⟩

end Path

/-! ### Matching a path as a whole -/

theorem Path.leading_length (path : String) :
    Path.leading path (Path.segments path).length = path.toList := by
  rw [Path.leading, List.take_length, Path.joinSegments_segments]

/-- What an anchored rule accepts it matches as a directory. -/
theorem Scan.CompiledRule.isMatch_whole {r : CompiledRule} (ha : r.anchored = true)
    {path : String} (h : path.toList ∈ Glob.accepted r.items ∨
      path.toList ++ ['/'] ∈ Glob.accepted r.items) : r.isMatch path true = true := by
  have hpos := List.length_pos_of_ne_nil (Path.segments_ne_nil path)
  refine (isMatch_leading ha).mpr ⟨(Path.segments path).length - 1, by omega, ?_⟩
  rw [Nat.sub_add_cancel hpos, Path.leading_length, Bool.or_true, accepts_iff]
  exact ⟨fun _ => rfl, h.imp_right fun h => ⟨ha, rfl, h⟩⟩

namespace Cli
open Scan

/-! ### The pattern of the rule -/

/-- The rule that is meant to cover the place below a root to which the names lead. -/
def outputRule (parts : List String) : Rule :=
  ⟨"/" ++ Path.joinSegments parts ++ "/", .exclude⟩

theorem outputRules_below (root : Disk.Place) {parts : List String} (inside : parts ≠ []) :
    outputRules root (root ++ parts) = [outputRule parts] := by
  have hbelow : below? root (root ++ parts) = some parts := by
    rw [below?, if_pos (List.isPrefixOf_iff_prefix.mpr (List.prefix_append _ _)), List.drop_left]
  rw [outputRules, hbelow]
  cases parts with
  | nil => exact absurd rfl inside
  | cons part rest => rfl

/-- The names as they are written in the pattern. -/
def nameOf (parts : List String) : List Char := (Path.joinSegments parts).toList

section

variable {parts : List String}

theorem written_outputRule :
    (outputRule parts).written = '/' :: replaceChar '\\' '/' (nameOf parts) ++ ['/'] := by
  have hblank : isBlank '/' = false := by decide
  have htrim : trim ('/' :: (nameOf parts ++ ['/'])) = '/' :: (nameOf parts ++ ['/']) := by
    simp [trim, trimStart, trimEnd, hblank]
  have hpattern : (outputRule parts).pattern.toList = '/' :: (nameOf parts ++ ['/']) := by
    simp [outputRule, nameOf]
  rw [Rule.written, hpattern, htrim]
  simp [replaceChar]

theorem dropEndSlashes_slash (s : List Char) : dropEndSlashes (s ++ ['/']) = dropEndSlashes s := by
  simp [dropEndSlashes]

variable (parts) in
/-- Of the pattern without the slashes at its end nothing is left, or it begins with a slash. -/
theorem bare_outputRule :
    dropEndSlashes (outputRule parts).written = [] ∨
      ∃ rest, dropEndSlashes (outputRule parts).written = '/' :: rest ∧
        rest.length ≤ (nameOf parts).length := by
  rw [written_outputRule, dropEndSlashes_slash]
  rcases List.prefix_cons_iff.mp (Rule.dropEndSlashes_isPrefix
    ('/' :: replaceChar '\\' '/' (nameOf parts))) with hnil | ⟨rest, he, hrest⟩
  · exact .inl hnil
  · refine .inr ⟨rest, he, hrest.length_le.trans ?_⟩
    rw [replaceChar, List.length_map]

theorem length_body_outputRule : (outputRule parts).body.length ≤ (nameOf parts).length := by
  rw [Rule.body]
  rcases bare_outputRule parts with hnil | ⟨rest, he, hrest⟩
  · simp [hnil]
  · rw [he, List.dropWhile_cons_of_pos (by simp)]
    exact (List.dropWhile_suffix _).length_le.trans hrest

/-- The rule is anchored unless its pattern has nothing but slashes. -/
theorem anchored_outputRule {items : List Glob.Item}
    (h : ((outputRule parts).compiledWith items).anchored = false) :
    (outputRule parts).body = [] := by
  rcases bare_outputRule parts with hnil | ⟨rest, he, -⟩
  · rw [Rule.body, hnil, List.dropWhile_nil]
  · simp [Rule.compiledWith, he] at h

end

/-! ### What the rule should cover -/

/-- The path leads to the place that the names lead to, as a directory, or beneath it. -/
def Within (parts : List String) (path : String) (isDirectory : Bool) : Prop :=
  parts <+: Path.segments path ∧ (parts.length < (Path.segments path).length ∨ isDirectory = true)

/-- The rule matches that place and what lies beneath it, and nothing else. -/
def Covers (r : CompiledRule) (parts : List String) : Prop :=
  ∀ (path : String) (isDirectory : Bool), (∀ s ∈ Path.segments path, s ≠ "") →
    (r.isMatch path isDirectory = true ↔ Within parts path isDirectory)

section

variable {parts : List String} (inside : parts ≠ []) (names : ∀ s ∈ parts, s ≠ "" ∧ '/' ∉ s.toList)
include inside names

theorem segments_parts : Path.segments (Path.joinSegments parts) = parts :=
  Path.segments_joinSegments inside fun s hs => (names s hs).2

theorem isNamed_nameOf : Path.IsNamed (nameOf parts) := by
  rw [nameOf, Path.isNamed_toList, segments_parts inside names]
  exact fun s hs => (names s hs).1

theorem not_prefix_of_variant {t : List Char} (h : Path.IsVariant (nameOf parts) t) :
    ¬parts <+: Path.segments (String.ofList t) := by
  intro hbegins
  have hlength : parts.length = (Path.segments (String.ofList t)).length := by
    have hparts := congrArg List.length (segments_parts inside names)
    have hdepth := h.depth
    rw [nameOf, ← Path.map_toList_segments, List.length_map, hparts] at hdepth
    rw [← hdepth, ← List.length_map (f := String.toList), Path.map_toList_segments,
      String.toList_ofList]
  apply h.other
  rw [nameOf, hbegins.eq_of_length hlength, Path.joinSegments_segments, String.toList_ofList]

end

/-! ### Rules that cover their place -/

section

variable {parts : List String} {items : List Glob.Item}
  (covers : Covers ((outputRule parts).compiledWith items) parts)
include covers

/-- What the rule accepts as a whole path begins with the names. -/
theorem prefix_of_accepted (ha : ((outputRule parts).compiledWith items).anchored = true)
    {path : String} (named : ∀ s ∈ Path.segments path, s ≠ "")
    (h : path.toList ∈ Glob.accepted items ∨ path.toList ++ ['/'] ∈ Glob.accepted items) :
    parts <+: Path.segments path :=
  ((covers path true named).mp (CompiledRule.isMatch_whole ha h)).1

variable (inside : parts ≠ []) (names : ∀ s ∈ parts, s ≠ "" ∧ '/' ∉ s.toList)
include inside names

theorem isMatch_of_covers :
    ((outputRule parts).compiledWith items).isMatch (Path.joinSegments parts) true = true := by
  have hseg := segments_parts inside names
  refine (covers _ true ?_).mpr ⟨?_, .inr rfl⟩
  · rw [hseg]
    exact fun s hs => (names s hs).1
  · rw [hseg]

/-- A pattern of nothing but slashes matches no names. -/
theorem anchored_of_covers (hitems : Glob.Spells (outputRule parts).body items) :
    ((outputRule parts).compiledWith items).anchored = true := by
  by_contra ha
  rw [Bool.not_eq_true] at ha
  rw [anchored_outputRule ha] at hitems
  obtain ⟨k, s, hk, hs⟩ :=
    (CompiledRule.isMatch_segments ha).mp (isMatch_of_covers covers inside names)
  rw [segments_parts inside names] at hk
  obtain ⟨-, hs | ⟨ha', -⟩⟩ := CompiledRule.accepts_iff.mp hs
  · change s.toList ∈ Glob.accepted items at hs
    rw [hitems.accepted_of_literal Glob.isLiteral_nil] at hs
    exact (names s (List.mem_of_getElem? hk)).1 (String.toList_eq_nil_iff.mp hs)
  · rw [ha] at ha'
    cases ha'

/-- The names themselves are accepted, with a slash behind them or without. -/
theorem accepted_of_covers (ha : ((outputRule parts).compiledWith items).anchored = true) :
    nameOf parts ∈ Glob.accepted items ∨ nameOf parts ++ ['/'] ∈ Glob.accepted items := by
  have hseg := segments_parts inside names
  obtain ⟨k, hk, hs⟩ :=
    (CompiledRule.isMatch_leading ha).mp (isMatch_of_covers covers inside names)
  obtain ⟨-, hs⟩ := CompiledRule.accepts_iff.mp hs
  have hfound : Path.leading (Path.joinSegments parts) (k + 1) ∈ Glob.accepted items ∨
      Path.leading (Path.joinSegments parts) (k + 1) ++ ['/'] ∈ Glob.accepted items :=
    hs.imp_right fun h => h.2.2
  have hlast : k + 1 = (Path.segments (Path.joinSegments parts)).length := by
    by_contra hne
    rw [hseg] at hk hne
    have htake : Path.segments (Path.joinSegments (parts.take (k + 1))) = parts.take (k + 1) := by
      refine Path.segments_joinSegments ?_ fun s hs => (names s (List.mem_of_mem_take hs)).2
      rw [ne_eq, List.take_eq_nil_iff, not_or]
      exact ⟨Nat.succ_ne_zero k, inside⟩
    rw [Path.leading, hseg] at hfound
    have hbegins := prefix_of_accepted covers ha (by
      rw [htake]
      exact fun s hs => (names s (List.mem_of_mem_take hs)).1) hfound
    rw [htake] at hbegins
    have hlength := hbegins.length_le
    rw [List.length_take] at hlength
    omega
  rwa [hlast, Path.leading_length] at hfound

/-- Other paths with as many names are not. -/
theorem not_accepted_of_covers (ha : ((outputRule parts).compiledWith items).anchored = true)
    {t : List Char} (h : Path.IsVariant (nameOf parts) t) :
    t ∉ Glob.accepted items ∧ t ++ ['/'] ∉ Glob.accepted items := by
  rw [← not_or]
  intro hfound
  apply not_prefix_of_variant inside names h
  refine prefix_of_accepted covers ha ?_ (by rwa [String.toList_ofList])
  rw [← Path.isNamed_toList, String.toList_ofList]
  exact h.named

/-- So the pattern is the names, and they are literal. -/
theorem literal_of_covers (hitems : Glob.Spells (outputRule parts).body items) :
    (outputRule parts).body = nameOf parts ∧ Glob.IsLiteral (nameOf parts) := by
  have ha := anchored_of_covers covers inside names hitems
  have hnamed := isNamed_nameOf inside names
  have hlength : (outputRule parts).body.length ≤ (nameOf parts).length := length_body_outputRule
  rcases accepted_of_covers covers inside names ha with hs | hs
  · rcases hitems.short_or_beside hs hnamed.no_slashes with hshort | ⟨t, ht, hbeside⟩ | ⟨he, hl⟩
    · omega
    · exact absurd ht (not_accepted_of_covers covers inside names ha (hnamed.beside hbeside)).1
    · rw [he]
      exact ⟨rfl, hl⟩
  · rcases hitems.short_or_beside hs hnamed.no_slashes_behind with
      hshort | ⟨t, ht, hbeside⟩ | ⟨he, -⟩
    · rw [List.length_append] at hshort
      omega
    · obtain ⟨u, rfl, hu⟩ := hnamed.beside_slash hbeside
      exact absurd ht (not_accepted_of_covers covers inside names ha hu).2
    · rw [← he, List.length_append, List.length_singleton] at hlength
      omega

end

/-! ### Names that mean themselves -/

theorem written_of_names {parts : List String} (backslash : '\\' ∉ nameOf parts) :
    (outputRule parts).written = '/' :: nameOf parts ++ ['/'] := by
  have hsame : replaceChar '\\' '/' (nameOf parts) = nameOf parts := by
    rw [replaceChar]
    refine (List.map_congr_left ?_).trans (List.map_id _)
    intro c hc
    rw [if_neg]
    · rfl
    · rw [beq_iff_eq]
      rintro rfl
      exact backslash hc
  rw [written_outputRule, hsame]

section

variable {parts : List String} (inside : parts ≠ [])
  (names : ∀ s ∈ parts, s ≠ "" ∧ '/' ∉ s.toList)
include inside names

/-- The first segments of a path are the names if their text is. -/
theorem leading_eq_nameOf_iff {path : String} {k : Nat} :
    Path.leading path (k + 1) = nameOf parts ↔ (Path.segments path).take (k + 1) = parts := by
  constructor
  · intro h
    have htake : Path.segments (Path.joinSegments ((Path.segments path).take (k + 1))) =
        (Path.segments path).take (k + 1) := by
      refine Path.segments_joinSegments ?_
        fun s hs => Path.no_slash_of_mem_segments (List.mem_of_mem_take hs)
      rw [ne_eq, List.take_eq_nil_iff, not_or]
      exact ⟨Nat.succ_ne_zero k, Path.segments_ne_nil path⟩
    rw [← htake, String.toList_inj.mp h, segments_parts inside names]
  · rintro rfl
    rfl

variable (backslash : '\\' ∉ nameOf parts)
include backslash

theorem bare_of_names : dropEndSlashes (outputRule parts).written = '/' :: nameOf parts := by
  have hnamed := isNamed_nameOf inside names
  rw [written_of_names backslash, dropEndSlashes_slash]
  apply Rule.dropEndSlashes_eq_self
  cases hname : nameOf parts with
  | nil => exact absurd (hname ▸ hnamed) Path.not_named_nil
  | cons c rest =>
    rw [List.getLast?_cons_cons, ← hname]
    exact hnamed.last_ne

theorem body_of_names : (outputRule parts).body = nameOf parts := by
  have hhead := (isNamed_nameOf inside names).head_ne
  rw [Rule.body, bare_of_names inside names backslash, List.dropWhile_cons_of_pos (by simp)]
  cases hname : nameOf parts with
  | nil => rfl
  | cons c rest =>
    rw [hname, List.head?_cons, ne_eq, Option.some.injEq] at hhead
    exact List.dropWhile_cons_of_neg (by simpa using hhead)

/-- A rule that accepts the names only, and only as a directory, covers its place. -/
theorem covers_of_accepted {items : List Glob.Item}
    (haccepted : Glob.accepted items = {nameOf parts}) :
    Covers ((outputRule parts).compiledWith items) parts := by
  have ha : ((outputRule parts).compiledWith items).anchored = true := by
    simp [Rule.compiledWith, bare_of_names inside names backslash]
  have hd : ((outputRule parts).compiledWith items).directoryOnly = true := by
    rw [Rule.compiledWith, written_of_names backslash, List.getLast?_concat]
    rfl
  have hslash (t : List Char) : t ++ ['/'] ≠ nameOf parts := by
    intro he
    exact (isNamed_nameOf inside names).last_ne (he ▸ List.getLast?_concat)
  have haccepts (t : List Char) (isDirectory : Bool) :
      ((outputRule parts).compiledWith items).accepts t isDirectory = true ↔
        isDirectory = true ∧ t = nameOf parts := by
    have hitems : ((outputRule parts).compiledWith items).items = items := rfl
    rw [CompiledRule.accepts_iff, hd, hitems, haccepted]
    constructor
    · rintro ⟨hcounts, ht | ⟨-, -, ht⟩⟩
      · exact ⟨hcounts rfl, ht⟩
      · exact absurd ht (hslash t)
    · rintro ⟨hdirectory, ht⟩
      exact ⟨fun _ => hdirectory, .inl ht⟩
  intro path isDirectory _
  rw [CompiledRule.isMatch_leading ha, Within]
  simp only [haccepts, leading_eq_nameOf_iff inside names, Bool.or_eq_true, decide_eq_true_eq]
  constructor
  · rintro ⟨k, hk, hcounts, htake⟩
    have hlength : parts.length = k + 1 := by
      rw [← htake, List.length_take]
      omega
    rw [hlength]
    exact ⟨htake ▸ List.take_prefix _ _, hcounts⟩
  · rintro ⟨hbegins, hcounts⟩
    have hpos := List.length_pos_of_ne_nil inside
    have hle := hbegins.length_le
    refine ⟨parts.length - 1, by omega, ?_⟩
    rw [Nat.sub_add_cancel hpos]
    exact ⟨hcounts, (List.prefix_iff_eq_take.mp hbegins).symm⟩

/-- A rule whose names mean themselves compiles, and covers its place. -/
theorem exists_covers (literal : Glob.IsLiteral (nameOf parts)) :
    ∃ r, (outputRule parts).compile = .ok r ∧ Covers r parts := by
  have hbody := body_of_names inside names backslash
  have hanswers := Glob.answers_compile (outputRule parts).not_backslash_mem_body
  obtain ⟨items, hitems⟩ := hanswers.exists_ok_iff.mpr (hbody ▸ literal.legible)
  refine ⟨(outputRule parts).compiledWith items, by rw [Rule.compile_eq, hitems], ?_⟩
  apply covers_of_accepted inside names backslash
  rw [← hbody]
  exact (hanswers.good_of_ok hitems).accepted_of_literal (hbody ▸ literal)

end

/-! ### When the rule covers its place -/

/-- For pages below the root of a scan there is one rule, which excludes. It covers the place of the
pages and nothing else if and only if no character of the names on the way to them is a backslash, a
wildcard or the beginning of a bracket that is closed. Then whatever rules stand before it, the place
and what lies beneath it are excluded, and nothing else besides what those rules exclude. -/
theorem outputRules_cover_iff (root : Disk.Place) {parts : List String} (inside : parts ≠ [])
    (names : ∀ s ∈ parts, s ≠ "" ∧ '/' ∉ s.toList) :
    ∃ rule : Rule, outputRules root (root ++ parts) = [rule] ∧ rule.effect = .exclude ∧
      ((∃ r, rule.compile = .ok r ∧ Covers r parts) ↔
        '\\' ∉ nameOf parts ∧ Glob.IsLiteral (nameOf parts)) ∧
      ∀ r, rule.compile = .ok r → Covers r parts →
        ∀ (set : RuleSet) (path : String) (isDirectory : Bool),
          (∀ s ∈ Path.segments path, s ≠ "") →
          (RuleSet.excludes (set ++ [r]) path isDirectory = true ↔
            Within parts path isDirectory ∨ set.excludes path isDirectory = true) := by
  refine ⟨outputRule parts, outputRules_below root inside, rfl, ?_, ?_⟩
  · constructor
    · rintro ⟨r, hr, hcovers⟩
      obtain ⟨items, hitems, rfl⟩ := Rule.exists_items hr
      have hbackslash := (outputRule parts).not_backslash_mem_body
      have hspells := (Glob.answers_compile hbackslash).good_of_ok hitems
      obtain ⟨hbody, literal⟩ := literal_of_covers hcovers inside names hspells
      exact ⟨hbody ▸ hbackslash, literal⟩
    · rintro ⟨backslash, literal⟩
      exact exists_covers inside names backslash literal
  · intro r hr hcovers set path isDirectory named
    obtain ⟨items, -, rfl⟩ := Rule.exists_items hr
    have heffect : ((outputRule parts).compiledWith items).effect = .exclude := rfl
    rw [RuleSet.excludes_concat, heffect, ← hcovers path isDirectory named]
    split
    · rename_i hmatch
      simp [hmatch]
    · rename_i hmatch
      simp [hmatch]

theorem outputRules_cover_docs :
    ∃ rule : Rule, outputRules ["repo"] ["repo", "docs"] = [rule] ∧
      ∃ r, rule.compile = .ok r ∧ Covers r ["docs"] := by
  have names : ∀ s ∈ ["docs"], s ≠ "" ∧ '/' ∉ s.toList := by decide
  have hname : nameOf ["docs"] = "docs".toList := rfl
  obtain ⟨rule, hrule, -, hcovers, -⟩ :=
    outputRules_cover_iff ["repo"] (List.cons_ne_nil "docs" []) names
  refine ⟨rule, hrule, hcovers.mpr ⟨by decide, ?_⟩⟩
  rw [hname]
  simp [Glob.isLiteral_cons, Glob.isLiteral_nil]

/-- Pages that go to `out[1]` are not kept out of a scan, and what lies in `out1` is. -/
theorem brackets_cover_another :
    ∃ (rule : Rule) (r : CompiledRule), outputRules ["repo"] ["repo", "out[1]"] = [rule] ∧
      rule.compile = .ok r ∧ r.isMatch "out[1]" true = false ∧ r.isMatch "out1" true = true ∧
      ¬Covers r ["out[1]"] := by
  have hcompile : Rule.compile ⟨"/out[1]/", .exclude⟩ = .ok
      ⟨"out[1]".toList, .exclude, true, true,
        ['o', 'u', 't'].map (fun c => .one (.only c)) ++ [.one (.set false [('1', '1')])],
        "out".toList⟩ := rfl
  generalize hr : CompiledRule.mk _ _ _ _ _ _ = r at hcompile
  have hown : r.isMatch "out[1]" true = false := by
    simp [← hr, CompiledRule.isMatch, CompiledRule.acceptsAny, CompiledRule.candidates,
      CompiledRule.accepts, splitAt, splitWhere, Glob.accepts, Glob.Class.has, join]
  have hother : r.isMatch "out1" true = true := by
    simp [← hr, CompiledRule.isMatch, CompiledRule.acceptsAny, CompiledRule.candidates,
      CompiledRule.accepts, splitAt, splitWhere, Glob.accepts, Glob.Class.has, join]
  refine ⟨⟨"/out[1]/", .exclude⟩, r, rfl, hcompile, hown, hother, fun h => ?_⟩
  have hwithin : Within ["out[1]"] "out[1]" true := ⟨by decide, .inr rfl⟩
  rw [(h "out[1]" true (by decide)).mpr hwithin] at hown
  cases hown

end Cli

end DocAtlas
