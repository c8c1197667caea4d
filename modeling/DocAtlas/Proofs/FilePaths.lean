import DocAtlas.Proofs.Ways
import DocAtlas.Proofs.Splitting
import DocAtlas.Site

/-!
The files of pages below a directory: what their paths are made of, and that different pages have
different files.
-/
namespace DocAtlas.Path
open Text

/-! ### Segments -/

theorem segments_joinSegments {parts : List String} (hne : parts ≠ [])
    (hp : ∀ s ∈ parts, '/' ∉ s.toList) : segments (joinSegments parts) = parts :=
  splitText_intercalate (by simp) hne hp

theorem segments_ne_nil (path : String) : segments path ≠ [] := by
  simp [segments, splitText, splitAt, splitWhere_ne_nil]

theorem no_slash_of_mem_segments {path s : String} (h : s ∈ segments path) : '/' ∉ s.toList :=
  not_mem_of_mem_splitText h

theorem map_toList_segments (path : String) :
    (segments path).map String.toList = splitAt '/' path.toList := by
  rw [segments, splitText, List.map_map]
  exact List.map_id'' (fun s => String.toList_ofList) _

theorem joinSegments_segments (path : String) : joinSegments (segments path) = path := by
  apply String.toList_inj.mp
  have hjoin : (joinSegments (segments path)).toList =
      Text.join ['/'] ((segments path).map String.toList) := String.toList_intercalate
  rw [hjoin, map_toList_segments, join_splitAt]

theorem segments_append (a b : String) : segments (a ++ "/" ++ b) = segments a ++ segments b := by
  have hlist : (a ++ "/" ++ b).toList = a.toList ++ '/' :: b.toList := by simp
  rw [segments, splitText, hlist, splitAt_append, List.map_append]
  rfl

theorem segments_of_no_slash {path : String} (h : '/' ∉ path.toList) : segments path = [path] := by
  rw [segments, splitText, splitAt_of_not_mem h, List.map_singleton, String.ofList_toList]

/-! ### Steps -/

/-- The segments of a path that lead somewhere. -/
def steps (path : String) : List String := (segments path).filter fun s => s != "" && s != "."

theorem steps_append (a b : String) : steps (a ++ "/" ++ b) = steps a ++ steps b := by
  rw [steps, segments_append, List.filter_append]
  rfl

/-- Every segment is a name. -/
def IsDownward (path : String) : Prop := ∀ s ∈ segments path, s ≠ "" ∧ s ≠ "." ∧ s ≠ ".."

theorem IsDownward.steps {path : String} (h : IsDownward path) : steps path = segments path := by
  rw [Path.steps, List.filter_eq_self]
  intro s hs
  simp [h s hs]

/-- A path that begins with something other than a slash. -/
def IsRelative (path : String) : Prop := ∃ c rest, path.toList = c :: rest ∧ c ≠ '/'

theorem IsDownward.relative {path : String} (h : IsDownward path) : IsRelative path := by
  cases hp : path.toList with
  | nil =>
    have hempty : "" ∈ segments path := by simp [segments, splitText, hp, splitAt, splitWhere]
    exact absurd rfl (h "" hempty).1
  | cons c rest =>
    refine ⟨c, rest, hp, ?_⟩
    rintro rfl
    have hempty : "" ∈ segments path := by
      simp [segments, splitText, hp, splitAt, splitWhere_cons]
    exact absurd rfl (h "" hempty).1

/-- A relative path after a directory adds no leading slash to it. -/
theorem rootSlashes_append {dir path : String} (h : IsRelative path) :
    rootSlashes (dir ++ path) = rootSlashes dir := by
  obtain ⟨c, rest, hp, hc⟩ := h
  have htake : (dir ++ path).toList.takeWhile (· == '/') = dir.toList.takeWhile (· == '/') := by
    rw [String.toList_append, hp, List.takeWhile_append]
    split
    · rename_i hall
      rw [List.takeWhile_cons_of_neg (by simpa using hc), List.append_nil]
      exact ((List.takeWhile_prefix _).eq_of_length hall).symm
    · rfl
  rw [rootSlashes, rootSlashes, htake]

theorem rootSlashes_append_slash {dir : String} (h : endsWith dir "/" = false) (hne : dir ≠ "")
    (path : String) : rootSlashes (dir ++ "/" ++ path) = rootSlashes dir := by
  have hname : ∃ c ∈ dir.toList, c ≠ '/' := by
    by_contra hall
    push Not at hall
    obtain ⟨front, last, hl⟩ :=
      (List.eq_nil_or_concat dir.toList).resolve_left (by simpa using hne)
    have hlast : last = '/' := hall last (by simp [hl])
    rw [endsWith, hl, hlast, ← Bool.not_eq_true, List.isSuffixOf_iff_suffix] at h
    exact h ⟨front, by simp⟩
  have htake : (dir ++ "/" ++ path).toList.takeWhile (· == '/') =
      dir.toList.takeWhile (· == '/') := by
    obtain ⟨c, hc, hcs⟩ := hname
    rw [String.toList_append, String.toList_append, List.append_assoc, List.takeWhile_append,
      if_neg]
    intro hall
    have hself := (List.takeWhile_prefix (· == '/')).eq_of_length hall
    have hpos := List.mem_takeWhile_imp (hself ▸ hc)
    exact hcs (by simpa using hpos)
  rw [rootSlashes, rootSlashes, htake]

/-- Two lists go on from what they have in common. -/
theorem dropCommon_spec (as bs : List String) :
    ∃ common, as = common ++ (dropCommon as bs).1 ∧ bs = common ++ (dropCommon as bs).2 := by
  induction as generalizing bs with
  | nil => exact ⟨[], by simp [dropCommon]⟩
  | cons a as ih =>
    cases bs with
    | nil => exact ⟨[], by simp [dropCommon]⟩
    | cons b bs =>
      rw [dropCommon]
      split
      · rename_i he
        obtain ⟨common, ha, hb⟩ := ih bs
        refine ⟨a :: common, ?_, ?_⟩
        · rw [List.cons_append, ← ha]
        · rw [List.cons_append, ← hb, beq_iff_eq.mp he]
      · exact ⟨[], rfl, rfl⟩

theorem waypoints_ne_nil (dir path : String) : steps dir ++ segments path ≠ [] :=
  List.append_ne_nil_of_right_ne_nil _ (segments_ne_nil path)

theorem no_slash_of_mem_waypoints {dir path : String} :
    ∀ s ∈ steps dir ++ segments path, '/' ∉ s.toList := by
  intro s hs
  rcases List.mem_append.mp hs with hd | hp
  · exact no_slash_of_mem_segments (List.mem_filter.mp hd).1
  · exact no_slash_of_mem_segments hp

theorem steps_empty : steps "" = [] := by
  simp [steps, segments, splitText, splitAt, splitWhere]

/-- A relative path joined to a directory adds its steps to those of the directory. -/
theorem join_eq (dir : String) {path : String} (h : IsRelative path) :
    rootSlashes (Path.join dir path) = rootSlashes dir ∧
      steps (Path.join dir path) = steps dir ++ steps path := by
  have hstart : startsWith path "/" = false := by
    obtain ⟨c, rest, hp, hc⟩ := h
    rw [startsWith, hp]
    simpa [List.isPrefixOf] using hc.symm
  rw [Path.join, hstart, if_neg Bool.false_ne_true]
  by_cases hempty : dir = ""
  · subst hempty
    exact ⟨rootSlashes_append h, by simp [steps_empty]⟩
  · cases hslash : endsWith dir "/" with
    | true =>
      obtain ⟨front, hfront⟩ := List.isSuffixOf_iff_suffix.mp hslash
      have hdir : dir = String.ofList front ++ "/" ++ "" := by
        apply String.toList_inj.mp
        simpa using hfront.symm
      have hsteps : steps dir = steps (String.ofList front) := by
        rw [hdir, steps_append, steps_empty, List.append_nil]
      rw [Bool.or_true, if_pos rfl]
      refine ⟨rootSlashes_append h, ?_⟩
      rw [hsteps, ← steps_append, hdir, String.append_empty]
    | false =>
      rw [if_neg (by simpa using hempty)]
      exact ⟨rootSlashes_append_slash hslash hempty path, steps_append dir path⟩

theorem joinSegments_waypoints_ne_empty (dir : String) {path : String} (h : IsDownward path) :
    joinSegments (steps dir ++ segments path) ≠ "" := by
  intro hempty
  have hall := segments_joinSegments (waypoints_ne_nil dir path) no_slash_of_mem_waypoints
  rw [hempty] at hall
  obtain ⟨s, hs⟩ := List.exists_mem_of_ne_nil _ (segments_ne_nil path)
  have hmem : s ∈ segments "" := hall ▸ List.mem_append_right _ hs
  exact (h s hs).1 (List.mem_singleton.mp hmem)

/-- A downward path seen from a directory goes on from there. -/
theorem plain_join {dir path : String} (h : IsDownward path) :
    plain (Path.join dir path) =
      rootSlashes dir ++ joinSegments (steps dir ++ segments path) := by
  have hne : rootSlashes dir ++ joinSegments (steps dir ++ segments path) ≠ "" := fun he =>
    joinSegments_waypoints_ne_empty dir h (String.append_eq_empty_iff.mp he).2
  unfold plain
  change (let text := rootSlashes (Path.join dir path) ++ joinSegments (steps (Path.join dir path))
    if text.isEmpty then "." else text) = _
  rw [(join_eq _ h.relative).1, (join_eq _ h.relative).2, h.steps]
  exact if_neg (by simpa using hne)

end DocAtlas.Path

namespace DocAtlas.Site
open DocAtlas.Path

/-- The file of a page stands below `out`: at the end of the way there come names only. -/
structure Beneath (out page : String) : Prop where
  downward : IsDownward (page ++ ".md")
  below : filePath out page =
    rootSlashes out ++ joinSegments (steps out ++ segments (page ++ ".md"))

theorem beneath (out : String) {page : String} (h : IsDownward (page ++ ".md")) :
    Beneath out page :=
  ⟨h, plain_join h⟩

/-- Different pages below a directory have different files. -/
theorem Beneath.inj {out page other : String} (h : Beneath out page) (h' : Beneath out other)
    (he : filePath out page = filePath out other) : page = other := by
  rw [h.below, h'.below, String.append_right_inj] at he
  have hways := joinSegments_inj no_slash_of_mem_waypoints no_slash_of_mem_waypoints
    (waypoints_ne_nil out _) (waypoints_ne_nil out _) he
  have hfiles : page ++ ".md" = other ++ ".md" := by
    rw [← joinSegments_segments (page ++ ".md"), List.append_cancel_left hways,
      joinSegments_segments]
  exact (String.append_left_inj _).mp hfiles

end DocAtlas.Site
