import DocAtlas.Proofs.FilePaths
import DocAtlas.Naming

/-!
The parts of the path of a file, and the dotted name of the module that it holds.
-/
namespace DocAtlas

/-! ### Lengths of joined texts -/

theorem length_intercalate {mark : String} (hm : mark.length = 1) (parts : List String) :
    (String.intercalate mark parts).length = (String.join parts).length + (parts.length - 1) := by
  induction parts with
  | nil => rfl
  | cons a rest ih =>
    rw [String.join_cons, String.length_append]
    cases rest with
    | nil => rw [String.intercalate_singleton, String.join_nil]; rfl
    | cons b rest =>
      rw [String.intercalate_cons_cons, String.length_append, String.length_append, ih, hm]
      simp only [List.length_cons]
      omega

theorem length_join_le {parts qs : List String} (h : parts.Sublist qs) :
    (String.join parts).length ≤ (String.join qs).length := by
  induction h with
  | slnil => exact Nat.le_refl _
  | cons s _ ih =>
    rw [String.join_cons, String.length_append]
    exact Nat.le_add_left_of_le ih
  | cons_cons s _ ih =>
    rw [String.join_cons, String.join_cons, String.length_append, String.length_append]
    exact Nat.add_le_add_left ih _

theorem length_intercalate_mono {mark : String} (hm : mark.length = 1) {parts qs : List String}
    (h : parts.Sublist qs) :
    (String.intercalate mark parts).length ≤ (String.intercalate mark qs).length := by
  have hjoin := length_join_le h
  have hlength := h.length_le
  rw [length_intercalate hm, length_intercalate hm]
  omega

namespace Path
open Text

/-! ### The path of a directory and a name in it -/

/-- What stands before the name in the path of a file of a directory. -/
def home (dirs : List String) : String := if dirs = [] then "" else joinSegments dirs ++ "/"

theorem joinSegments_home (dirs : List String) (file : String) :
    joinSegments (dirs ++ [file]) = home dirs ++ file := by
  unfold home
  split
  · rename_i h
    rw [h, List.nil_append, String.empty_append]
    exact String.intercalate_singleton
  · rename_i h
    exact joinSegments_concat h file

theorem home_eq (dirs : List String) :
    home dirs = "" ∨ ∃ front : List Char, (home dirs).toList = front ++ ['/'] := by
  unfold home
  split
  · exact .inl rfl
  · exact .inr ⟨(joinSegments dirs).toList, by simp⟩

/-- A path has directories and a name in them. -/
theorem segments_eq (path : String) : segments path = (segments path).dropLast ++ [base path] := by
  have hlast : (segments path).getLast? = some (base path) := by
    rw [segments, splitText, List.getLast?_map, getLast?_splitAt]
    rfl
  obtain ⟨front, hfront⟩ := List.getLast?_eq_some_iff.mp hlast
  rw [hfront, List.dropLast_concat]

theorem eq_joinSegments (path : String) :
    path = joinSegments ((segments path).dropLast ++ [base path]) := by
  rw [← segments_eq, joinSegments_segments]

theorem base_append {front file : String} (hf : '/' ∉ file.toList)
    (h : front = "" ∨ ∃ cs : List Char, front.toList = cs ++ ['/']) : base (front ++ file) = file := by
  apply String.toList_inj.mp
  rw [base, String.toList_ofList, String.toList_append]
  rcases h with rfl | ⟨cs, h⟩
  · exact afterLast_of_not_mem hf
  · rw [h, List.append_assoc, List.singleton_append, afterLast_append _ hf]

section

variable (dirs : List String) {file : String} (hf : '/' ∉ file.toList)
include hf

theorem base_home : base (home dirs ++ file) = file := base_append hf (home_eq dirs)

/-- Only the name loses its suffix. -/
theorem stem_home : stem (home dirs ++ file) = home dirs ++ stem file := by
  have hfile : base file = file := by
    apply String.toList_inj.mp
    rw [base, String.toList_ofList, afterLast_of_not_mem hf]
  rw [stem, stem, base_home dirs hf, hfile, List.contains_eq_mem]
  split
  · rename_i hdot
    obtain ⟨a, b, he, hb⟩ := exists_last_sep (of_decide_eq_true hdot)
    have hwhole : (home dirs ++ file).toList = ((home dirs).toList ++ a) ++ '.' :: b := by
      rw [String.toList_append, he, List.append_assoc]
    rw [hwhole, he, beforeLast?_append _ hb, beforeLast?_append _ hb, Option.getD_some,
      Option.getD_some, String.ofList_append, String.ofList_toList]
  · rfl

end

theorem stem_of_no_dot {file : String} (hf : '/' ∉ file.toList) (hd : '.' ∉ file.toList) :
    stem file = file := by
  rw [stem, base, afterLast_of_not_mem hf, String.toList_ofList, if_neg (by simpa using hd)]

theorem stem_of_dot {file : String} {a b : List Char} (hf : '/' ∉ file.toList)
    (he : file.toList = a ++ '.' :: b) (hb : '.' ∉ b) : stem file = String.ofList a := by
  rw [stem, base, afterLast_of_not_mem hf, String.toList_ofList, he, if_pos (by simp),
    beforeLast?_append _ hb, Option.getD_some]

/-- A dot and what follows the last dot of a name. -/
structure IsSuffix (suffix : String) : Prop where
  dot : suffix.toList.head? = some '.'
  last : '.' ∉ suffix.toList.tail
  slash : '/' ∉ suffix.toList

theorem stem_append {name suffix : String} (hn : '/' ∉ name.toList) (hs : IsSuffix suffix) :
    stem (name ++ suffix) = name := by
  have hlist : (name ++ suffix).toList = name.toList ++ '.' :: suffix.toList.tail := by
    rw [String.toList_append, List.cons_head?_tail hs.dot]
  rw [stem_of_dot (by simp [hn, hs.slash]) hlist hs.last, String.ofList_toList]

theorem stem_begins (path : String) : (stem path).toList <+: path.toList := by
  unfold stem
  split
  · by_cases hd : '.' ∈ path.toList
    · obtain ⟨a, b, he, hb⟩ := exists_last_sep hd
      rw [he, beforeLast?_append _ hb, Option.getD_some, String.toList_ofList]
      exact List.prefix_append _ _
    · rw [beforeLast?_of_not_mem hd, Option.getD_none, String.toList_ofList]
  · exact List.prefix_refl _

theorem length_stem_le (path : String) : (stem path).length ≤ path.length :=
  (stem_begins path).length_le

theorem length_stem_lt {path : String} (hd : '.' ∈ (base path).toList) :
    (stem path).length < path.length := by
  have hmem : '.' ∈ path.toList := by
    rw [base, String.toList_ofList, afterLast, List.mem_reverse] at hd
    exact List.mem_reverse.mp ((List.takeWhile_prefix _).subset hd)
  obtain ⟨a, b, he, hb⟩ := exists_last_sep hmem
  rw [stem, if_pos (List.contains_iff_mem.mpr hd), ← String.length_toList (s := path), he,
    beforeLast?_append _ hb, Option.getD_some]
  simp

/-! ### Directories -/

/-- Segments that are names of files and directories. -/
def AreNames (parts : List String) : Prop :=
  ∀ s ∈ parts, '/' ∉ s.toList ∧ s ≠ "" ∧ s ≠ "." ∧ s ≠ ".."

theorem IsDownward.names {path : String} (h : IsDownward path) : AreNames (segments path) :=
  fun s hs => ⟨no_slash_of_mem_segments hs, h s hs⟩

theorem IsDownward.base {path : String} (h : IsDownward path) :
    '/' ∉ (base path).toList ∧ base path ≠ "" ∧ base path ≠ "." ∧ base path ≠ ".." :=
  h.names _ (by rw [segments_eq path]; simp)

theorem AreNames.proper {parts : List String} (h : AreNames parts) :
    ∀ s ∈ parts, '/' ∉ s.toList ∧ s ≠ "" :=
  fun s hs => ⟨(h s hs).1, (h s hs).2.1⟩

theorem AreNames.dropLast {parts : List String} (h : AreNames parts) : AreNames parts.dropLast :=
  fun s hs => h s (List.mem_of_mem_dropLast hs)

theorem steps_joinSegments {parts : List String} (h : ∀ s ∈ parts, '/' ∉ s.toList) :
    steps (joinSegments parts) = parts.filter fun s => s != "" && s != "." := by
  by_cases hne : parts = []
  · subst hne
    exact steps_empty
  · rw [steps, segments_joinSegments hne h]

theorem steps_name {file : String} (hf : '/' ∉ file.toList) (hne : file ≠ "") (hself : file ≠ ".") :
    steps file = [file] := by
  rw [steps, segments_of_no_slash hf, List.filter_eq_self, List.forall_mem_singleton]
  simp [hne, hself]

theorem steps_home {dirs : List String} (hd : AreNames dirs) {file : String}
    (hf : '/' ∉ file.toList) : steps (home dirs ++ file) = dirs ++ steps file := by
  have hparts : ∀ s ∈ dirs ++ [file], '/' ∉ s.toList := by
    rw [List.forall_mem_append, List.forall_mem_singleton]
    exact ⟨fun s hs => (hd s hs).1, hf⟩
  have hnames : dirs.filter (fun s => s != "" && s != ".") = dirs :=
    List.filter_eq_self.mpr fun s hs => by simp [hd s hs]
  rw [← joinSegments_home, steps_joinSegments hparts, List.filter_append, hnames, steps,
    segments_of_no_slash hf]

/-- The path of directories ends with no slash. -/
theorem exists_last_joinSegments {dirs : List String}
    (hd : ∀ s ∈ dirs, '/' ∉ s.toList ∧ s ≠ "") (hne : dirs ≠ []) :
    ∃ front c, (joinSegments dirs).toList = front ++ [c] ∧ c ≠ '/' := by
  obtain ⟨rest, last, hl⟩ := (List.eq_nil_or_concat dirs).resolve_left hne
  obtain ⟨hslash, hempty⟩ := hd last (by simp [hl])
  obtain ⟨cs, c, hc⟩ := (List.eq_nil_or_concat last.toList).resolve_left (by simpa using hempty)
  refine ⟨(home rest).toList ++ cs, c, ?_, ?_⟩
  · rw [hl, List.concat_eq_append, joinSegments_home, String.toList_append, hc,
      List.concat_eq_append, List.append_assoc]
  · rintro rfl
    exact hslash (by simp [hc])

theorem directory_home {dirs : List String} (hd : AreNames dirs) {file : String}
    (hf : '/' ∉ file.toList) : directory (home dirs ++ file) = joinSegments dirs := by
  by_cases hne : dirs = []
  · subst hne
    rw [home, if_pos rfl, String.empty_append, directory, beforeLast?_of_not_mem hf]
    rfl
  · obtain ⟨front, c, hdirs, hcs⟩ := exists_last_joinSegments hd.proper hne
    have hwhole : (home dirs ++ file).toList = (joinSegments dirs).toList ++ '/' :: file.toList := by
      rw [home, if_neg hne]
      simp
    have hall : ((joinSegments dirs).toList ++ ['/']).all (· == '/') = false := by
      rw [hdirs]
      simp [hcs]
    rw [directory, hwhole, beforeLast?_append _ hf]
    dsimp only
    rw [hall, if_neg Bool.false_ne_true]
    apply String.toList_inj.mp
    rw [String.toList_ofList, List.reverse_append, List.reverse_singleton, List.singleton_append,
      List.dropWhile_cons_of_pos (by rfl), hdirs, List.reverse_append, List.reverse_singleton,
      List.singleton_append, List.dropWhile_cons_of_neg (by simpa using hcs), List.reverse_cons,
      List.reverse_reverse]

end Path

/-! ### Modules -/

/-- The parts of the name of a module: those of its path, unless its file stands for the directory.
-/
def withoutIndex (parts : List String) : List String :=
  if parts.getLast?.any isDirectoryFile then parts.dropLast else parts

theorem modulePath_eq (path : String) :
    modulePath path = String.intercalate "." (withoutIndex (Path.steps (Path.stem path))) := rfl

theorem withoutIndex_begins (parts : List String) : withoutIndex parts <+: parts := by
  unfold withoutIndex
  split
  · exact List.dropLast_prefix parts
  · exact List.prefix_refl parts

theorem withoutIndex_concat (dirs : List String) (file : String) :
    withoutIndex (dirs ++ [file]) = if isDirectoryFile file then dirs else dirs ++ [file] := by
  rw [withoutIndex, List.getLast?_concat, Option.any_some, List.dropLast_concat]

/-- A file of a directory is a module of it. -/
theorem modulePath_home {dirs : List String} (hd : Path.AreNames dirs) {file : String}
    (hf : '/' ∉ file.toList) :
    modulePath (Path.home dirs ++ file) =
      String.intercalate "." (withoutIndex (dirs ++ Path.steps (Path.stem file))) := by
  have hstem : '/' ∉ (Path.stem file).toList := fun hs => hf ((Path.stem_begins file).subset hs)
  rw [modulePath_eq, Path.stem_home dirs hf, Path.steps_home hd hstem]

/-- The name of a module is no longer than the path of its file without the suffix. -/
theorem length_modulePath_le (path : String) :
    (modulePath path).length ≤ (Path.stem path).length := by
  have hsub : (withoutIndex (Path.steps (Path.stem path))).Sublist
      (Path.segments (Path.stem path)) :=
    (withoutIndex_begins _).sublist.trans List.filter_sublist
  calc (modulePath path).length
      ≤ (String.intercalate "." (Path.segments (Path.stem path))).length :=
        length_intercalate_mono rfl hsub
    _ = (Path.joinSegments (Path.segments (Path.stem path))).length := by
        rw [Path.joinSegments, length_intercalate rfl, length_intercalate rfl]
    _ = (Path.stem path).length := by rw [Path.joinSegments_segments]

end DocAtlas
