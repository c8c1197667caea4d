import DocAtlas.Braced.Import
import DocAtlas.Proofs.NormalPaths

/-!
What a relative specifier of a file stands for: the module of that file, unless the name of the file
keeps a dot when its suffix is gone. What stands after such a dot is taken for another suffix.
-/
namespace DocAtlas.Braced
open DocAtlas.Path

/-! ### Suffixes of sources -/

theorem isSuffix_of_mem {suffix : List Char} (h : suffix ∈ sourceSuffixes) :
    IsSuffix (String.ofList suffix) := by
  have hall : ∀ suffix ∈ sourceSuffixes, suffix.head? = some '.' ∧ '.' ∉ suffix.tail ∧
      '/' ∉ suffix := by decide
  obtain ⟨hdot, hlast, hslash⟩ := hall suffix h
  constructor <;> rwa [String.toList_ofList]

theorem eq_of_suffix {a b : List Char} (ha : a ∈ sourceSuffixes) (hb : b ∈ sourceSuffixes)
    (h : a <:+ b) : a = b := by
  have hall : ∀ a ∈ sourceSuffixes, ∀ b ∈ sourceSuffixes, a <:+ b → a = b := by decide
  exact hall a ha b hb h

theorem getLast?_ne_of_mem {suffix : List Char} (h : suffix ∈ sourceSuffixes) :
    suffix ≠ [] ∧ suffix.getLast? ≠ some '\n' := by
  have hall : ∀ suffix ∈ sourceSuffixes, suffix ≠ [] ∧ suffix.getLast? ≠ some '\n' := by decide
  exact hall suffix h

theorem getLast?_suffix {suffix s : List Char} (hm : suffix ∈ sourceSuffixes) (h : suffix <:+ s) :
    s.getLast? = suffix.getLast? := by
  obtain ⟨front, rfl⟩ := h
  rw [List.getLast?_append_of_ne_nil front (getLast?_ne_of_mem hm).1]

/-- Either a suffix is cut off, or there is none at the end. -/
theorem dropSourceSuffix_cases (path : String) :
    (∃ front suffix tail, suffix ∈ sourceSuffixes ∧ path.toList = front ++ suffix ++ tail ∧
      (tail = [] ∨ tail = ['\n']) ∧ (dropSourceSuffix path).toList = front ++ tail) ∨
    dropSourceSuffix path = path ∧ ∀ suffix ∈ sourceSuffixes, ¬suffix <:+ path.toList := by
  obtain ⟨body, tail, hpath, htail, hnone, hsome, hend⟩ : ∃ body tail,
      path.toList = body ++ tail ∧ (tail = [] ∨ tail = ['\n']) ∧
      (sourceSuffixes.find? (·.isSuffixOf body) = none → dropSourceSuffix path = path) ∧
      (∀ suffix, sourceSuffixes.find? (·.isSuffixOf body) = some suffix →
        dropSourceSuffix path =
          String.ofList (body.take (body.length - suffix.length) ++ tail)) ∧
      ∀ suffix ∈ sourceSuffixes, suffix <:+ path.toList → suffix <:+ body := by
    by_cases hl : path.toList.getLast? = some '\n'
    · obtain ⟨body, hbody⟩ := List.getLast?_eq_some_iff.mp hl
      refine ⟨body, ['\n'], hbody, .inr rfl, fun hf => ?_, fun suffix hf => ?_, ?_⟩
      · simp [dropSourceSuffix, hbody, hf]
      · simp [dropSourceSuffix, hbody, hf]
      · intro suffix hm hs
        exact absurd ((getLast?_suffix hm hs).symm.trans hl) (getLast?_ne_of_mem hm).2
    · refine ⟨path.toList, [], by simp, .inl rfl, fun hf => ?_, fun suffix hf => ?_,
        fun suffix _ hs => hs⟩
      · simp [dropSourceSuffix, hl, hf]
      · simp [dropSourceSuffix, hl, hf]
  cases hf : sourceSuffixes.find? (·.isSuffixOf body) with
  | none =>
    refine .inr ⟨hnone hf, fun suffix hm hs => ?_⟩
    have hno := List.find?_eq_none.mp hf suffix hm
    exact hno (List.isSuffixOf_iff_suffix.mpr (hend suffix hm hs))
  | some suffix =>
    have hs : suffix <:+ body := List.isSuffixOf_iff_suffix.mp (by simpa using List.find?_some hf)
    refine .inl ⟨body.take (body.length - suffix.length), suffix, tail, List.mem_of_find?_eq_some hf,
      ?_, htail, ?_⟩
    · rw [List.suffix_iff_eq_append.mp hs, hpath]
    · rw [hsome suffix hf, String.toList_ofList]

/-- A suffix at the end of a path is cut off. -/
theorem dropSourceSuffix_append {suffix : String} (hs : suffix.toList ∈ sourceSuffixes)
    (front : String) : dropSourceSuffix (front ++ suffix) = front := by
  have hend : suffix.toList <:+ (front ++ suffix).toList := by
    rw [String.toList_append]
    exact List.suffix_append _ _
  rcases dropSourceSuffix_cases (front ++ suffix) with
    ⟨pre, cut, tail, hm, he, rfl | rfl, hdrop⟩ | ⟨-, hno⟩
  · rw [List.append_nil] at he hdrop
    have hcut : cut <:+ (front ++ suffix).toList := ⟨pre, he.symm⟩
    have hsame : cut = suffix.toList := by
      rcases List.suffix_or_suffix_of_suffix hcut hend with h | h
      · exact eq_of_suffix hm hs h
      · exact (eq_of_suffix hs hm h).symm
    rw [String.toList_append, hsame] at he
    exact String.toList_inj.mp (hdrop.trans (List.append_cancel_right he).symm)
  · have hlast := getLast?_suffix hs hend
    rw [he, List.getLast?_concat] at hlast
    exact absurd hlast.symm (getLast?_ne_of_mem hs).2
  · exact absurd hend (hno _ hs)

theorem length_dropSourceSuffix (path : String) :
    dropSourceSuffix path = path ∨ (dropSourceSuffix path).length < path.length := by
  rcases dropSourceSuffix_cases path with ⟨front, suffix, tail, hm, he, -, hdrop⟩ | ⟨hsame, -⟩
  · right
    have hpos := List.length_pos_of_ne_nil (getLast?_ne_of_mem hm).1
    have hwhole := congrArg List.length he
    have hrest := congrArg List.length hdrop
    simp only [List.length_append, String.length_toList] at hwhole hrest
    omega
  · exact .inl hsame

/-- A name without a dot has no suffix. -/
theorem dropSourceSuffix_of_no_dot {path : String} (h : '.' ∉ (base path).toList) :
    dropSourceSuffix path = path := by
  rcases dropSourceSuffix_cases path with ⟨front, suffix, tail, hm, he, htail, -⟩ | ⟨hsame, -⟩
  · have hsuffix := isSuffix_of_mem hm
    have hslash : '/' ∉ suffix ++ tail := by
      have hs := hsuffix.slash
      rw [String.toList_ofList] at hs
      rcases htail with rfl | rfl <;> simp [hs]
    have hdot : '.' ∈ suffix := by
      have hd := hsuffix.dot
      rw [String.toList_ofList] at hd
      exact List.mem_of_mem_head? hd
    have hend : suffix ++ tail <:+ path.toList := ⟨front, by rw [he, List.append_assoc]⟩
    have hbase := Text.suffix_afterLast hend hslash
    rw [base, String.toList_ofList] at h
    exact absurd (hbase.subset (List.mem_append_left _ hdot)) h
  · exact hsame

/-! ### Names that keep a dot -/

/-- A module with a dot in its own name has all segments of its path in its name. -/
theorem length_modulePath_dotted (dirs : List String) {file : String} (hd : '.' ∈ file.toList) :
    (String.intercalate "." (withoutIndex (dirs ++ [file]))).length =
      (joinSegments (dirs ++ [file])).length := by
  have hindex : isDirectoryFile file = false := by
    rw [← Bool.not_eq_true]
    intro h
    rcases Bool.or_eq_true_iff.mp h with h | h <;> rw [beq_iff_eq.mp h] at hd <;>
      exact absurd hd (by decide)
  rw [withoutIndex_concat, hindex, if_neg Bool.false_ne_true, joinSegments, length_intercalate rfl,
    length_intercalate rfl]

theorem length_modulePath_lt (path : String) (hd : '.' ∈ (base path).toList) :
    (modulePath path).length < path.length :=
  Nat.lt_of_le_of_lt (length_modulePath_le path) (length_stem_lt hd)

section

variable {dirs : List String} (hd : AreNames dirs) {file : String} (hf : '/' ∉ file.toList)
include hd hf

/-- Without its suffix a path still names its module, unless something is left that looks like a
suffix. -/
theorem modulePath_name_iff :
    modulePath (home dirs ++ file) = String.intercalate "." (withoutIndex (dirs ++ steps file)) ↔
      '.' ∉ file.toList ∨ file = "." := by
  by_cases hdot : '.' ∈ file.toList
  · by_cases hself : file = "."
    · subst hself
      exact iff_of_true (modulePath_home hd hf) (.inr rfl)
    · have hne : file ≠ "" := by
        rintro rfl
        simp at hdot
      refine iff_of_false (fun he => ?_) (not_or.mpr ⟨not_not.mpr hdot, hself⟩)
      have hshorter := length_modulePath_lt (home dirs ++ file) (by rwa [base_home dirs hf])
      have hlength := length_modulePath_dotted dirs hdot
      rw [joinSegments_home] at hlength
      rw [he, steps_name hf hne hself, hlength] at hshorter
      exact Nat.lt_irrefl _ hshorter
  · refine iff_of_true ?_ (.inl hdot)
    rw [modulePath_home hd hf, stem_of_no_dot hf hdot]

end

/-- What is left of a path without any suffix names its module, unless its last segment looks as if
it had one. -/
theorem modulePath_place_iff {parts : List String} (h : AreNames parts) :
    modulePath (dropSourceSuffix (place parts)) = String.intercalate "." (withoutIndex parts) ↔
      ∀ last ∈ parts.getLast?, '.' ∉ last.toList := by
  rcases List.eq_nil_or_concat parts with rfl | ⟨dirs, file, rfl⟩
  · exact iff_of_true (by decide +kernel) (by simp)
  · rw [List.concat_eq_append] at h ⊢
    obtain ⟨hslash, hne, hself, -⟩ := h file (by simp)
    have hplace : place (dirs ++ [file]) = home dirs ++ file := by
      rw [place, joinSegments_home, if_neg]
      simp [hne]
    have hlast : (∀ last ∈ (dirs ++ [file]).getLast?, '.' ∉ last.toList) ↔ '.' ∉ file.toList := by
      simp
    have hbase := base_home dirs hslash
    rw [hplace, hlast]
    by_cases hdot : '.' ∈ file.toList
    · refine iff_of_false (fun he => ?_) (not_not.mpr hdot)
      have hlength := length_modulePath_dotted dirs hdot
      rw [← he, joinSegments_home] at hlength
      rcases length_dropSourceSuffix (home dirs ++ file) with hsame | hless
      · rw [hsame] at hlength
        have hshorter := length_modulePath_lt (home dirs ++ file) (by rwa [hbase])
        omega
      · have hle := length_modulePath_le (dropSourceSuffix (home dirs ++ file))
        have hstem := length_stem_le (dropSourceSuffix (home dirs ++ file))
        omega
    · have hdirs : AreNames dirs := fun s hs => h s (List.mem_append_left _ hs)
      refine iff_of_true ?_ hdot
      rw [dropSourceSuffix_of_no_dot (by rwa [hbase]), ← steps_name hslash hne hself]
      exact (modulePath_name_iff hdirs hslash).mpr (.inl hdot)

/-! ### Specifiers -/

/-- The segments that lead out of directories; where there are none, one that leads nowhere. -/
def backSegments (up : List String) : List String :=
  if up = [] then ["."] else List.replicate up.length ".."

theorem backSegments_cons (up : List String) :
    ∃ s rest, backSegments up = s :: rest ∧ ∀ part ∈ s :: rest, part = "." ∨ part = ".." := by
  unfold backSegments
  cases up with
  | nil => exact ⟨".", [], rfl, by simp⟩
  | cons u up =>
    refine ⟨"..", List.replicate up.length "..", rfl, fun part hp => .inr ?_⟩
    exact List.eq_of_mem_replicate (n := up.length + 1) hp

theorem foldl_push_backSegments (up reversed : List String) :
    (backSegments up).foldl (push false) reversed =
      (List.replicate up.length "..").foldl (push false) reversed := by
  unfold backSegments
  split
  · rename_i he
    subst he
    rfl
  · rfl

/-- The way from the directory of a file to a name beside another file. It begins with one dot or
two, as all ways to the files of the project do. -/
def specifierTo (unit path name : String) : String :=
  let (down, up) := dropCommon (segments path).dropLast (segments unit).dropLast
  joinSegments (backSegments up ++ down ++ [name])

theorem specifierTo_append (unit path name suffix : String) :
    specifierTo unit path (name ++ suffix) = specifierTo unit path name ++ suffix := by
  unfold specifierTo
  dsimp only
  rw [joinSegments_home, joinSegments_home, String.append_assoc]

theorem specifierTo_relative (unit path name : String) :
    startsWith (specifierTo unit path name) "./" = true ∨
      startsWith (specifierTo unit path name) "../" = true := by
  unfold specifierTo
  dsimp only
  obtain ⟨s, rest, hback, hs⟩ := backSegments_cons
    (dropCommon (segments path).dropLast (segments unit).dropLast).2
  obtain ⟨t, more, hmore⟩ := List.exists_cons_of_ne_nil (l := rest ++
    (dropCommon (segments path).dropLast (segments unit).dropLast).1 ++ [name]) (by simp)
  rw [hback, List.cons_append, List.cons_append, hmore, joinSegments,
    String.intercalate_cons_cons, startsWith, startsWith, String.toList_append,
    String.toList_append]
  rcases hs s List.mem_cons_self with rfl | rfl
  · exact .inl rfl
  · exact .inr rfl

/-- A way that begins with a dot leads to a module of the project. -/
theorem moduleOf_specifierTo (directory unit path name : String) :
    moduleOf? directory (specifierTo unit path name) =
      some (modulePath (dropSourceSuffix
        (normal (join directory (specifierTo unit path name))))) := by
  have hstart : startsWith (specifierTo unit path name) "." = true := by
    have hhere : ".".toList <+: "./".toList := by decide
    have hback : ".".toList <+: "../".toList := by decide
    have hrelative := specifierTo_relative unit path name
    rw [startsWith, startsWith, List.isPrefixOf_iff_prefix, List.isPrefixOf_iff_prefix] at hrelative
    rw [startsWith, List.isPrefixOf_iff_prefix]
    exact hrelative.elim hhere.trans hback.trans
  rw [moduleOf?, if_pos hstart]

/-- From directories back to those that they share with others, and on to these. -/
theorem foldl_push_way {common up down : List String} (hup : AreNames (common ++ up))
    (hdown : AreNames (common ++ down)) :
    (common ++ up ++ (backSegments up ++ down)).foldl (push false) [] =
      (common ++ down).reverse := by
  rw [List.foldl_append, List.foldl_append, foldl_push_backSegments, ← List.foldl_append,
    ← List.foldl_append, foldl_push_detour hup, foldl_push_names hdown, List.append_nil]

/-- The way to a name beside a file ends in the directories of that file. -/
theorem normal_specifierTo {unit path : String} (hu : IsDownward unit) (hp : IsDownward path)
    {name : String} (hn : '/' ∉ name.toList) :
    normal (join (directory unit) (specifierTo unit path name)) =
      place (push false (segments path).dropLast.reverse name).reverse := by
  obtain ⟨common, hdown, hup⟩ :=
    dropCommon_spec (segments path).dropLast (segments unit).dropLast
  unfold specifierTo
  generalize dropCommon (segments path).dropLast (segments unit).dropLast = ways at hdown hup ⊢
  obtain ⟨down, up⟩ := ways
  dsimp only at hdown hup ⊢
  have hunit : AreNames (common ++ up) := hup ▸ hu.names.dropLast
  have hpath : AreNames (common ++ down) := hdown ▸ hp.names.dropLast
  have hdirectory : directory unit = joinSegments (common ++ up) := by
    conv_lhs => rw [eq_joinSegments unit, hup, joinSegments_home]
    exact directory_home hunit hu.base.1
  obtain ⟨s, rest, hback, hdots⟩ := backSegments_cons up
  have hdot : ∀ part ∈ backSegments up, '/' ∉ part.toList ∧ part ≠ "" := by
    intro part hpart
    rcases hdots part (hback ▸ hpart) with rfl | rfl <;> decide
  have hway : ∀ part ∈ common ++ up ++ (backSegments up ++ down), '/' ∉ part.toList ∧ part ≠ "" := by
    refine List.forall_mem_append.mpr ⟨fun part hm => ?_,
      List.forall_mem_append.mpr ⟨hdot, fun part hm => ?_⟩⟩
    · exact (hunit part hm).imp_right And.left
    · exact (hpath part (List.mem_append_right _ hm)).imp_right And.left
  have hjoin : join (directory unit) (joinSegments (backSegments up ++ down ++ [name])) =
      joinSegments (common ++ up ++ (backSegments up ++ down) ++ [name]) := by
    obtain ⟨hslash, hne⟩ := hdot s (hback ▸ List.mem_cons_self)
    rw [hdirectory, List.append_assoc (common ++ up), hback, List.cons_append, List.cons_append]
    exact join_joinSegments hslash hne _ hunit
  rw [hjoin, normal_joinSegments hway (by simp [hback]) hn, foldl_push_way hunit hpath, hdown]

/-- A step back from a directory leads to no module with the name of two dots. -/
theorem length_modulePath_back {dirs : List String} (hd : AreNames dirs) :
    (modulePath (dropSourceSuffix (place (push false dirs.reverse "..").reverse))).length <
      (String.intercalate "." (withoutIndex (dirs ++ [".."]))).length := by
  rw [length_modulePath_dotted dirs (by decide), joinSegments_home, String.length_append]
  rcases List.eq_nil_or_concat dirs with rfl | ⟨front, last, rfl⟩
  · decide +kernel
  · rw [List.concat_eq_append] at hd ⊢
    have hback : (push false (front ++ [last]).reverse "..").reverse = front := by
      simp [push, hd last (by simp)]
    have hmodule := length_modulePath_le (dropSourceSuffix (place front))
    have hstem := length_stem_le (dropSourceSuffix (place front))
    have hdrop : (dropSourceSuffix (place front)).length ≤ (place front).length := by
      rcases length_dropSourceSuffix (place front) with h | h
      · rw [h]
      · exact h.le
    have hplace : (place front).length ≤ (joinSegments front).length + 1 := by
      unfold place
      split
      · exact Nat.le_add_left 1 _
      · exact Nat.le_succ _
    have hfront : (joinSegments front).length ≤ (joinSegments (front ++ [last])).length :=
      length_intercalate_mono rfl (List.sublist_append_left front [last])
    rw [hback, home, if_neg (by simp), String.length_append]
    change _ < _ + 1 + 2
    omega

/-- The way to the name of a file leads to the file. -/
theorem specifierTo_ends {unit path : String} (hu : IsDownward unit) (hp : IsDownward path) :
    normal (join (directory unit) (specifierTo unit path (base path))) = path := by
  obtain ⟨hslash, hname⟩ := hp.base
  rw [normal_specifierTo hu hp hslash, push_name hname, List.reverse_cons, List.reverse_reverse,
    ← segments_eq, place, joinSegments_segments, if_neg]
  rintro he
  rw [String.isEmpty_iff.mp he] at hname
  exact hname.1 rfl

section

variable {path name suffix : String} (hp : IsDownward path) (hbase : base path = name ++ suffix)
  (hs : suffix.toList ∈ sourceSuffixes)
include hp hbase hs

theorem stem_suffixed : stem path = home (segments path).dropLast ++ name := by
  have hslash := hp.base.1
  have hsuffix := isSuffix_of_mem hs
  rw [String.ofList_toList] at hsuffix
  conv_lhs => rw [eq_joinSegments path, joinSegments_home]
  rw [stem_home _ hslash, hbase, stem_append (fun h => hslash (by simp [hbase, h])) hsuffix]

/-- A relative specifier with the suffix of a file names its module exactly if the name of the file
holds no other dot. -/
theorem specifier_suffixed_iff {unit : String} (hu : IsDownward unit) :
    moduleOf? (directory unit) (specifierTo unit path name ++ suffix) = some (modulePath path) ↔
      '.' ∉ name.toList ∨ name = "." := by
  have hown : '/' ∉ name.toList := fun h => hp.base.1 (by simp [hbase, h])
  have hpath : path = home (segments path).dropLast ++ name ++ suffix := by
    rw [String.append_assoc, ← hbase, ← joinSegments_home]
    exact eq_joinSegments path
  have hdrop : dropSourceSuffix path = home (segments path).dropLast ++ name := by
    conv_lhs => rw [hpath]
    exact dropSourceSuffix_append hs _
  rw [← specifierTo_append, ← hbase, moduleOf_specifierTo, specifierTo_ends hu hp, hdrop,
    Option.some_inj, modulePath_eq path, stem_suffixed hp hbase hs,
    steps_home hp.names.dropLast hown]
  exact modulePath_name_iff hp.names.dropLast hown

/-- A relative specifier without the suffix of a file names its module exactly if what it ends with
holds no dot. -/
theorem specifier_bare_iff {unit : String} (hu : IsDownward unit) :
    moduleOf? (directory unit) (specifierTo unit path name) = some (modulePath path) ↔
      ∀ last ∈ (steps (stem path)).getLast?, '.' ∉ last.toList := by
  have hslash := hp.base.1
  have hdirs : AreNames (segments path).dropLast := hp.names.dropLast
  have hown : '/' ∉ name.toList := fun h => hslash (by simp [hbase, h])
  rw [moduleOf_specifierTo, normal_specifierTo hu hp hown, Option.some_inj, modulePath_eq path,
    stem_suffixed hp hbase hs, steps_home hdirs hown]
  by_cases hback : name = ".."
  · subst hback
    rw [steps_name hown (by decide) (by decide)]
    refine iff_of_false (fun he => ?_) (by simp)
    exact absurd (congrArg String.length he) (length_modulePath_back hdirs).ne
  · obtain ⟨hpush, hparts⟩ : (push false (segments path).dropLast.reverse name).reverse =
          (segments path).dropLast ++ steps name ∧
        AreNames ((segments path).dropLast ++ steps name) := by
      by_cases hself : name = "" ∨ name = "."
      · have hnone : steps name = [] := by rcases hself with rfl | rfl <;> rfl
        rw [hnone, List.append_nil]
        exact ⟨by rcases hself with rfl | rfl <;> simp [push], hdirs⟩
      · rw [not_or] at hself
        rw [steps_name hown hself.1 hself.2, push_name ⟨hself.1, hself.2, hback⟩,
          List.reverse_cons, List.reverse_reverse, AreNames, List.forall_mem_append,
          List.forall_mem_singleton]
        exact ⟨rfl, hdirs, hown, hself.1, hself.2, hback⟩
    rw [hpush]
    exact modulePath_place_iff hparts

end

/-- A specifier begins in the directory of a file and leads to another one. -/
structure Leads (unit path specifier : String) : Prop where
  relative : startsWith specifier "./" = true ∨ startsWith specifier "../" = true
  ends : normal (join (directory unit) specifier) = path

/-- A relative specifier of a file, written with or without the suffix, stands for the module that
the file is exactly if nothing that looks like another suffix is left of the path. -/
theorem specifier_names_module {unit path name suffix : String} (hu : IsDownward unit)
    (hp : IsDownward path) (hbase : base path = name ++ suffix)
    (hs : suffix.toList ∈ sourceSuffixes) :
    Leads unit path (specifierTo unit path name ++ suffix) ∧
      (moduleOf? (directory unit) (specifierTo unit path name ++ suffix) =
        some (modulePath path) ↔ '.' ∉ name.toList ∨ name = ".") ∧
      (moduleOf? (directory unit) (specifierTo unit path name) = some (modulePath path) ↔
        ∀ last ∈ (steps (stem path)).getLast?, '.' ∉ last.toList) := by
  refine ⟨?_, specifier_suffixed_iff hp hbase hs hu, specifier_bare_iff hp hbase hs hu⟩
  rw [← specifierTo_append, ← hbase]
  exact ⟨specifierTo_relative unit path (base path), specifierTo_ends hu hp⟩

/-- From one directory to another that is not below it. -/
theorem specifier_names_cart :
    moduleOf? "web/pages" "../shop/cart.tsx" = some "web.shop.cart" ∧
      moduleOf? "web/pages" "../shop/cart" = some "web.shop.cart" := by
  have hunit : IsDownward "web/pages/app.ts" := by
    unfold IsDownward
    decide +kernel
  have hpath : IsDownward "web/shop/cart.tsx" := by
    unfold IsDownward
    decide +kernel
  have hbase : base "web/shop/cart.tsx" = "cart" ++ ".tsx" := by decide +kernel
  obtain ⟨-, hsuffixed, hbare⟩ := specifier_names_module hunit hpath hbase (by decide)
  have hdirectory : directory "web/pages/app.ts" = "web/pages" := by decide +kernel
  have hspecifier : specifierTo "web/pages/app.ts" "web/shop/cart.tsx" "cart" = "../shop/cart" := by
    decide +kernel
  have hmodule : modulePath "web/shop/cart.tsx" = "web.shop.cart" := by decide +kernel
  have hstem : steps (stem "web/shop/cart.tsx") = ["web", "shop", "cart"] := by decide +kernel
  have happend : "../shop/cart" ++ ".tsx" = "../shop/cart.tsx" := by decide
  rw [hdirectory, hspecifier, hmodule] at hsuffixed hbare
  rw [happend] at hsuffixed
  rw [hstem] at hbare
  exact ⟨hsuffixed.mpr (.inl (by decide)), hbare.mpr (by decide)⟩

/-- What follows the last dot of a name is taken for a suffix once more. -/
theorem service_is_missed :
    Leads "web/app.ts" "web/foo.service.ts" "./foo.service.ts" ∧
      moduleOf? "web" "./foo.service.ts" = some "web.foo" ∧
      moduleOf? "web" "./foo.service" = some "web.foo" ∧
      modulePath "web/foo.service.ts" = "web.foo.service" := by
  refine ⟨⟨?_, ?_⟩, ?_, ?_, ?_⟩ <;> decide +kernel

end DocAtlas.Braced
