import DocAtlas.Proofs.ModulePaths

/-!
Paths that are joined and made normal. What counts of a path is its root and its steps: joining adds
steps, the directory of a path loses the last one, and the normal form only looks at them.
-/
namespace DocAtlas.Path
open Text

/-! ### Joined segments -/

theorem toList_joinSegments_cons (s : String) (rest : List String) :
    ∃ tail, (joinSegments (s :: rest)).toList = s.toList ++ tail := by
  cases rest with
  | nil => exact ⟨[], by rw [joinSegments, String.intercalate_singleton, List.append_nil]⟩
  | cons t rest =>
    refine ⟨("/" ++ joinSegments (t :: rest)).toList, ?_⟩
    rw [joinSegments, String.intercalate_cons_cons, String.append_assoc, String.toList_append,
      joinSegments]

theorem exists_head_joinSegments {s : String} (hs : '/' ∉ s.toList) (hne : s ≠ "")
    (rest : List String) : ∃ c cs, (joinSegments (s :: rest)).toList = c :: cs ∧ c ≠ '/' := by
  obtain ⟨c, cs, hc⟩ := List.exists_cons_of_ne_nil (l := s.toList) (by simpa using hne)
  obtain ⟨tail, ht⟩ := toList_joinSegments_cons s rest
  refine ⟨c, cs ++ tail, by rw [ht, hc, List.cons_append], ?_⟩
  rintro rfl
  exact hs (by simp [hc])

section

variable {s : String} (hs : '/' ∉ s.toList) (hne : s ≠ "") (rest : List String)
include hs hne

theorem startsWith_slash_joinSegments : startsWith (joinSegments (s :: rest)) "/" = false := by
  obtain ⟨c, cs, hc, hslash⟩ := exists_head_joinSegments hs hne rest
  rw [startsWith, hc]
  simpa [List.isPrefixOf] using hslash.symm

theorem rootSlashes_joinSegments : rootSlashes (joinSegments (s :: rest)) = "" := by
  obtain ⟨c, cs, hc, hslash⟩ := exists_head_joinSegments hs hne rest
  rw [rootSlashes, hc, List.takeWhile_cons_of_neg (by simpa using hslash)]
  rfl

/-- A path that begins with a name goes on behind a text that ends with no slash. -/
theorem join_of_last {dir : String} {front : List Char} {c : Char}
    (hlast : dir.toList = front ++ [c]) (hslash : c ≠ '/') :
    join dir (joinSegments (s :: rest)) = dir ++ "/" ++ joinSegments (s :: rest) := by
  have hempty : dir.isEmpty = false := by
    rw [← Bool.not_eq_true, String.isEmpty_iff, ← String.toList_inj, hlast]
    simp
  have hend : endsWith dir "/" = false := by
    rw [← Bool.not_eq_true, endsWith, List.isSuffixOf_iff_suffix, hlast]
    rintro ⟨a, ha⟩
    exact hslash (List.singleton_inj.mp (List.append_inj' ha rfl).2).symm
  rw [join, startsWith_slash_joinSegments hs hne, if_neg Bool.false_ne_true, hempty, hend,
    Bool.or_false, if_neg Bool.false_ne_true]

/-- A path that begins with a name goes on from the directory that it is joined to. -/
theorem join_joinSegments {dirs : List String} (hd : AreNames dirs) :
    join (joinSegments dirs) (joinSegments (s :: rest)) = joinSegments (dirs ++ s :: rest) := by
  by_cases hdirs : dirs = []
  · subst hdirs
    rw [join, startsWith_slash_joinSegments hs hne, if_neg Bool.false_ne_true]
    rfl
  · obtain ⟨front, c, hlast, hslash⟩ := exists_last_joinSegments hd.proper hdirs
    rw [join_of_last hs hne rest hlast hslash]
    exact (String.intercalate_append_of_ne_nil hdirs (List.cons_ne_nil s rest)).symm

end

/-- Names below a place are the segments behind those of the place. -/
theorem segments_join_text {p : Disk.Place} (hp : ∀ s ∈ p, '/' ∉ s.toList ∧ s ≠ "")
    {names : List String} (hn : ∀ s ∈ names, '/' ∉ s.toList ∧ s ≠ "") (hne : names ≠ []) :
    segments (join p.text (joinSegments names)) = "" :: (p ++ names) := by
  have hbelow : segments (joinSegments names) = names :=
    segments_joinSegments hne fun s hs => (hn s hs).1
  obtain ⟨s, rest, rfl⟩ := List.exists_cons_of_ne_nil hne
  obtain ⟨hs, hempty⟩ := hn s List.mem_cons_self
  have hroot : ∀ path : String, segments ("/" ++ path) = "" :: segments path :=
    fun path => segments_append "" path
  by_cases hnone : p = []
  · subst hnone
    rw [join, startsWith_slash_joinSegments hs hempty, if_neg Bool.false_ne_true]
    exact (hroot _).trans (congrArg _ hbelow)
  · obtain ⟨front, c, hlast, hslash⟩ := exists_last_joinSegments hp hnone
    have htext : p.text.toList = '/' :: front ++ [c] := by
      rw [Disk.Place.text, String.toList_append, hlast]
      rfl
    rw [join_of_last hs hempty rest htext hslash, segments_append, hbelow, Disk.Place.text, hroot,
      segments_joinSegments hnone fun s hs => (hp s hs).1]
    rfl

/-- The path of segments; that of none stands for where one is. -/
def place (parts : List String) : String :=
  if (joinSegments parts).isEmpty then "." else joinSegments parts

/-- A way that begins with a segment leads to where its segments lead, one after the other. -/
theorem normal_joinSegments {way : List String} (hw : ∀ part ∈ way, '/' ∉ part.toList ∧ part ≠ "")
    (hne : way ≠ []) {name : String} (hn : '/' ∉ name.toList) :
    normal (joinSegments (way ++ [name])) =
      place (push false (way.foldl (push false) []) name).reverse := by
  have hparts : ∀ part ∈ way ++ [name], '/' ∉ part.toList := by
    rw [List.forall_mem_append, List.forall_mem_singleton]
    exact ⟨fun part hp => (hw part hp).1, hn⟩
  obtain ⟨s, rest, rfl⟩ := List.exists_cons_of_ne_nil hne
  obtain ⟨hslash, hempty⟩ := hw s List.mem_cons_self
  rw [normal, normalSegments, segments_joinSegments (by simp) hparts, List.cons_append,
    rootSlashes_joinSegments hslash hempty, startsWith_slash_joinSegments hslash hempty,
    String.empty_append, ← List.cons_append, List.foldl_append]
  rfl

/-! ### Walking names and steps back -/

section

variable {rooted : Bool}

theorem push_name {name : String} (h : name ≠ "" ∧ name ≠ "." ∧ name ≠ "..")
    (reversed : List String) : push rooted reversed name = name :: reversed := by
  simp [push, h]

theorem foldl_push_names {names : List String} (h : AreNames names) (reversed : List String) :
    names.foldl (push rooted) reversed = names.reverse ++ reversed := by
  induction names generalizing reversed with
  | nil => rfl
  | cons name names ih =>
    have hrest : AreNames names := fun s hs => h s (List.mem_cons_of_mem name hs)
    rw [List.foldl_cons, push_name (h name List.mem_cons_self).2, ih hrest, List.reverse_cons,
      List.append_assoc, List.singleton_append]

/-- As many steps back as there are names lead out of them. -/
theorem foldl_push_back {names : List String} (h : AreNames names) (reversed : List String) :
    (List.replicate names.length "..").foldl (push rooted) (names ++ reversed) = reversed := by
  induction names with
  | nil => rfl
  | cons name names ih =>
    have hrest : AreNames names := fun s hs => h s (List.mem_cons_of_mem name hs)
    have hback : push rooted (name :: (names ++ reversed)) ".." = names ++ reversed := by
      simp [push, h name List.mem_cons_self]
    rw [List.length_cons, List.replicate_succ, List.foldl_cons, List.cons_append, hback, ih hrest]

/-- From directories back to those that they share with others, and on from there. -/
theorem foldl_push_detour {common up : List String} (h : AreNames (common ++ up))
    (down reversed : List String) :
    (common ++ up ++ (List.replicate up.length ".." ++ down)).foldl (push rooted) reversed =
      (common ++ down).foldl (push rooted) reversed := by
  have hcommon : AreNames common := fun s hs => h s (List.mem_append_left _ hs)
  have hup : AreNames up.reverse := fun s hs =>
    h s (List.mem_append_right _ (List.mem_reverse.mp hs))
  rw [List.foldl_append, foldl_push_names h, List.reverse_append, List.append_assoc,
    List.foldl_append, ← List.length_reverse, foldl_push_back hup, List.foldl_append,
    foldl_push_names hcommon]

end

/-! ### The root and the steps of a path -/

theorem rootSlashes_cases (path : String) :
    rootSlashes path = "" ∨ rootSlashes path = "/" ∨ rootSlashes path = "//" := by
  unfold rootSlashes
  split <;> simp

theorem rootSlashes_of_relative {path : String} (h : IsRelative path) : rootSlashes path = "" := by
  obtain ⟨c, rest, hp, hc⟩ := h
  rw [rootSlashes, hp, List.takeWhile_cons_of_neg (by simpa using hc)]
  rfl

theorem rootSlashes_rootSlashes (path : String) :
    rootSlashes (rootSlashes path) = rootSlashes path := by
  rcases rootSlashes_cases path with h | h | h <;> rw [h] <;> decide

theorem startsWith_slash_eq (path : String) :
    startsWith path "/" = (rootSlashes path != "") := by
  have hslash : "/".toList = ['/'] := rfl
  cases hp : path.toList with
  | nil => simp [startsWith, rootSlashes, hp, hslash]
  | cons c rest =>
    by_cases hc : c = '/'
    · have hlength : (path.toList.takeWhile (· == '/')).length ≠ 0 := by simp [hp, hc]
      have hroot : rootSlashes path ≠ "" := by
        unfold rootSlashes
        split <;> simp_all
      rw [bne_iff_ne.mpr hroot, startsWith, hp, hc, hslash]
      rfl
    · rw [rootSlashes_of_relative ⟨c, rest, hp, hc⟩, startsWith, hp, hslash]
      simpa [List.isPrefixOf] using Ne.symm hc

/-- Slashes before a path lead nowhere. -/
theorem steps_slashes {slashes : List Char} (h : ∀ c ∈ slashes, c = '/') (path : String) :
    steps (String.ofList slashes ++ path) = steps path := by
  induction slashes with
  | nil => simp
  | cons c slashes ih =>
    rw [List.forall_mem_cons] at h
    have hstart : String.ofList (c :: slashes) ++ path =
        "" ++ "/" ++ (String.ofList slashes ++ path) := by
      apply String.toList_inj.mp
      simp [h.1]
    rw [hstart, steps_append, steps_empty, List.nil_append, ih h.2]

theorem steps_rootSlashes (path rest : String) : steps (rootSlashes path ++ rest) = steps rest := by
  have hroot : ∀ c ∈ (rootSlashes path).toList, c = '/' := by
    rcases rootSlashes_cases path with h | h | h <;> simp [h]
  rw [← String.ofList_toList (s := rootSlashes path), steps_slashes hroot]

theorem no_slash_base (path : String) : '/' ∉ (base path).toList := by
  intro h
  rw [base, String.toList_ofList, afterLast, List.mem_reverse] at h
  simpa using List.mem_takeWhile_imp h

/-- The slashes at the end of a text can be taken off. -/
theorem exists_slashes (a : List Char) :
    ∃ front n, a = front ++ List.replicate n '/' ∧ a.reverse.dropWhile (· == '/') = front.reverse ∧
      front.getLast? ≠ some '/' := by
  induction a using List.reverseRecOn with
  | nil => exact ⟨[], 0, rfl, rfl, by simp⟩
  | append_singleton a c ih =>
    rw [List.reverse_append, List.reverse_singleton, List.singleton_append]
    by_cases hc : c = '/'
    · obtain ⟨front, n, ha, hdrop, hlast⟩ := ih
      refine ⟨front, n + 1, ?_, ?_, hlast⟩
      · rw [ha, hc, List.append_assoc, List.replicate_succ']
      · rw [List.dropWhile_cons_of_pos (by simpa using hc), hdrop]
    · refine ⟨a ++ [c], 0, by simp, ?_, by simpa using hc⟩
      rw [List.dropWhile_cons_of_neg (by simpa using hc)]
      simp

/-- Slashes are the directory of what stands at the root. -/
theorem directory_of_slashes {path : String} {a b : List Char} (he : path.toList = a ++ '/' :: b)
    (hb : '/' ∉ b) (slashes : ∀ c ∈ a, c = '/') : directory path = String.ofList (a ++ ['/']) := by
  have hall : (a ++ ['/']).all (· == '/') = true := by simpa using slashes
  simp only [directory, he, beforeLast?_append a hb, hall, if_true]

/-- From any other directory the slashes at its end are taken off. -/
theorem directory_of_front {path : String} {front b : List Char} {n : Nat}
    (he : path.toList = front ++ List.replicate n '/' ++ '/' :: b) (hb : '/' ∉ b)
    (hdrop : (front ++ List.replicate n '/').reverse.dropWhile (· == '/') = front.reverse)
    (hfront : ¬∀ c ∈ front, c = '/') : directory path = String.ofList front := by
  have hall : (front ++ List.replicate n '/' ++ ['/']).all (· == '/') = false := by
    rw [← Bool.not_eq_true, List.all_append, List.all_append]
    simpa using hfront
  rw [directory, he, beforeLast?_append _ hb]
  simp only [hall, Bool.false_eq_true, if_false]
  rw [List.reverse_append, List.reverse_singleton, List.singleton_append,
    List.dropWhile_cons_of_pos rfl, hdrop, List.reverse_reverse]

/-- Before the name in a path stand slashes only, or its directory and more slashes. -/
theorem directory_cases (path : String) :
    ∃ slashes : List Char, (∀ c ∈ slashes, c = '/') ∧
      (directory path = String.ofList slashes ∧ path = String.ofList slashes ++ base path ∨
        endsWith (directory path) "/" = false ∧ directory path ≠ "" ∧
          path = directory path ++ "/" ++ (String.ofList slashes ++ base path)) := by
  by_cases hslash : '/' ∈ path.toList
  · obtain ⟨a, b, he, hb⟩ := exists_last_sep hslash
    have hbase : base path = String.ofList b := by rw [base, he, afterLast_append a hb]
    rw [hbase]
    by_cases hall : ∀ c ∈ a, c = '/'
    · refine ⟨a ++ ['/'], ?_, .inl ⟨directory_of_slashes he hb hall, ?_⟩⟩
      · exact List.forall_mem_append.mpr ⟨hall, List.forall_mem_singleton.mpr rfl⟩
      · apply String.toList_inj.mp
        simp [he]
    · obtain ⟨front, n, rfl, hdrop, hlast⟩ := exists_slashes a
      have hfront : ¬∀ c ∈ front, c = '/' := by
        intro h
        refine hall fun c hc => ?_
        rcases List.mem_append.mp hc with hc | hc
        · exact h c hc
        · exact List.eq_of_mem_replicate hc
      have hdir := directory_of_front he hb hdrop hfront
      refine ⟨List.replicate n '/', fun c hc => List.eq_of_mem_replicate hc, .inr ⟨?_, ?_, ?_⟩⟩
      · rw [hdir, endsWith, ← Bool.not_eq_true, List.isSuffixOf_iff_suffix, String.toList_ofList]
        rintro ⟨rest, hrest⟩
        rw [String.toList_ofList] at hrest
        exact hlast (hrest ▸ List.getLast?_concat)
      · rw [hdir, ne_eq, String.ofList_eq_empty_iff]
        rintro rfl
        exact hfront (List.forall_mem_nil _)
      · have hmove : List.replicate n '/' ++ '/' :: b = '/' :: (List.replicate n '/' ++ b) := by
          rw [← List.singleton_append, ← List.append_assoc, ← List.replicate_succ',
            List.replicate_succ, List.cons_append]
        apply String.toList_inj.mp
        rw [hdir, he]
        simp [hmove]
  · have hbase : base path = path := by
      rw [base, afterLast_of_not_mem hslash, String.ofList_toList]
    refine ⟨[], by simp, .inl ⟨?_, ?_⟩⟩
    · rw [directory, beforeLast?_of_not_mem hslash]
    · rw [hbase]
      simp

theorem rootSlashes_directory (path : String) : rootSlashes (directory path) = rootSlashes path := by
  obtain ⟨slashes, hslashes, ⟨hdir, hpath⟩ | ⟨hend, hne, hpath⟩⟩ := directory_cases path
  · conv_rhs => rw [hpath]
    rw [hdir]
    cases hb : (base path).toList with
    | nil => rw [String.toList_eq_nil_iff.mp hb, String.append_empty]
    | cons c rest =>
      refine (rootSlashes_append ⟨c, rest, hb, ?_⟩).symm
      rintro rfl
      exact no_slash_base path (by simp [hb])
  · conv_rhs => rw [hpath, rootSlashes_append_slash hend hne]

/-- The directory of a path takes all its steps but that to its name. -/
theorem steps_directory (path : String) :
    steps path = steps (directory path) ++ steps (base path) := by
  obtain ⟨slashes, hslashes, ⟨hdir, hpath⟩ | ⟨-, -, hpath⟩⟩ := directory_cases path
  · have hnone := steps_slashes hslashes ""
    rw [String.append_empty, steps_empty] at hnone
    conv_lhs => rw [hpath, steps_slashes hslashes]
    rw [hdir, hnone, List.nil_append]
  · conv_lhs => rw [hpath, steps_append, steps_slashes hslashes]

/-! ### Normal forms -/

theorem no_slash_of_mem_steps {path s : String} (h : s ∈ steps path) :
    '/' ∉ s.toList ∧ s ≠ "" ∧ s ≠ "." := by
  obtain ⟨hs, hstep⟩ := List.mem_filter.mp h
  exact ⟨no_slash_of_mem_segments hs, by simpa using hstep⟩

/-- A path keeps its root and its steps when only its segments that lead nowhere are left out. -/
theorem plain_eq (path : String) :
    rootSlashes (plain path) = rootSlashes path ∧ steps (plain path) = steps path := by
  have hplain : plain path = if (rootSlashes path ++ joinSegments (steps path)).isEmpty then "."
    else rootSlashes path ++ joinSegments (steps path) := rfl
  have hself : (steps path).filter (fun s => s != "" && s != ".") = steps path :=
    List.filter_eq_self.mpr fun s hs => by simp [no_slash_of_mem_steps hs]
  have hback : steps (joinSegments (steps path)) = steps path := by
    rw [steps_joinSegments fun s hs => (no_slash_of_mem_steps hs).1, hself]
  have hroot : rootSlashes (rootSlashes path ++ joinSegments (steps path)) = rootSlashes path := by
    cases hsteps : steps path with
    | nil =>
      have hnone : joinSegments [] = "" := rfl
      rw [hnone, String.append_empty, rootSlashes_rootSlashes]
    | cons s rest =>
      obtain ⟨hslash, hne, -⟩ := no_slash_of_mem_steps (hsteps ▸ List.mem_cons_self)
      rw [rootSlashes_append (exists_head_joinSegments hslash hne rest), rootSlashes_rootSlashes]
  have hsteps : steps (rootSlashes path ++ joinSegments (steps path)) = steps path := by
    rw [steps_rootSlashes, hback]
  rw [hplain]
  split
  · next hempty =>
    rw [String.isEmpty_iff.mp hempty] at hroot hsteps
    rw [← hroot, ← hsteps]
    decide
  · exact ⟨hroot, hsteps⟩

/-- Where steps lead from a root. -/
def lead (root : String) (parts : List String) : String :=
  let text := root ++ joinSegments (parts.foldl (push (root != "")) []).reverse
  if text.isEmpty then "." else text

/-- Segments that lead nowhere can be left out of a walk. -/
theorem foldl_push_steps (rooted : Bool) (path : String) (reversed : List String) :
    (segments path).foldl (push rooted) reversed = (steps path).foldl (push rooted) reversed := by
  have hskip (reversed : List String) (s : String) :
      (if (s != "" && s != ".") = true then push rooted reversed s else reversed) =
        push rooted reversed s := by
    by_cases h : s = "" ∨ s = "."
    · rcases h with rfl | rfl <;> rfl
    · rw [not_or] at h
      rw [if_pos (by simp [h])]
  rw [steps, List.foldl_filter]
  simp only [hskip]

/-- The normal form of a path only looks at its root and its steps. -/
theorem normal_eq_lead (path : String) : normal path = lead (rootSlashes path) (steps path) := by
  rw [normal, normalSegments, foldl_push_steps, startsWith_slash_eq]
  rfl

theorem normalSegments_of_names {path : String} (h : AreNames (steps path)) :
    normalSegments path = steps path := by
  rw [normalSegments, foldl_push_steps, foldl_push_names h, List.append_nil, List.reverse_reverse]

/-- A path of names is its own normal form. -/
theorem lead_names {path : String} (h : IsDownward path) : lead "" (segments path) = path := by
  have hne : path ≠ "" := by
    obtain ⟨c, rest, hp, -⟩ := h.relative
    rintro rfl
    cases hp
  rw [lead, foldl_push_names h.names, List.append_nil, List.reverse_reverse, joinSegments_segments,
    String.empty_append, if_neg (by simpa using hne)]

end DocAtlas.Path
