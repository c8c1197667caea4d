import DocAtlas.Proofs.Entries
import DocAtlas.Proofs.ModulePaths
import DocAtlas.Indented.Import

/-!
What a relative import binds: a name below the package of the file, if the path of the file tells
which package that is. For some names of files it is taken for another one.
-/
namespace DocAtlas.Indented
open DocAtlas.Path

/-! ### Imports one by one -/

/-- One name that an import brings in: a module, or a name from the module `source`. -/
inductive Import where
  | module (a : Alias)
  | name (level : Nat) (source : String) (a : Alias)

/-- The name that is bound; all names at once have none. -/
def Import.local? : Import → Option String
  | .module a => some (a.bound.getD ((splitText '.' a.name).headD ""))
  | .name _ _ a => if a.name = "*" then none else some (a.bound.getD a.name)

/-- The dotted name that it stands for in a package, if it belongs to the project. -/
def Import.target? (package : List String) : Import → Option String
  | .module a =>
    if isLibraryName a.name then none
    else some (if a.bound.isSome then a.name else (splitText '.' a.name).headD "")
  | .name level source a =>
    if a.name = "*" then none
    else (sourceName? package level source).map fun base => below base a.name

def bindImport (package : List String) (bound : Keyed String) : Import → Keyed String
  | .module a => bindModule bound a
  | .name level source a =>
    match sourceName? package level source with
    | some base => bindName base bound a
    | none => bound

def Statement.imports : Statement → List Import
  | .importModules names => names.map .module
  | .importNames level source names => names.map (.name level source)
  | _ => []

def Node.imports : Node → List Import
  | .statement s => s.imports
  | _ => []

/-- All imports of a source, of which those nested less deep come first. -/
def imports (body : List Statement) : List Import :=
  (Node.walkBelow (Node.statements body)).flatMap Node.imports

theorem bindStatement_eq (package : List String) (bound : Keyed String) (s : Statement) :
    bindStatement package bound s = s.imports.foldl (bindImport package) bound := by
  cases s with
  | importModules names => rw [Statement.imports, List.foldl_map]; rfl
  | importNames level source names =>
    rw [Statement.imports, List.foldl_map]
    simp only [bindStatement, bindImport]
    cases sourceName? package level source with
    | some base => rfl
    | none => exact (List.foldl_fixed names).symm
  | _ => rfl

theorem importedNames_eq (path : String) (body : List Statement) :
    importedNames path body = (imports body).foldl (bindImport (packageOf path)) [] := by
  have hnode : ∀ bound n,
      bindNode (packageOf path) bound n = n.imports.foldl (bindImport (packageOf path)) bound := by
    intro bound n
    cases n with
    | statement s => exact bindStatement_eq (packageOf path) bound s
    | _ => rfl
  rw [importedNames, imports, List.foldl_flatMap]
  exact List.foldl_ext _ _ _ fun bound n _ => hnode bound n

/-! ### What one import binds -/

/-- An import of the project enters its name, and one of anything else changes nothing. -/
theorem bindImport_cases (package : List String) (bound : Keyed String) (i : Import) :
    (i.target? package = none ∧ bindImport package bound i = bound) ∨
      ∃ l t, i.local? = some l ∧ i.target? package = some t ∧
        (bindImport package bound i = bound.put l t ∨
          bindImport package bound i = bound.putNew l t) := by
  cases i with
  | module a =>
    simp only [bindImport, bindModule, Import.target?, Import.local?]
    split
    · exact .inl ⟨rfl, rfl⟩
    · right
      cases a.bound with
      | some name => exact ⟨name, a.name, rfl, rfl, .inl rfl⟩
      | none => exact ⟨_, _, rfl, rfl, .inr rfl⟩
  | name level source a =>
    simp only [bindImport, bindName, Import.target?, Import.local?]
    by_cases hall : a.name = "*"
    · left
      cases sourceName? package level source <;> simp [hall]
    · cases sourceName? package level source with
      | none => exact .inl ⟨by simp, rfl⟩
      | some base =>
        exact .inr ⟨_, below base a.name, if_neg hall, by simp [hall], .inl (by simp [hall])⟩

section

variable {package : List String} {bound : Keyed String} {l : String}

theorem get?_bindImport_other {i : Import} (h : i.local? ≠ some l) :
    (bindImport package bound i).get? l = bound.get? l := by
  rcases bindImport_cases package bound i with ⟨-, he⟩ | ⟨own, t, hown, -, he | he⟩
  · rw [he]
  · rw [he, Keyed.get?_put, if_neg]
    rintro rfl
    exact h hown
  · rw [he, Keyed.get?_putNew, if_neg, Option.or_none]
    rintro rfl
    exact h hown

theorem get?_bindImport_own {i : Import} (h : i.local? = some l)
    (hb : bound.get? l = none ∨ bound.get? l = i.target? package) :
    (bindImport package bound i).get? l = i.target? package := by
  rcases bindImport_cases package bound i with ⟨ht, he⟩ | ⟨own, t, hown, ht, he | he⟩
  · rw [he]
    rcases hb with hb | hb
    · rw [hb, ht]
    · exact hb
  all_goals obtain rfl : own = l := Option.some.inj (hown.symm.trans h)
  · rw [he, Keyed.get?_put, if_pos rfl, ht]
  · rw [he, Keyed.get?_putNew, if_pos rfl, ht]
    rcases hb with hb | hb
    · rw [hb, Option.none_or]
    · rw [hb, ht, Option.some_or]

/-- If no other import binds the name, it stands for what that import stands for. -/
theorem get?_foldl_bindImport {it : Import} {is : List Import}
    (only : ∀ i ∈ is, i.local? = some l → i = it)
    (hb : bound.get? l = none ∨ bound.get? l = it.target? package) :
    (is.foldl (bindImport package) bound).get? l =
      if is.any (fun i => i.local? == some l) then it.target? package else bound.get? l := by
  induction is generalizing bound with
  | nil => rfl
  | cons i is ih =>
    rw [List.forall_mem_cons] at only
    rw [List.foldl_cons, List.any_cons]
    by_cases hi : i.local? = some l
    · have hstep : (bindImport package bound i).get? l = it.target? package := by
        obtain rfl := only.1 hi
        exact get?_bindImport_own hi hb
      rw [ih only.2 (.inr hstep), hstep, ite_self, if_pos (by simp [hi])]
    · have hstep : (bindImport package bound i).get? l = bound.get? l := get?_bindImport_other hi
      have hno : (i.local? == some l) = false := by simpa using hi
      rw [ih only.2 (hstep ▸ hb), hstep, hno, Bool.false_or]

end

theorem get?_importedNames {path l : String} {body : List Statement} {it : Import}
    (mem : it ∈ imports body) (own : it.local? = some l)
    (only : ∀ i ∈ imports body, i.local? = some l → i = it) :
    (importedNames path body).get? l = it.target? (packageOf path) := by
  rw [importedNames_eq, get?_foldl_bindImport only (.inl rfl), if_pos]
  exact List.any_eq_true.mpr ⟨it, mem, by simp [own]⟩

/-! ### Relative imports -/

/-- The dotted name below the directories that a relative import leads to, if it does not lead out
of them all. -/
def relativeTarget? (dirs : List String) (level : Nat) (source name : String) : Option String :=
  if level - 1 ≤ dirs.length then
    some (dottedName (dirs.take (dirs.length - (level - 1)) ++
      (if source = "" then [] else [source]) ++ [name]))
  else none

theorem dottedName_eq_empty {parts : List String} (h : ∀ s ∈ parts, s ≠ "") :
    dottedName parts = "" ↔ parts = [] := by
  constructor
  · intro he
    cases parts with
    | nil => rfl
    | cons s rest =>
      have hlength := congrArg String.length he
      rw [dottedName, length_intercalate rfl, String.join_cons, String.length_append] at hlength
      have hs : s.length = 0 := by
        have hzero : "".length = 0 := rfl
        omega
      exact absurd (String.length_eq_zero_iff.mp hs) (h s List.mem_cons_self)
  · rintro rfl
    rfl

theorem below_dottedName {parts : List String} (h : ∀ s ∈ parts, s ≠ "") (name : String) :
    below (dottedName parts) name = dottedName (parts ++ [name]) := by
  unfold below
  by_cases hp : parts = []
  · subst hp
    exact String.intercalate_singleton.symm
  · rw [if_neg (by simpa [dottedName_eq_empty h] using hp), dottedName, dottedName,
      String.intercalate_append_of_ne_nil hp (List.cons_ne_nil name []),
      String.intercalate_singleton]

/-- A relative import starts from the package of its file. -/
theorem target?_relative {package : List String} (hp : ∀ s ∈ package, s ≠ "") {level : Nat}
    (relative : 0 < level) (source : String) {a : Alias} (named : a.name ≠ "*") :
    (Import.name level source a).target? package =
      relativeTarget? package level source a.name := by
  rw [Import.target?, if_neg named, sourceName?, if_neg (by omega), startOf?, relativeTarget?]
  by_cases hin : level - 1 ≤ package.length
  · have hstart : ∀ s ∈ package.take (package.length - (level - 1)) ++
        (if source = "" then [] else [source]), s ≠ "" := by
      rw [List.forall_mem_append]
      refine ⟨fun s hs => hp s (List.mem_of_mem_take hs), ?_⟩
      by_cases hs : source = "" <;> simp [hs]
    rw [if_pos hin, if_pos hin, Option.map_some, Option.map_some, ← below_dottedName hstart]
    by_cases hs : source = "" <;> simp [hs]
  · rw [if_neg hin, if_neg hin]
    rfl

/-- Different packages lead to different names, unless the import leads out of either. -/
theorem relativeTarget?_eq_iff {ps qs : List String} (h : ps <+: qs) (level : Nat)
    (source name : String) :
    relativeTarget? ps level source name = relativeTarget? qs level source name ↔
      ps = qs ∨ qs.length < level - 1 := by
  by_cases hsame : ps.length = qs.length
  · obtain rfl := h.eq_of_length hsame
    simp
  · have hless : ps.length < qs.length := Nat.lt_of_le_of_ne h.length_le hsame
    have hne : ps ≠ qs := fun he => hsame (he ▸ rfl)
    unfold relativeTarget?
    by_cases hout : qs.length < level - 1
    · rw [if_neg (by omega), if_neg (by omega)]
      simp [hout]
    · rw [if_pos (show level - 1 ≤ qs.length by omega)]
      refine iff_of_false (fun he => ?_) (by simp [hne, hout])
      split at he
      · -- The name from the longer package is longer by at least a dot.
        rename_i hin
        have hshorter : (ps.take (ps.length - (level - 1))).Sublist
            (qs.take (qs.length - (level - 1))) :=
          (h.take _).sublist.trans (List.take_sublist_take_left (by omega))
        have hjoin := length_join_le hshorter
        have hlength := congrArg String.length (Option.some.inj he)
        rw [dottedName, dottedName, length_intercalate rfl, length_intercalate rfl] at hlength
        simp only [String.join_append, String.length_append, List.length_append, List.length_take,
          List.length_singleton] at hlength
        omega
      · cases he

/-! ### The package of a file -/

/-- A source of the language in directories, none of which has a dot in its name. -/
structure FileIn (dirs : List String) (name suffix path : String) : Prop where
  path_eq : path = joinSegments (dirs ++ [name ++ suffix])
  dirs : ∀ s ∈ dirs, s ≠ "" ∧ '/' ∉ s.toList ∧ '.' ∉ s.toList
  name : '/' ∉ name.toList ∧ '.' ∉ name.toList
  source : suffix = ".py" ∨ suffix = ".pyi"

namespace FileIn

variable {dirs : List String} {name suffix path : String} (file : FileIn dirs name suffix path)
include file

theorem names : AreNames dirs := by
  intro s hs
  obtain ⟨hne, hslash, hdot⟩ := file.dirs s hs
  refine ⟨hslash, hne, ?_, ?_⟩ <;>
    rintro rfl <;>
    exact hdot (by decide)

theorem isSuffix : IsSuffix suffix := by
  rcases file.source with rfl | rfl <;> exact ⟨by decide, by decide, by decide⟩

theorem modulePath_eq : modulePath path = dottedName (withoutIndex (dirs ++ steps name)) := by
  have hslash : '/' ∉ (name ++ suffix).toList := by
    rw [String.toList_append, List.mem_append, not_or]
    exact ⟨file.name.1, file.isSuffix.slash⟩
  rw [file.path_eq, joinSegments_home, modulePath_home file.names hslash,
    stem_append file.name.1 file.isSuffix]
  rfl

theorem parts_names : ∀ s ∈ withoutIndex (dirs ++ steps name), s ≠ "" ∧ '.' ∉ s.toList := by
  intro s hs
  rcases List.mem_append.mp ((withoutIndex_begins _).subset hs) with hd | hn
  · exact ⟨(file.dirs s hd).1, (file.dirs s hd).2.2⟩
  · obtain ⟨hmem, hne⟩ := List.mem_filter.mp hn
    rw [segments_of_no_slash file.name.1, List.mem_singleton] at hmem
    subst hmem
    exact ⟨by simpa using (Bool.and_eq_true_iff.mp hne).1, file.name.2⟩

theorem dottedParts_modulePath :
    dottedParts (modulePath path) = withoutIndex (dirs ++ steps name) := by
  rw [file.modulePath_eq, dottedParts]
  by_cases hempty : withoutIndex (dirs ++ steps name) = []
  · rw [hempty]
    rfl
  · have hname := (dottedName_eq_empty fun s hs => (file.parts_names s hs).1).not.mpr hempty
    rw [if_neg (by simpa using hname), dottedName]
    exact splitText_intercalate rfl hempty fun s hs => (file.parts_names s hs).2

/-- Whether the path ends like that of a package is seen from the name of the file. -/
theorem endsWith_init :
    endsWith path "__init__.py" = true ↔ endsWith name "__init__" = true ∧ suffix = ".py" := by
  have hbase : Text.afterLast '/' (home dirs ++ name).toList = name.toList := by
    have h := congrArg String.toList (base_home dirs file.name.1)
    rwa [base, String.toList_ofList] at h
  have hsplit : "__init__.py".toList = "__init__".toList ++ ".py".toList := by decide
  rw [file.path_eq, joinSegments_home, ← String.append_assoc, endsWith, endsWith,
    List.isSuffixOf_iff_suffix, List.isSuffixOf_iff_suffix, String.toList_append]
  rcases file.source with rfl | rfl
  · rw [hsplit, List.suffix_append_self_iff, and_iff_left rfl]
    constructor
    · intro h
      exact hbase ▸ Text.suffix_afterLast h (by decide)
    · intro h
      rw [String.toList_append]
      exact List.suffix_append_of_suffix h
  · refine iff_of_false ?_ (by simp)
    rintro ⟨front, he⟩
    have hlast := congrArg List.getLast? he
    rw [List.getLast?_append_of_ne_nil front (by decide),
      List.getLast?_append_of_ne_nil _ (by decide)] at hlast
    exact absurd hlast (by decide)

theorem packageOf_eq :
    packageOf path =
      if endsWith name "__init__" = true ∧ suffix = ".py" then withoutIndex (dirs ++ steps name)
      else (withoutIndex (dirs ++ steps name)).dropLast := by
  rw [packageOf, file.dottedParts_modulePath]
  exact if_congr file.endsWith_init rfl rfl

theorem packageOf_names : ∀ s ∈ packageOf path, s ≠ "" := by
  intro s hs
  rw [file.packageOf_eq] at hs
  split at hs
  · exact (file.parts_names s hs).1
  · exact (file.parts_names s (List.mem_of_mem_dropLast hs)).1

end FileIn

/-- The path of a file tells its package: for the file of a package that has the one suffix, and for
the others if their names do not look like that of a package or of an index. -/
def KnowsPackage (dirs : List String) (name suffix : String) : Prop :=
  if name = "" ∨ isDirectoryFile name = true then dirs = [] ∨ name = "__init__" ∧ suffix = ".py"
  else ¬(endsWith name "__init__" = true ∧ suffix = ".py")

theorem eq_iff_of_prefix_dropLast {ps dirs : List String} (h : ps <+: dirs.dropLast) :
    ps = dirs ↔ dirs = [] := by
  constructor
  · rintro rfl
    have hlength := h.length_le
    rw [List.length_dropLast] at hlength
    exact List.length_eq_zero_iff.mp (by omega)
  · rintro rfl
    exact List.prefix_nil.mp h

/-- The package that is found has the directories of the file or begins as they do, and these are
its parts exactly if the path tells. -/
theorem FileIn.packageOf_eq_iff {dirs : List String} {name suffix path : String}
    (file : FileIn dirs name suffix path) :
    (packageOf path <+: dirs ∨ dirs <+: packageOf path) ∧
      (packageOf path = dirs ↔ KnowsPackage dirs name suffix) := by
  have hshort : ∀ ps, ps <+: dirs.dropLast →
      (ps <+: dirs ∨ dirs <+: ps) ∧ (ps = dirs ↔ dirs = []) := fun ps h =>
    ⟨.inl (h.trans (List.dropLast_prefix dirs)), eq_iff_of_prefix_dropLast h⟩
  rw [file.packageOf_eq, KnowsPackage]
  by_cases hempty : name = ""
  · subst hempty
    have hsteps : dirs ++ steps "" = dirs := by rw [steps_empty, List.append_nil]
    have hend : endsWith "" "__init__" = false := by decide
    have hfewer : (withoutIndex dirs).dropLast <+: dirs.dropLast := by
      unfold withoutIndex
      split
      · exact List.dropLast_prefix _
      · exact List.prefix_refl _
    rw [hsteps, hend, if_neg (by simp), if_pos (by simp)]
    simpa using hshort _ hfewer
  · have hself : name ≠ "." := by
      rintro rfl
      exact file.name.2 (by decide)
    rw [steps_name file.name.1 hempty hself, withoutIndex_concat]
    cases hindex : isDirectoryFile name with
    | true =>
      have hinit : endsWith name "__init__" = true ↔ name = "__init__" := by
        rcases Bool.or_eq_true_iff.mp hindex with h | h <;> rw [beq_iff_eq.mp h] <;> decide
      rw [if_pos rfl, if_pos (Or.inr rfl : name = "" ∨ true = true)]
      by_cases h : name = "__init__" ∧ suffix = ".py"
      · rw [if_pos ⟨hinit.mpr h.1, h.2⟩]
        exact ⟨.inl (List.prefix_refl dirs), iff_of_true rfl (.inr h)⟩
      · rw [if_neg fun hi => h ⟨hinit.mp hi.1, hi.2⟩, or_iff_left h]
        exact hshort _ (List.prefix_refl _)
    | false =>
      rw [if_neg Bool.false_ne_true, List.dropLast_concat,
        if_neg (by simp [hempty] : ¬(name = "" ∨ false = true))]
      by_cases h : endsWith name "__init__" = true ∧ suffix = ".py"
      · rw [if_pos h]
        exact ⟨.inr (List.prefix_append dirs [name]), iff_of_false (by simp) (not_not.mpr h)⟩
      · rw [if_neg h]
        exact ⟨.inl (List.prefix_refl dirs), iff_of_true rfl h⟩

/-- A relative import binds the name below the directories of the file that it asks for exactly if
the path tells the package of the file, or if the import leads out of the project. -/
theorem relative_import_binds {dirs : List String} {name suffix path : String}
    (file : FileIn dirs name suffix path) {body : List Statement} {level : Nat} {source : String}
    {a : Alias} (relative : 0 < level) (named : a.name ≠ "*")
    (mem : .name level source a ∈ imports body)
    (only : ∀ i ∈ imports body,
      i.local? = some (a.bound.getD a.name) → i = .name level source a) :
    (importedNames path body).get? (a.bound.getD a.name) =
        relativeTarget? (packageOf path) level source a.name ∧
      ((importedNames path body).get? (a.bound.getD a.name) =
          relativeTarget? dirs level source a.name ↔
        KnowsPackage dirs name suffix ∨
          dirs.length < level - 1 ∧ (packageOf path).length < level - 1) := by
  have hbound : (importedNames path body).get? (a.bound.getD a.name) =
      relativeTarget? (packageOf path) level source a.name :=
    (get?_importedNames mem (if_neg named) only).trans
      (target?_relative file.packageOf_names relative source named)
  obtain ⟨hbegin, hknows⟩ := file.packageOf_eq_iff
  refine ⟨hbound, ?_⟩
  rw [hbound, ← hknows]
  rcases hbegin with h | h
  · have hlength := h.length_le
    rw [relativeTarget?_eq_iff h]
    exact or_congr_right (by omega)
  · have hlength := h.length_le
    rw [eq_comm, relativeTarget?_eq_iff h, eq_comm]
    exact or_congr_right (by omega)

theorem imports_single (level : Nat) (source : String) (names : List Alias) :
    imports [.importNames level source names] = names.map (.name level source) := by
  simp [imports, Node.imports, Statement.imports, Node.walkBelow, Node.statements, Node.levels_eq,
    Node.children, Statement.children, Node.joinLevels]

/-- From a package one level up. -/
theorem relative_import_binds_store :
    (importedNames "shop/cart/__init__.py" [.importNames 2 "store" [⟨"Store", some "Shelf"⟩]]).get?
      "Shelf" = some "shop.store.Store" := by
  have hfile : FileIn ["shop", "cart"] "__init__" ".py" "shop/cart/__init__.py" :=
    ⟨by decide +kernel, by decide, by decide, .inl rfl⟩
  have himports := imports_single 2 "store" [⟨"Store", some "Shelf"⟩]
  have hmem : .name 2 "store" ⟨"Store", some "Shelf"⟩ ∈
      imports [.importNames 2 "store" [⟨"Store", some "Shelf"⟩]] := by simp [himports]
  have honly : ∀ i ∈ imports [.importNames 2 "store" [⟨"Store", some "Shelf"⟩]],
      i.local? = some "Shelf" → i = .name 2 "store" ⟨"Store", some "Shelf"⟩ := by
    simp [himports]
  have hbinds := relative_import_binds hfile (by decide) (by decide) hmem honly
  have htarget : relativeTarget? ["shop", "cart"] 2 "store" "Store" = some "shop.store.Store" := by
    decide +kernel
  rw [← htarget]
  exact hbinds.2.mpr (.inl (.inr ⟨rfl, rfl⟩))

/-- The package of a file that only declares types is not known, and the directory is left out. -/
theorem stub_package_is_missed :
    FileIn ["shop"] "__init__" ".pyi" "shop/__init__.pyi" ∧
      imports [.importNames 1 "store" [⟨"Store", none⟩]] = [.name 1 "store" ⟨"Store", none⟩] ∧
      (importedNames "shop/__init__.pyi" [.importNames 1 "store" [⟨"Store", none⟩]]).get? "Store" =
        some "store.Store" ∧
      relativeTarget? ["shop"] 1 "store" "Store" = some "shop.store.Store" := by
  have himports := imports_single 1 "store" [⟨"Store", none⟩]
  refine ⟨⟨by decide +kernel, by decide, by decide, .inr rfl⟩, himports, ?_, by decide +kernel⟩
  rw [importedNames_eq, himports]
  decide +kernel

end DocAtlas.Indented
