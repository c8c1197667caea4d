import DocAtlas.Proofs.Candidates
import DocAtlas.Proofs.Declaring
import DocAtlas.Proofs.Splitting

/-!
Which names of one file derive one id. The id of a component leaves its name out where the path ends
with it, so all names with which a path ends derive the same id: that of the path alone.
-/
namespace DocAtlas
open Text

/-! ### Names with which a path ends -/

/-- The slug of a path without its suffix. -/
def fileSlug (path : String) : String :=
  slug (String.ofList (replaceChar '/' '-' (Path.stem path).toList))

/-- The last words of the path are those of the name. -/
def EndsWithName (path name : String) : Prop :=
  splitAt '-' (slug name).toList <:+ splitAt '-' (fileSlug path).toList

theorem endsWithName_iff {path name : String} :
    EndsWithName path name ↔
      fileSlug path = slug name ∨ endsWith (fileSlug path) ("-" ++ slug name) = true := by
  rw [EndsWithName, splitAt_suffix_iff, String.toList_inj, endsWith, List.isSuffixOf_iff_suffix,
    String.toList_append, show "-".toList = ['-'] from rfl, List.singleton_append]

theorem componentId_eq (path name : String) :
    componentId path name =
      if (slug name).isEmpty || fileSlug path == slug name ||
          endsWith (fileSlug path) ("-" ++ slug name) then
        if (fileSlug path).isEmpty then slug name else fileSlug path
      else if (fileSlug path).isEmpty then slug name
      else fileSlug path ++ "-" ++ slug name := rfl

section

variable {path name : String} (hn : slug name ≠ "")
include hn

theorem fileSlug_ne_empty (h : EndsWithName path name) : fileSlug path ≠ "" := by
  rcases endsWithName_iff.mp h with he | hs
  · rwa [he]
  · rintro he
    rw [he, endsWith, List.isSuffixOf_iff_suffix] at hs
    exact absurd (List.suffix_nil.mp hs) (by simp)

theorem componentId_of_ends (h : EndsWithName path name) :
    componentId path name = fileSlug path := by
  have hfile := fileSlug_ne_empty hn h
  rw [endsWithName_iff] at h
  rw [componentId_eq, if_pos (by simpa [or_assoc] using .inr h), if_neg (by simpa using hfile)]

theorem componentId_of_not_ends (h : ¬EndsWithName path name) :
    componentId path name =
      if fileSlug path = "" then slug name else fileSlug path ++ "-" ++ slug name := by
  rw [endsWithName_iff, not_or] at h
  rw [componentId_eq, if_neg (by simpa [hn] using h)]
  simp only [String.isEmpty_iff]

theorem componentId_ne_fileSlug (h : ¬EndsWithName path name) :
    componentId path name ≠ fileSlug path := by
  rw [componentId_of_not_ends hn h]
  split
  · rename_i hfile
    rw [hfile]
    exact hn
  · intro he
    have hlength := congrArg String.length he
    rw [String.length_append, String.length_append, show "-".length = 1 from rfl] at hlength
    omega

end

/-- Two names of one file derive one id exactly if the path ends with both. -/
theorem componentId_eq_iff {path a b : String} (ha : slug a ≠ "") (hb : slug b ≠ "")
    (hne : slug a ≠ slug b) :
    componentId path a = componentId path b ↔ EndsWithName path a ∧ EndsWithName path b := by
  by_cases hea : EndsWithName path a
  · by_cases heb : EndsWithName path b
    · simp [componentId_of_ends ha hea, componentId_of_ends hb heb, hea, heb]
    · have hother := componentId_ne_fileSlug hb heb
      simp [componentId_of_ends ha hea, heb, hother.symm]
  · by_cases heb : EndsWithName path b
    · have hother := componentId_ne_fileSlug ha hea
      simp [componentId_of_ends hb heb, hea, hother]
    · refine iff_of_false ?_ fun h => hea h.1
      rw [componentId_of_not_ends ha hea, componentId_of_not_ends hb heb]
      split
      · exact hne
      · exact fun he => hne ((String.append_right_inj _).mp he)

/-! ### Candidates of one file -/

theorem declared_derived {registry : Registry} {content : SourceUnit → String}
    {units : List SourceUnit} {os : List (SourceUnit × Extract.Outcome)}
    (h : Extract.outcomes registry content units = .ok os)
    (derived : ∀ u ∈ units, ∀ y, Extract.outcomeOf registry content u = .ok (.read y) →
      DeclaredIn u.path y.components) :
    ∀ d ∈ Extract.declared os,
      d.component.id = componentId d.component.path d.component.name := by
  intro d hd
  have hm : d.component ∈ os.flatMap (·.2.components) := by
    rw [← Extract.declared_components]
    exact List.mem_map_of_mem hd
  obtain ⟨u, hu, hc⟩ := List.mem_flatMap.mp hm
  obtain ⟨hpath, hid⟩ := Extract.outcomes_components h derived u hu d.component hc
  rw [hpath]
  exact hid

/-- Two names of one file derive one id exactly if the path ends with both of them. Adapters that
are always available derive all their ids, and wherever ids are derived every declared component
becomes a candidate, but those of two names become the same one exactly if the path ends with both,
or if the numbered id made up for one is that of the other. -/
theorem shares_id_iff {registry : Registry} {limits : Extract.Limits} {content : SourceUnit → String}
    {units : List SourceUnit} {x : Extract.Extraction}
    (extracted : Extract.extract registry limits content units = .ok x)
    (distinct : (units.map (·.path)).Nodup)
    (derived : ∀ u ∈ units, ∀ y, Extract.outcomeOf registry content u = .ok (.read y) →
      DeclaredIn u.path y.components) :
    (∀ path a b, slug a ≠ "" → slug b ≠ "" → slug a ≠ slug b →
      (componentId path a = componentId path b ↔ EndsWithName path a ∧ EndsWithName path b)) ∧
    (∀ a ∈ builtinAdapters, ∀ (u : SourceUnit) (text : String) (y : Yield),
      a.extract u text = .ok y → DeclaredIn u.path y.components) ∧
    ∃ os, Extract.outcomes registry content units = .ok os ∧
      (Extract.declared os).map (·.component) = os.flatMap (·.2.components) ∧
      (∀ d ∈ Extract.declared os, d.id ∈ (Extract.gather os).ids) ∧
      (x.candidates ≤ limits.most.toNat →
        ∀ d ∈ Extract.declared os, d.id ∈ x.components.map (·.id)) ∧
      ∀ d ∈ Extract.declared os, ∀ e ∈ Extract.declared os,
        d.component.path = e.component.path →
        slug d.component.name ≠ "" → slug e.component.name ≠ "" →
        slug d.component.name ≠ slug e.component.name →
        (d.id = e.id ↔
          (EndsWithName d.component.path d.component.name ∧
            EndsWithName d.component.path e.component.name) ∨
          Extract.Displaces d e ∨ Extract.Displaces e d) := by
  refine ⟨fun path a b => componentId_eq_iff, fun a ha u text y => builtin_declares ha, ?_⟩
  obtain ⟨os, ho, rfl⟩ := Extract.extract_eq_ok extracted
  have hfiled := Extract.outcomes_filed ho distinct fun u hu y hy c hc =>
    (derived u hu y hy c hc).1
  obtain ⟨haccounts, -⟩ := Extract.accounts_nil.run hfiled (List.forall_mem_nil _)
  rw [List.nil_append] at haccounts
  refine ⟨os, ho, Extract.declared_components os, haccounts.known, ?_, ?_⟩
  · intro hfew d hd
    have hall : ((Extract.gather os).extraction limits.most.toNat).components =
        (Extract.gather os).known := if_pos hfew
    rw [hall]
    exact haccounts.known d hd
  · intro d hd e he hpath hdname hename hne
    have hid := declared_derived ho derived
    rw [haccounts.same d hd e he, hid d hd, hid e he, ← hpath,
      componentId_eq_iff hdname hename hne]
    exact and_iff_right rfl

/-- The components of three classes in a file whose path ends with the names of two of them. -/
def storeFiles : Keyed Yield :=
  [("src/order_store.py", ⟨["Store", "OrderStore", "Cache"].map fun name =>
    { id := componentId "src/order_store.py" name, name := name, role := .store
      path := "src/order_store.py" }, []⟩)]

theorem declaredIn_store :
    ∀ u ∈ [Extract.pythonUnit "src/order_store.py"], ∀ y,
      Extract.outcomeOf ⟨[Extract.scriptedAdapter storeFiles]⟩ (fun _ => "") u = .ok (.read y) →
        DeclaredIn u.path y.components := by
  intro u hu y hy
  rw [List.mem_singleton.mp hu] at hy ⊢
  cases hy
  intro c hc
  obtain ⟨name, -, rfl⟩ := List.mem_map.mp hc
  constructor <;> dsimp only [Extract.pythonUnit]

theorem extract_store :
    ∃ x, Extract.extract ⟨[Extract.scriptedAdapter storeFiles]⟩ {} (fun _ => "")
      [Extract.pythonUnit "src/order_store.py"] = .ok x := by
  have hsort : Extract.sortUnits [Extract.pythonUnit "src/order_store.py"] =
      [Extract.pythonUnit "src/order_store.py"] :=
    Order.sort_eq_of_perm (List.Perm.refl _) (by decide)
  simp only [Extract.extract, Extract.outcomes, hsort]
  exact ⟨_, rfl⟩

/-- Of three classes two share their id, and they become one of the candidates. -/
theorem shares_id_iff_store :
    slug "Store" ≠ slug "OrderStore" ∧
      componentId "src/order_store.py" "Store" = componentId "src/order_store.py" "OrderStore" ∧
      componentId "src/order_store.py" "Store" ≠ componentId "src/order_store.py" "Cache" ∧
      ∃ x os, Extract.extract ⟨[Extract.scriptedAdapter storeFiles]⟩ {} (fun _ => "")
          [Extract.pythonUnit "src/order_store.py"] = .ok x ∧
        Extract.outcomes ⟨[Extract.scriptedAdapter storeFiles]⟩ (fun _ => "")
          [Extract.pythonUnit "src/order_store.py"] = .ok os ∧
        ∀ d ∈ Extract.declared os, d.id ∈ (Extract.gather os).ids := by
  have hnames : slug "Store" ≠ "" ∧ slug "OrderStore" ≠ "" ∧ slug "Cache" ≠ "" := by decide +kernel
  have hne : slug "Store" ≠ slug "OrderStore" ∧ slug "Store" ≠ slug "Cache" := by decide +kernel
  have hends : EndsWithName "src/order_store.py" "Store" ∧
      EndsWithName "src/order_store.py" "OrderStore" ∧
      ¬EndsWithName "src/order_store.py" "Cache" := by
    unfold EndsWithName
    decide +kernel
  obtain ⟨x, hx⟩ := extract_store
  obtain ⟨hids, -, os, ho, -, hknown, -⟩ := shares_id_iff hx (by decide) declaredIn_store
  refine ⟨hne.1, (hids _ _ _ hnames.1 hnames.2.1 hne.1).mpr ⟨hends.1, hends.2.1⟩, ?_, x, os, hx,
    ho, hknown⟩
  intro he
  exact hends.2.2 ((hids _ _ _ hnames.1 hnames.2.2 hne.2).mp he).2

/-! ### A class that is lost -/

namespace Indented

/-- A class that declares nothing. -/
def emptyClass (name : String) : Statement := .type name [] [] [.other []] []

def emptyComponent (unit : SourceUnit) (name : String) : Component where
  id := componentId unit.path name
  name := name
  role := Role.infer name unit.path []
  path := unit.path
  ecosystem := unit.ecosystem

theorem yield_emptyClass (unit : SourceUnit) (scope : Scope) (name : String) :
    ∃ mentions, (Class.mk name [] [.other []]).yield unit scope =
      .ok ⟨[emptyComponent unit name], mentions⟩ := by
  have henvironment : environment [.other []] = .ok [] := by
    simp [environment, Node.statements, Node.walk, Node.levels_eq, Node.children,
      Statement.children, enterVariable, Node.variable?, pure, Except.pure, bind, Except.bind]
  have hsettings : ∀ role, classSettings role [.other []] = .ok [] := by
    intro role
    rw [classSettings, henvironment]
    split <;> rfl
  have hoperations : operations [.other []] = .ok [] := rfl
  unfold Class.yield
  simp only [hoperations, hsettings, List.mapM_nil]
  exact ⟨_, rfl⟩

theorem yieldOf_emptyClasses (unit : SourceUnit) {a b : String} (ha : isPublic a = true)
    (hb : isPublic b = true) :
    ∃ mentions, yieldOf unit [emptyClass a, emptyClass b] =
      .ok ⟨[emptyComponent unit a, emptyComponent unit b], mentions⟩ := by
  have hclasses : [emptyClass a, emptyClass b].filterMap Statement.publicClass? =
      [⟨a, [], [.other []]⟩, ⟨b, [], [.other []]⟩] := by
    simp [emptyClass, Statement.publicClass?, ha, hb]
  let scope : Scope :=
    ⟨importedNames unit.path [emptyClass a, emptyClass b], modulePath unit.path, [a, b]⟩
  obtain ⟨first, hfirst⟩ := yield_emptyClass unit scope a
  obtain ⟨second, hsecond⟩ := yield_emptyClass unit scope b
  refine ⟨first ++ second, ?_⟩
  simp only [yieldOf, hclasses, List.isEmpty_cons, Bool.false_eq_true, if_false, List.map_cons,
    List.map_nil, List.mapM_cons, List.mapM_nil]
  rw [hfirst, hsecond]
  simp [bind, Except.bind, pure, Except.pure]

end Indented

def orderStoreUnit : SourceUnit := Extract.pythonUnit "src/order_store.py"

/-- Two classes of one file have different names, but the second one is no candidate, and nothing
is said of it. -/
theorem second_class_is_lost :
    ∃ y, Indented.yieldOf orderStoreUnit
        [Indented.emptyClass "Store", Indented.emptyClass "OrderStore"] = .ok y ∧
      y.components.map (·.name) = ["Store", "OrderStore"] ∧ slug "Store" ≠ slug "OrderStore" ∧
      (Extract.gather [(orderStoreUnit, .read y)]).known.map (·.name) = ["Store"] ∧
      (Extract.gather [(orderStoreUnit, .read y)]).findings = [] := by
  obtain ⟨mentions, hy⟩ := Indented.yieldOf_emptyClasses orderStoreUnit
    (a := "Store") (b := "OrderStore") (by decide) (by decide)
  let claimed : Extract.Claiming :=
    ([Indented.emptyComponent orderStoreUnit "Store",
      Indented.emptyComponent orderStoreUnit "OrderStore"]).foldl Extract.Claiming.claim
        { gathered := {} }
  refine ⟨_, hy, rfl, by decide +kernel, ?_, ?_⟩
  · change claimed.gathered.known.map (·.name) = ["Store"]
    decide +kernel
  · change claimed.gathered.findings = []
    rfl

end DocAtlas
