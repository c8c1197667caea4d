import DocAtlas.Indented.Adapter
import DocAtlas.Proofs.Edges
import DocAtlas.Proofs.Mapping
import DocAtlas.Proofs.Spellings
import DocAtlas.Proofs.Windows
import Mathlib.Data.List.Permutation

/-!
Which mentions of a configuration are said to configure. A mention is judged by the last part of
its target, and resolved by a run of its parts that need not reach so far.
-/
namespace DocAtlas

/-! ### Names of configurations -/

theorem getLast?_dottedSegments (dotted : String) :
    (dottedSegments dotted).getLast? = some (lastPart dotted) := by
  rw [dottedSegments, splitText, List.getLast?_map, Text.getLast?_splitAt]
  rfl

theorem dottedSegments_append (a b : String) :
    dottedSegments (a ++ "." ++ b) = dottedSegments a ++ dottedSegments b := by
  simp only [dottedSegments, splitText, String.toList_append, List.append_assoc]
  rw [show ".".toList = ['.'] from rfl, List.singleton_append, Text.splitAt_append, List.map_append]

/-- The endings of configuration names have no dots, so the last part of such a name is one too. -/
theorem isConfigName_lastPart {name : String} (h : isConfigName name = true) :
    isConfigName (lastPart name) = true := by
  obtain ⟨tail, ht, hs⟩ := List.any_eq_true.mp h
  have hdot : ∀ tail ∈ configTails, '.' ∉ tail.toList := by decide
  refine List.any_eq_true.mpr ⟨tail, ht, ?_⟩
  rw [endsWith, List.isSuffixOf_iff_suffix] at hs ⊢
  rw [lastPart, String.toList_ofList]
  exact Text.suffix_afterLast hs (hdot tail ht)

/-- Every dotted name of a configuration ends with the name of one. -/
theorem isConfigName_of_qualified {c : Component} (config : isConfigName c.name = true)
    {name last : String} (hn : name ∈ c.qualifiedNames)
    (hlast : (dottedSegments name).getLast? = some last) : isConfigName last = true := by
  unfold Component.qualifiedNames at hn
  generalize (if c.path.isEmpty then "" else modulePath c.path) = home at hn
  dsimp only at hn
  split at hn
  · rw [List.mem_singleton.mp hn, getLast?_dottedSegments] at hlast
    rw [← Option.some.inj hlast]
    exact isConfigName_lastPart config
  · rcases List.mem_cons.mp hn with he | hn
    · rw [he, dottedSegments_append, List.getLast?_append, getLast?_dottedSegments c.name,
        Option.some_or] at hlast
      rw [← Option.some.inj hlast]
      exact isConfigName_lastPart config
    · split at hn
      · rename_i hhome
        rw [List.mem_singleton.mp hn, dottedSegments, beq_iff_eq.mp hhome] at hlast
        rw [← Option.some.inj hlast]
        exact config
      · cases hn

/-! ### What a target leads to -/

/-- Up to some segment a target, its empty segments left out, ends as a dotted name of the component
does; it goes on with `beyond`. -/
def LeadsTo (target : String) (c : Component) (beyond : List String) : Prop :=
  ∃ front last run, dottedSegments target = front ++ last :: beyond ∧
    run <:+ front.filter (· != "") ∧
    ∃ name ∈ c.qualifiedNames, run ++ [last] <:+ dottedSegments name

/-- A target that leads to a configuration has a configuration name as its last part exactly if it
stops there or its last segment happens to be such a name. -/
theorem LeadsTo.isConfigName_iff {target : String} {c : Component} {beyond : List String}
    (h : LeadsTo target c beyond) (config : isConfigName c.name = true) :
    isConfigName (lastPart target) = true ↔ beyond.getLast?.all isConfigName = true := by
  obtain ⟨front, last, run, htarget, -, name, hn, hrun⟩ := h
  have hlast := getLast?_dottedSegments target
  rw [htarget, List.getLast?_append, List.getLast?_cons, Option.some_or] at hlast
  rw [← Option.some.inj hlast]
  cases hb : beyond.getLast? with
  | some s => simp
  | none =>
    have hname : (dottedSegments name).getLast? = some last := by
      obtain ⟨before, hbefore⟩ := hrun
      rw [← hbefore, ← List.append_assoc, List.getLast?_concat]
    simp [isConfigName_of_qualified config hn hname]

namespace Resolver

theorem leadsTo_of_resolve? {components : List Component}
    (distinct : (components.map (·.id)).Nodup) {target : String} {c : Component}
    (hc : c ∈ components)
    (h : (ofComponents components).resolve? target = some c.id) :
    ∃ beyond, LeadsTo target c beyond := by
  obtain ⟨w, hw, hl, -⟩ := resolve?_eq_some_iff.mp h
  obtain ⟨⟨d, hd, hid, name, hn, hsuffix⟩, -⟩ := lookup?_eq_some_iff.mp hl
  obtain rfl : d = c := List.inj_on_of_nodup_map distinct hd hc hid
  obtain ⟨before, after, hparts⟩ := w.segments_infix (targetSegments target)
  obtain ⟨run, last, hrun⟩ :=
    (w.segments (targetSegments target)).eq_nil_or_concat'.resolve_left hw.segments_ne_nil
  rw [hrun] at hparts hsuffix
  -- the empty segments between the run and its last segment go to the front
  have hfilter : (dottedSegments target).filter (· != "") = before ++ run ++ last :: after := by
    rw [← targetSegments, ← hparts]
    simp
  obtain ⟨start, rest, htarget, hstart, hrest⟩ := List.filter_eq_append_iff.mp hfilter
  obtain ⟨gap, beyond, rfl, hgap, -, -⟩ := List.filter_eq_cons_iff.mp hrest
  refine ⟨beyond, start ++ gap, last, run, by simp [htarget], ?_, name, hn, hsuffix⟩
  rw [List.filter_append, hstart, List.filter_eq_nil_iff.mpr hgap, List.append_nil]
  exact List.suffix_append _ _

end Resolver

/-! ### Mentions -/

theorem Relation.ofName_eq_configures_iff {name : String} :
    Relation.ofName name = .configures ↔ isConfigName name = true := by
  unfold Relation.ofName
  split <;> simp_all

/-- A mention is of a base, or its relation is read off the last part of its target. -/
def Mention.Judged (m : Mention) : Prop :=
  m.relation = .inherits ∨ m.relation = .ofName (lastPart m.target)

theorem judged_of_mentionsOf {id : String} {targets : List String} {m : Mention}
    (h : m ∈ mentionsOf id targets) : m.Judged := by
  rw [mentionsOf, List.mem_map] at h
  obtain ⟨target, -, rfl⟩ := h
  simp only [Mention.Judged, or_true]

namespace Indented

theorem Class.judged {unit : SourceUnit} {scope : Scope} {c : Class} {y : Yield}
    (h : c.yield unit scope = .ok y) {m : Mention} (hm : m ∈ y.mentions) : m.Judged := by
  unfold Class.yield at h
  obtain ⟨bases, -, h⟩ := bind_ok.mp h
  obtain ⟨operations, -, h⟩ := bind_ok.mp h
  obtain ⟨settings, -, h⟩ := bind_ok.mp h
  cases h
  rcases List.mem_append.mp hm with hm | hm
  · obtain ⟨target, -, rfl⟩ := List.mem_map.mp hm
    exact .inl rfl
  · exact judged_of_mentionsOf hm

theorem sourceYield_judged {unit : SourceUnit} {scope : Scope} {body : List Statement} {y : Yield}
    (h : sourceYield unit scope body = .ok y) {m : Mention} (hm : m ∈ y.mentions) :
    m.Judged := by
  unfold sourceYield at h
  dsimp only at h
  split at h
  · cases h
    cases hm
  · obtain ⟨operations, -, h⟩ := bind_ok.mp h
    obtain ⟨settings, -, h⟩ := bind_ok.mp h
    cases h
    exact judged_of_mentionsOf hm

theorem yieldOf_judged {unit : SourceUnit} {body : List Statement} {y : Yield}
    (h : yieldOf unit body = .ok y) {m : Mention} (hm : m ∈ y.mentions) : m.Judged := by
  unfold yieldOf at h
  dsimp only at h
  split at h
  · exact sourceYield_judged h hm
  · obtain ⟨yields, hy, h⟩ := bind_ok.mp h
    cases h
    obtain ⟨own, hown, hm⟩ := List.mem_flatMap.mp hm
    obtain ⟨c, -, hc⟩ := exists_of_mem_mapM hy hown
    exact c.judged hc hm

/-! ### A class that reads an attribute -/

/-- A longer spelling takes the place of a shorter one, and a shorter one does not come back. -/
theorem enterTarget_longer {short long : String} (h : extendsName short long = true) :
    enterTarget [short] long = [long] ∧ enterTarget [long] short = [long] := by
  have hlength := length_lt_of_extendsName h
  have hne : short ≠ long := by
    rintro rfl
    exact absurd hlength (lt_irrefl _)
  have hback : extendsName long short = false := by
    rw [Bool.eq_false_iff]
    intro hb
    exact absurd (length_lt_of_extendsName hb) (not_lt_of_gt hlength)
  simp [enterTarget, h, hne, hback]

/-- A statement that reads an attribute of a name. -/
def reading (id attr : String) : Statement :=
  .expression (.attribute ⟨4, 4⟩ (.name ⟨4, 4⟩ id) attr)

theorem walk_reading (id attr : String) :
    (Node.statement (reading id attr)).walk =
      [.statement (reading id attr), .term (.attribute ⟨4, 4⟩ (.name ⟨4, 4⟩ id) attr),
        .term (.name ⟨4, 4⟩ id)] := by
  simp [Node.walk, Node.levels_eq, reading, Node.children, Statement.children, Term.children,
    Node.joinLevels]

/-- An attribute of a name is mentioned in its long spelling only. -/
theorem references_reading {scope : Scope} {id attr short long : String}
    (hshort : scope.qualify? id = some short)
    (hlong : scope.qualify? (id ++ "." ++ attr) = some long) (hne : short ≠ "")
    (longer : extendsName short long = true) :
    references scope (Node.statements [reading id attr]) = [long] := by
  have hlne : long ≠ "" := by
    rintro rfl
    exact absurd (length_lt_of_extendsName longer) (Nat.not_lt_zero _)
  have hattribute : (Node.term (.attribute ⟨4, 4⟩ (.name ⟨4, 4⟩ id) attr)).use? scope =
      some ⟨⟨4, 4⟩, long⟩ := by
    simp [Node.use?, Term.dotted?, hlong, hlne]
  have hname : (Node.term (.name ⟨4, 4⟩ id)).use? scope = some ⟨⟨4, 4⟩, short⟩ := by
    simp [Node.use?, hshort, hne]
  have hperm : (uses scope (Node.statements [reading id attr])).Perm
      [⟨⟨4, 4⟩, long⟩, ⟨⟨4, 4⟩, short⟩] := by
    rw [uses, Node.statements, List.map_singleton, List.flatMap_singleton, walk_reading,
      List.filterMap_cons_none rfl, List.filterMap_cons_some hattribute,
      List.filterMap_cons_some hname]
    exact Order.sort_perm _ _
  obtain ⟨hfirst, hsecond⟩ := enterTarget_longer longer
  rw [references]
  rcases List.mem_cons.mp (List.mem_permutations'.mpr hperm) with he | he
  · rw [he]
    exact hsecond
  · rw [List.mem_singleton.mp he]
    exact hfirst

/-- A class that does nothing but read an attribute of a name. -/
def Class.ofReading (name id attr : String) : Class := ⟨name, [], [reading id attr]⟩

theorem yield_ofReading (unit : SourceUnit) (scope : Scope) (name id attr : String) :
    ∃ components, (Class.ofReading name id attr).yield unit scope = .ok ⟨components,
      mentionsOf (componentId unit.path name) (references
        { scope with siblings := scope.siblings.filter (· != name) }
        (Node.statements [reading id attr]))⟩ := by
  have henvironment : environment [reading id attr] = .ok [] := by
    simp [environment, Node.statements, walk_reading, enterVariable, Node.variable?, pure,
      Except.pure, bind, Except.bind]
  have hsettings : ∀ role, classSettings role [reading id attr] = .ok [] := by
    intro role
    rw [classSettings, henvironment]
    split
    · rfl
    · rfl
  have hoperations : operations [reading id attr] = .ok [] := rfl
  unfold Class.yield Class.ofReading
  simp only [hoperations, hsettings, List.mapM_nil]
  exact ⟨_, rfl⟩

theorem yieldOf_class {unit : SourceUnit} {body : List Statement} (c : Class) {y : Yield}
    (h : body.filterMap Statement.publicClass? = [c])
    (hy : c.yield unit ⟨importedNames unit.path body, modulePath unit.path, [c.name]⟩ = .ok y) :
    yieldOf unit body = .ok y := by
  simp only [yieldOf, h, List.isEmpty_cons, Bool.false_eq_true, if_false, List.map_cons,
    List.map_nil, List.mapM_cons, List.mapM_nil, hy]
  simp [bind, Except.bind, pure, Except.pure]

/-- A class that reads an attribute of a configuration in another file. -/
def clientBody (attr : String) : List Statement :=
  [.importNames 1 "settings" [⟨"Settings", none⟩],
    .type "App" [] [] [reading "Settings" attr] []]

def clientUnit : SourceUnit := ⟨"app.py", some "python", 0, ""⟩

def clientScope : Scope := ⟨[("Settings", "settings.Settings")], "app", []⟩

theorem importedNames_client (attr : String) :
    importedNames "app.py" (clientBody attr) = [("Settings", "settings.Settings")] := by
  have hwalk : Node.walkBelow (Node.statements (clientBody attr)) =
      (clientBody attr).map Node.statement ++ (Node.statement (reading "Settings" attr)).walk := by
    rw [walk_reading]
    simp [Node.walkBelow, Node.statements, clientBody, Node.levels_eq, reading, Node.children,
      Statement.children, Term.children, Node.joinLevels, Node.terms]
  rw [importedNames, hwalk, walk_reading]
  rfl

theorem yieldOf_client (attr target : String)
    (h : clientScope.qualify? ("Settings" ++ "." ++ attr) = some target)
    (longer : extendsName "settings.Settings" target = true) :
    ∃ components, yieldOf clientUnit (clientBody attr) =
      .ok ⟨components, mentionsOf (componentId "app.py" "App") [target]⟩ := by
  obtain ⟨components, hy⟩ := yield_ofReading clientUnit
    { clientScope with siblings := ["App"] } "App" "Settings" attr
  have hreferences : references { clientScope with siblings := ["App"].filter (· != "App") }
      (Node.statements [reading "Settings" attr]) = [target] :=
    references_reading rfl h (by decide) longer
  refine ⟨components, yieldOf_class (.ofReading "App" "Settings" attr) rfl ?_⟩
  rw [show importedNames clientUnit.path (clientBody attr) = _ from importedNames_client attr]
  rw [← hreferences]
  exact hy

end Indented

/-! ### Configurations that are mentioned -/

/-- A mention in a body that means a configuration says that it configures exactly if it stops at
the configuration, or if the last segment beyond has such a name itself. Any other one says that the
configuration is used, and so does its edge. -/
theorem configures_iff_stops {unit : SourceUnit} {body : List Indented.Statement} {y : Yield}
    (read : Indented.yieldOf unit body = .ok y) {m : Mention} (hm : m ∈ y.mentions)
    (inBody : m.relation ≠ .inherits) {components : List Component} {mentions : List Mention}
    {g : Graph} (built : Graph.build components mentions = .ok g) {c : Component}
    (hc : c ∈ components)
    (meant : (Resolver.ofComponents components).resolve? m.target = some c.id)
    (config : isConfigName c.name = true) {source : String}
    (given : ⟨source, m.target, m.relation⟩ ∈ mentions) (known : source ∈ components.map (·.id))
    (other : c.id ≠ source) :
    (∃ beyond, LeadsTo m.target c beyond) ∧
      ∀ beyond, LeadsTo m.target c beyond →
        (m.relation = .configures ↔ beyond.getLast?.all isConfigName = true) ∧
        (beyond.getLast?.all isConfigName = true → ⟨c.id, source, .configures⟩ ∈ g.edges) ∧
        (beyond.getLast?.all isConfigName = false →
          m.relation = .uses ∧ ⟨source, c.id, .uses⟩ ∈ g.edges) := by
  have hrelation : m.relation = .ofName (lastPart m.target) :=
    (Indented.yieldOf_judged read hm).resolve_left inBody
  obtain ⟨hd, hedges⟩ := Graph.edges_of_build built
  have hedge : Mention.edgeTo ⟨source, m.target, m.relation⟩ c.id ∈ g.edges := by
    rw [hedges, Graph.mem_edgesFrom]
    exact ⟨_, given, known, c.id, meant, other, rfl⟩
  refine ⟨Resolver.leadsTo_of_resolve? hd hc meant, ?_⟩
  intro beyond hleads
  have hiff : m.relation = .configures ↔ beyond.getLast?.all isConfigName = true := by
    rw [hrelation, Relation.ofName_eq_configures_iff, hleads.isConfigName_iff config]
  refine ⟨hiff, ?_, ?_⟩
  · intro hstops
    rw [Mention.edgeTo, if_pos (hiff.mpr hstops)] at hedge
    exact hedge
  · intro hgoes
    have hne : m.relation ≠ .configures := by
      rw [ne_eq, hiff, hgoes]
      exact Bool.false_ne_true
    have huses : m.relation = .uses := by
      rw [hrelation, Relation.ofName] at hne ⊢
      split
      · simp_all
      · rfl
    rw [Mention.edgeTo, if_neg hne] at hedge
    exact ⟨huses, huses ▸ hedge⟩

namespace Indented

def settingsComponent : Component :=
  { id := "settings", name := "Settings", role := .config, path := "settings.py" }

/-- The component of `clientBody`. -/
def clientComponent : Component := { id := "app", name := "App", role := .service, path := "app.py" }

def clientComponents : List Component := [clientComponent, settingsComponent]

theorem configures_iff_stops_at_options :
    ∃ y g, yieldOf clientUnit (clientBody "Options") = .ok y ∧
      Graph.build clientComponents [⟨"app", "settings.Settings.Options", .configures⟩] = .ok g ∧
      ⟨componentId "app.py" "App", "settings.Settings.Options", .configures⟩ ∈ y.mentions ∧
      ⟨"settings", "app", .configures⟩ ∈ g.edges := by
  have distinct : (clientComponents.map (·.id)).Nodup := by decide
  have known : "app" ∈ clientComponents.map (·.id) := by decide
  obtain ⟨components, hread⟩ :=
    yieldOf_client "Options" "settings.Settings.Options" rfl (by decide)
  obtain ⟨g, hg, -⟩ := Graph.build_eq_ok
    [⟨"app", "settings.Settings.Options", .configures⟩] distinct
  have hrelation : Relation.ofName (lastPart "settings.Settings.Options") = .configures :=
    Relation.ofName_eq_configures_iff.mpr rfl
  have hmention : ⟨componentId "app.py" "App", "settings.Settings.Options", .configures⟩ ∈
      mentionsOf (componentId "app.py" "App") ["settings.Settings.Options"] := by
    rw [mentionsOf, List.map_singleton, hrelation]
    exact List.mem_singleton_self _
  have hmeant : (Resolver.ofComponents clientComponents).resolve? "settings.Settings.Options" =
      some settingsComponent.id := rfl
  obtain ⟨⟨beyond, hleads⟩, hall⟩ := configures_iff_stops hread hmention (by decide) hg
    (by decide) hmeant rfl (List.mem_singleton_self _) known (by decide)
  obtain ⟨hiff, hedge, -⟩ := hall beyond hleads
  exact ⟨_, g, hread, hg, hmention, hedge (hiff.mp rfl)⟩

/-- A field of a configuration is mentioned, and resolved to the configuration, as a mere use. -/
theorem field_of_settings_uses :
    ∃ y g, yieldOf clientUnit (clientBody "field") = .ok y ∧
      ⟨componentId "app.py" "App", "settings.Settings.field", .uses⟩ ∈ y.mentions ∧
      (Resolver.ofComponents clientComponents).resolve? "settings.Settings.field" =
        some settingsComponent.id ∧
      isConfigName settingsComponent.name = true ∧
      Graph.build clientComponents [⟨"app", "settings.Settings.field", .uses⟩] = .ok g ∧
      ⟨"app", "settings", .uses⟩ ∈ g.edges := by
  have distinct : (clientComponents.map (·.id)).Nodup := by decide
  have known : "app" ∈ clientComponents.map (·.id) := by decide
  obtain ⟨components, hread⟩ := yieldOf_client "field" "settings.Settings.field" rfl (by decide)
  obtain ⟨g, hg, -, hedges, -⟩ := Graph.build_eq_ok
    [⟨"app", "settings.Settings.field", .uses⟩] distinct
  have hrelation : Relation.ofName (lastPart "settings.Settings.field") = .uses := rfl
  have hmeant : (Resolver.ofComponents clientComponents).resolve? "settings.Settings.field" =
      some settingsComponent.id := rfl
  refine ⟨_, g, hread, ?_, hmeant, rfl, hg, ?_⟩
  · rw [mentionsOf, List.map_singleton, hrelation]
    exact List.mem_singleton_self _
  · rw [hedges, Graph.mem_edgesFrom]
    exact ⟨_, List.mem_singleton_self _, known, _, hmeant, by decide, rfl⟩

end Indented

end DocAtlas
