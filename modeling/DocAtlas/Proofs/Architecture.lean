import DocAtlas.Diagram.Views
import DocAtlas.Proofs.Entries
import DocAtlas.Proofs.Flowcharts
import DocAtlas.Proofs.Ordering
import DocAtlas.Proofs.Slugs
import DocAtlas.Proofs.Validity

/-!
The chart of a graph's system view. Nodes stand for components and links for edges, each exactly
once; the subgraphs of directories are told apart from each other and from the nodes only if their
ids happen to be different.
-/
namespace DocAtlas

open Diagram.Mermaid Text.Slug

/-! ### Identifiers of ids -/

/-- A hyphen for each underscore. -/
def hyphens (s : List Char) : List Char := s.map fun c => if c = '_' then '-' else c

theorem hyphens_identifier {id : String} (text : IsIdText id) :
    hyphens (identifier id).toList = id.toList := by
  rw [identifier, String.toList_ofList, hyphens, List.map_map]
  refine (List.map_congr_left fun c hc => ?_).trans (List.map_id _)
  rcases text c hc with hplain | rfl
  · have hkept : (Text.isAsciiLetter c || Text.isAsciiDigit c) = true := by
      simp only [isPlain, Bool.or_eq_true] at hplain
      simp only [Text.isAsciiLetter, Text.isAsciiDigit, Bool.or_eq_true]
      exact hplain.imp_left .inl
    have hmark : c ≠ '_' := by
      rintro rfl
      revert hplain
      decide
    rw [Function.comp_apply, if_pos hkept, if_neg hmark, id_eq]
  · rfl

/-- Ids are told apart by their identifiers. -/
theorem eq_of_identifier_eq {a b : String} (ha : IsIdText a) (hb : IsIdText b)
    (h : identifier a = identifier b) : a = b := by
  rw [← String.toList_inj, ← hyphens_identifier ha, ← hyphens_identifier hb, h]

theorem identifier_ne_empty {id : String} (h : id ≠ "") : identifier id ≠ "" := by
  intro he
  refine h (String.toList_inj.mp ?_)
  simpa [identifier] using congrArg String.toList he

theorem nodup_identifiers {ids : List String} (texts : ∀ id ∈ ids, IsIdText id) :
    (ids.map identifier).Nodup ↔ ids.Nodup := by
  constructor
  · exact List.Nodup.of_map identifier
  · intro h
    exact h.map_on fun a ha b hb => eq_of_identifier_eq (texts a ha) (texts b hb)

namespace Graph

/-! ### Directories -/

/-- The id of a directory's group. -/
def groupId (name : String) : String := (groupOf name []).id

theorem groupId_eq (name : String) :
    groupId name = if slug name = "" then rootGroup else slug name := by
  simp [groupId, groupOf]

example : groupId "my_app" = groupId "my-app" ∧ groupId "__" = groupId rootGroup := by
  decide +kernel

theorem groupId_idText (name : String) : IsIdText (groupId name) := by
  rw [groupId_eq]
  split
  · decide
  · exact (slug_kebab ‹_›).idText

/-- The ids of the components in each directory. -/
def byDirectory (g : Graph) : Keyed (List String) :=
  Order.sort (Order.byText Prod.fst)
    (Keyed.gather (g.components.map fun c => (topDirectory c.path, c.id)))

variable {g : Graph} {id : String}

theorem byDirectory_perm (g : Graph) : g.byDirectory.Perm
    (Keyed.gather (g.components.map fun c => (topDirectory c.path, c.id))) :=
  Order.sort_perm _ _

theorem directories_nodup (g : Graph) : g.byDirectory.keys.Nodup :=
  ((byDirectory_perm g).map _).nodup_iff.mpr (Keyed.keys_gather_nodup _)

theorem mem_directories {name : String} :
    name ∈ g.byDirectory.keys ↔ ∃ c ∈ g.components, topDirectory c.path = name := by
  have h := ((byDirectory_perm g).map Prod.fst).mem_iff (a := name)
  rw [Keyed.keys, h, ← Keyed.keys, Keyed.mem_keys_gather, List.map_map, List.mem_map]
  rfl

/-- Each component stands in one directory. -/
theorem members_perm (g : Graph) : (g.byDirectory.flatMap Prod.snd).Perm g.ids := by
  have h := Keyed.values_gather (g.components.map fun c => (topDirectory c.path, c.id))
  rw [List.map_map] at h
  exact ((byDirectory_perm g).flatMap_right Prod.snd).trans h

/-! ### The chart -/

/-- What the lines of a directory say. -/
def directoryStatements (entry : String × List String) : List Statement :=
  .subgraph (identifier (groupId entry.1)) :: entry.2.map fun id => .node (identifier id)

theorem find?_node (h : id ∈ g.ids) : ∃ n, g.systemView.nodes.find? (·.id == id) = some n ∧
    n.id = id := by
  have hids : g.systemView.nodes.map (·.id) = g.ids := by
    rw [systemView, List.map_map, ids]
    rfl
  rw [← hids] at h
  obtain ⟨n, hn, rfl⟩ := List.mem_map.mp h
  exact ⟨n, Keyed.find?_key (hids ▸ g.ids_nodup) hn, rfl⟩

theorem ids_found {members : List String} (known : ∀ id ∈ members, id ∈ g.ids) :
    (members.filterMap fun id => g.systemView.nodes.find? (·.id == id)).map (·.id) = members := by
  induction members with
  | nil => rfl
  | cons id rest ih =>
    rw [List.forall_mem_cons] at known
    obtain ⟨n, hn, hid⟩ := find?_node known.1
    rw [List.filterMap_cons_some (f := fun id => g.systemView.nodes.find? (·.id == id)) hn,
      List.map_cons, hid, ih known.2]

theorem mem_ids_of_directory {entry : String × List String} (he : entry ∈ g.byDirectory)
    (hid : id ∈ entry.2) : id ∈ g.ids :=
  (members_perm g).mem_iff.mp (List.mem_flatMap.mpr ⟨entry, he, hid⟩)

theorem groupStatements_eq {entry : String × List String} (he : entry ∈ g.byDirectory) :
    groupStatements g.systemView (groupOf entry.1 entry.2) = directoryStatements entry := by
  have hmembers : (membersOf g.systemView (groupOf entry.1 entry.2)).map (·.id) = entry.2 :=
    ids_found fun id hid => mem_ids_of_directory he hid
  have hnodes : (membersOf g.systemView (groupOf entry.1 entry.2)).map
      (fun n => Statement.node (identifier n.id)) =
      entry.2.map fun id => Statement.node (identifier id) := by
    conv_rhs => rw [← hmembers, List.map_map]
    rfl
  rw [groupStatements, hnodes]
  rfl

/-- Every node stands in the group of its directory. -/
theorem isGrouped_node {n : Diagram.Node} (hn : n ∈ g.systemView.nodes) :
    isGrouped g.systemView n.id = true := by
  obtain ⟨c, hc, rfl⟩ := List.mem_map.mp hn
  have hid : c.id ∈ g.byDirectory.flatMap Prod.snd :=
    (members_perm g).mem_iff.mpr (List.mem_map_of_mem hc)
  obtain ⟨entry, he, hid⟩ := List.mem_flatMap.mp hid
  exact List.any_eq_true.mpr ⟨groupOf entry.1 entry.2,
    List.mem_map.mpr ⟨entry, he, rfl⟩, List.contains_iff_mem.mpr hid⟩

theorem readChart_systemView (g : Graph) (named : ∀ id ∈ g.ids, id ≠ "") :
    readChart g.systemView.mermaid =
      g.byDirectory.flatMap directoryStatements ++
        (g.edgesOf [.uses, .configures]).map linkOf := by
  have hsource : ∀ e ∈ g.systemView.edges, identifier e.source ≠ "" := by
    intro e he
    have hedge := (mem_edgesOf (List.cons_ne_nil _ _)).mp he
    exact identifier_ne_empty (named e.source (g.joins_of_mem hedge.1).source)
  have hloose : (g.systemView.nodes.filter fun n => !isGrouped g.systemView n.id) = [] := by
    rw [List.filter_eq_nil_iff]
    intro n hn
    simp [isGrouped_node hn]
  have hgroups : g.systemView.groups.flatMap (groupStatements g.systemView) =
      g.byDirectory.flatMap directoryStatements := by
    change (g.byDirectory.map fun entry => groupOf entry.1 entry.2).flatMap _ = _
    rw [List.flatMap_map]
    exact List.flatMap_congr fun entry he => groupStatements_eq he
  have hkind : g.systemView.kind ≠ .sequence := Diagram.Kind.noConfusion
  rw [readChart_mermaid hkind hsource, hloose, List.map_nil, List.append_nil, hgroups]
  rfl

/-! ### What it declares -/

theorem links_say_nothing {f : Statement → Option String} (h : ∀ e, f (linkOf e) = none)
    (edges : List Edge) : (edges.map linkOf).filterMap f = [] := by
  rw [List.filterMap_map, List.filterMap_eq_nil_iff]
  exact fun e _ => h e

theorem subgraph?_directory (entry : String × List String) :
    (directoryStatements entry).filterMap Statement.subgraph? = [identifier (groupId entry.1)] := by
  have hnodes : (entry.2.map fun id => Statement.node (identifier id)).filterMap
      Statement.subgraph? = [] := by
    rw [List.filterMap_map, List.filterMap_eq_nil_iff]
    exact fun _ _ => rfl
  rw [directoryStatements, List.filterMap_cons_some (f := Statement.subgraph?) rfl, hnodes]

theorem node?_directory (entry : String × List String) :
    (directoryStatements entry).filterMap Statement.node? = entry.2.map identifier := by
  rw [directoryStatements, List.filterMap_cons_none rfl, List.filterMap_map]
  exact List.filterMap_eq_map_iff_forall_eq_some.mpr fun _ _ => rfl

theorem isLink_directory (entry : String × List String) :
    (directoryStatements entry).filter Statement.isLink = [] := by
  rw [List.filter_eq_nil_iff, directoryStatements, List.forall_mem_cons, List.forall_mem_map]
  exact ⟨Bool.false_ne_true, fun _ _ => Bool.false_ne_true⟩

section
variable (named : ∀ id ∈ g.ids, id ≠ "")
include named

theorem subgraphs_eq : (readChart g.systemView.mermaid).filterMap Statement.subgraph? =
    g.byDirectory.keys.map fun name => identifier (groupId name) := by
  rw [readChart_systemView g named, List.filterMap_append, List.filterMap_flatMap,
    links_say_nothing fun _ => rfl, List.append_nil]
  simp only [subgraph?_directory]
  rw [← List.map_eq_flatMap, Keyed.keys, List.map_map]
  rfl

theorem mem_subgraphs {s : String} :
    s ∈ (readChart g.systemView.mermaid).filterMap Statement.subgraph? ↔
      ∃ c ∈ g.components, s = identifier (groupId (topDirectory c.path)) := by
  rw [subgraphs_eq named, List.mem_map]
  constructor
  · rintro ⟨name, hname, rfl⟩
    obtain ⟨c, hc, rfl⟩ := mem_directories.mp hname
    exact ⟨c, hc, rfl⟩
  · rintro ⟨c, hc, rfl⟩
    exact ⟨topDirectory c.path, mem_directories.mpr ⟨c, hc, rfl⟩, rfl⟩

theorem nodes_perm :
    ((readChart g.systemView.mermaid).filterMap Statement.node?).Perm (g.ids.map identifier) := by
  rw [readChart_systemView g named, List.filterMap_append, List.filterMap_flatMap,
    links_say_nothing fun _ => rfl, List.append_nil]
  simp only [node?_directory]
  rw [← List.map_flatMap]
  exact (members_perm g).map identifier

theorem links_eq : (readChart g.systemView.mermaid).filter Statement.isLink =
    (g.edgesOf [.uses, .configures]).map linkOf := by
  have hlinks : ((g.edgesOf [.uses, .configures]).map linkOf).filter Statement.isLink =
      (g.edgesOf [.uses, .configures]).map linkOf :=
    List.filter_eq_self.mpr (List.forall_mem_map.mpr fun _ _ => rfl)
  have hgroups : (g.byDirectory.flatMap directoryStatements).filter Statement.isLink = [] := by
    rw [List.filter_flatMap]
    exact List.flatMap_eq_nil_iff.mpr fun entry _ => isLink_directory entry
  rw [readChart_systemView g named, List.filter_append, hgroups, hlinks, List.nil_append]

end

/-- Different directories have groups of different ids, and no component has the id of a group. -/
structure GroupsApart (g : Graph) : Prop where
  directories : ∀ a ∈ g.components, ∀ b ∈ g.components,
    groupId (topDirectory a.path) = groupId (topDirectory b.path) →
      topDirectory a.path = topDirectory b.path
  components : ∀ a ∈ g.components, ∀ b ∈ g.components, groupId (topDirectory a.path) ≠ b.id

/-- What is said by a chart of all components by directory, with their links. -/
structure Charts (g : Graph) (chart : List Statement) : Prop where
  subgraphs : ∀ s, s ∈ chart.filterMap Statement.subgraph? ↔
    ∃ c ∈ g.components, s = identifier (groupId (topDirectory c.path))
  nodes : (chart.filterMap Statement.node?).Perm (g.ids.map identifier)
  once : ∀ id ∈ g.ids, (chart.filterMap Statement.node?).count (identifier id) = 1
  links : chart.filter Statement.isLink = (g.edgesOf [.uses, .configures]).map linkOf
  linked : ∀ source arrow label target, .link source arrow label target ∈ chart →
    source ∈ chart.filterMap Statement.node? ∧ target ∈ chart.filterMap Statement.node? ∧
      ∃! e, e ∈ g.edges ∧ (e.relation = .uses ∨ e.relation = .configures) ∧
        linkOf e = .link source arrow label target
  declared : (chart.filterMap Statement.declared?).Nodup ↔ g.GroupsApart

section
variable (texts : ∀ id ∈ g.ids, id ≠ "" ∧ IsIdText id)
include texts

theorem declared_nodup_iff :
    ((readChart g.systemView.mermaid).filterMap Statement.declared?).Nodup ↔ g.GroupsApart := by
  have hnamed : ∀ id ∈ g.ids, id ≠ "" := fun id hid => (texts id hid).1
  have hperm : ((readChart g.systemView.mermaid).filterMap Statement.declared?).Perm
      ((g.byDirectory.keys.map fun name => identifier (groupId name)) ++
        g.ids.map identifier) := by
    refine (declared_perm _).trans ?_
    rw [subgraphs_eq hnamed]
    exact (nodes_perm hnamed).append_left _
  have hdirectory : ∀ c ∈ g.components, topDirectory c.path ∈ g.byDirectory.keys :=
    fun c hc => mem_directories.mpr ⟨c, hc, rfl⟩
  rw [hperm.nodup_iff, List.nodup_append']
  constructor
  · rintro ⟨hgroups, -, hapart⟩
    refine ⟨fun a ha b hb he => ?_, fun a ha b hb he => ?_⟩
    · exact List.inj_on_of_nodup_map hgroups (hdirectory a ha) (hdirectory b hb)
        (congrArg identifier he)
    · exact hapart (List.mem_map_of_mem (hdirectory a ha))
        (List.mem_map.mpr ⟨b.id, List.mem_map_of_mem hb, congrArg identifier he.symm⟩)
  · intro h
    refine ⟨?_, (nodup_identifiers fun id hid => (texts id hid).2).mpr g.ids_nodup, ?_⟩
    · refine (directories_nodup g).map_on fun name hname other hother he => ?_
      obtain ⟨a, ha, rfl⟩ := mem_directories.mp hname
      obtain ⟨b, hb, rfl⟩ := mem_directories.mp hother
      exact h.directories a ha b hb
        (eq_of_identifier_eq (groupId_idText _) (groupId_idText _) he)
    · intro s hs ht
      obtain ⟨name, hname, rfl⟩ := List.mem_map.mp hs
      obtain ⟨a, ha, rfl⟩ := mem_directories.mp hname
      obtain ⟨id, hid, he⟩ := List.mem_map.mp ht
      obtain ⟨b, hb, rfl⟩ := List.mem_map.mp hid
      exact h.components a ha b hb
        (eq_of_identifier_eq (groupId_idText _) (texts b.id hid).2 he.symm)

/-- Edges are told apart by what their lines say. -/
theorem eq_of_linkOf_eq {e f : Edge} (he : e ∈ g.edges) (hf : f ∈ g.edges)
    (h : linkOf e = linkOf f) : e = f := by
  have hends := g.joins_of_mem he
  have hothers := g.joins_of_mem hf
  obtain ⟨hsource, harrow, -, htarget⟩ := Statement.link.inj h
  have hrelation : e.relation = f.relation := by
    revert harrow
    cases e.relation <;> cases f.relation <;> decide
  have hsources := eq_of_identifier_eq (texts _ hends.source).2 (texts _ hothers.source).2 hsource
  have htargets := eq_of_identifier_eq (texts _ hends.target).2 (texts _ hothers.target).2 htarget
  calc e = ⟨e.source, e.target, e.relation⟩ := rfl
    _ = ⟨f.source, f.target, f.relation⟩ := by rw [hsources, htargets, hrelation]
    _ = f := rfl

/-- The chart of a system view shows each component as one node and each edge of use or
configuration as one link. What it declares is declared once if and only if the ids of the
directories' groups are different from each other and from those of the components. -/
theorem systemView_charts : g.Charts (readChart g.systemView.mermaid) := by
  have hnamed : ∀ id ∈ g.ids, id ≠ "" := fun id hid => (texts id hid).1
  have hnodes := nodes_perm hnamed
  have hlinks := links_eq hnamed
  have hdistinct : ((readChart g.systemView.mermaid).filterMap Statement.node?).Nodup :=
    hnodes.nodup_iff.mpr ((nodup_identifiers fun id hid => (texts id hid).2).mpr g.ids_nodup)
  have hnode : ∀ id ∈ g.ids,
      identifier id ∈ (readChart g.systemView.mermaid).filterMap Statement.node? :=
    fun id hid => hnodes.mem_iff.mpr (List.mem_map_of_mem hid)
  refine ⟨fun s => mem_subgraphs hnamed, hnodes,
    fun id hid => List.count_eq_one_of_mem hdistinct (hnode id hid), hlinks, ?_,
    declared_nodup_iff texts⟩
  intro source arrow label target hlink
  have hmem := List.mem_filter.mpr ⟨hlink, (rfl : Statement.isLink _ = true)⟩
  rw [hlinks] at hmem
  obtain ⟨e, he, hsays⟩ := List.mem_map.mp hmem
  obtain ⟨hedge, hrelation⟩ := (mem_edgesOf (List.cons_ne_nil _ _)).mp he
  have hends := g.joins_of_mem hedge
  obtain ⟨rfl, rfl, rfl, rfl⟩ := Statement.link.inj hsays
  refine ⟨hnode _ hends.source, hnode _ hends.target, e, ⟨hedge, by simpa using hrelation, rfl⟩,
    ?_⟩
  rintro f ⟨hf, -, hsame⟩
  exact eq_of_linkOf_eq texts hf hedge hsame

end

/-- Two directories, a file outside of them, and edges of all relations. -/
def shopGraph : Graph where
  components := [("order-api", "src/order_api.py"), ("order-store", "src/order_store.py"),
    ("settings", "settings.py"), ("web-cart", "web/cart.ts")].map fun (id, path) =>
      { id := id, name := id, role := .general, path := path }
  edges := [⟨"order-api", "order-store", .uses⟩, ⟨"settings", "order-store", .configures⟩,
    ⟨"web-cart", "order-api", .uses⟩, ⟨"order-api", "web-cart", .inherits⟩]
  cycles := []
  findings := []
  valid := by decide

theorem systemView_charts_shop :
    (∀ id ∈ shopGraph.ids, id ≠ "" ∧ IsIdText id) ∧
      shopGraph.Charts (readChart shopGraph.systemView.mermaid) := by
  have texts : ∀ id ∈ shopGraph.ids, id ≠ "" ∧ IsIdText id := by decide
  exact ⟨texts, systemView_charts texts⟩

/-- A module beside the directory of its name. -/
def webGraph : Graph where
  components := [{ id := "web", name := "web", role := .general, path := "web.py" },
    { id := "web-cart", name := "Cart", role := .general, path := "web/cart.py" }]
  edges := []
  cycles := []
  findings := []
  valid := by decide

/-- One identifier is that of a subgraph and of a node. -/
theorem directory_shares_identifier :
    (∀ id ∈ webGraph.ids, id ≠ "" ∧ IsIdText id) ∧
      "web" ∈ (readChart webGraph.systemView.mermaid).filterMap Statement.subgraph? ∧
      "web" ∈ (readChart webGraph.systemView.mermaid).filterMap Statement.node? ∧
      ¬((readChart webGraph.systemView.mermaid).filterMap Statement.declared?).Nodup := by
  have texts : ∀ id ∈ webGraph.ids, id ≠ "" ∧ IsIdText id := by decide
  have hnamed : ∀ id ∈ webGraph.ids, id ≠ "" := fun id hid => (texts id hid).1
  have hclash : ∃ a ∈ webGraph.components, ∃ b ∈ webGraph.components,
      groupId (topDirectory a.path) = b.id ∧ "web" = identifier b.id := by
    decide +kernel
  obtain ⟨a, ha, b, hb, hid, hweb⟩ := hclash
  refine ⟨texts, (mem_subgraphs hnamed).mpr ⟨a, ha, by rw [hid, hweb]⟩, ?_, ?_⟩
  · rw [(nodes_perm hnamed).mem_iff, hweb]
    exact List.mem_map_of_mem (List.mem_map_of_mem hb)
  · rw [declared_nodup_iff texts]
    exact fun h => h.components a ha b hb hid

end Graph
end DocAtlas
