import DocAtlas.Proofs.Following
import DocAtlas.Proofs.Ordering
import DocAtlas.Scan.Walk
import Mathlib.Data.List.Nodup
import Mathlib.Data.List.Perm.Subperm

/-!
The directories of a file system: their places are counted, and their entries have proper names.
-/
namespace DocAtlas.Disk

/-! ### Places of directories -/

mutual

/-- The places of the directories of a tree. -/
def Node.places : Node → List Place
  | .file _ => []
  | .link _ => []
  | .directory entries => [] :: placesOf entries

def placesOf : List (String × Node) → List Place
  | [] => []
  | (name, n) :: rest => n.places.map (name :: ·) ++ placesOf rest

end

mutual

theorem Node.length_places (n : Node) : n.places.length = n.directories := by
  match n with
  | .file _ => rfl
  | .link _ => rfl
  | .directory entries =>
    rw [Node.places, Node.directories, List.length_cons, length_placesOf, Nat.add_comm]

theorem length_placesOf (entries : List (String × Node)) :
    (placesOf entries).length = directoriesOf entries := by
  match entries with
  | [] => rfl
  | (name, n) :: rest =>
    rw [placesOf, directoriesOf, List.length_append, List.length_map, n.length_places,
      length_placesOf rest]

end

theorem mem_placesOf {entries : List (String × Node)} {name : String} {n : Node}
    (he : (name, n) ∈ entries) {p : Place} (hp : p ∈ n.places) : name :: p ∈ placesOf entries := by
  induction entries with
  | nil => cases he
  | cons entry rest ih =>
    rcases List.mem_cons.mp he with rfl | hm
    · exact List.mem_append_left _ (List.mem_map_of_mem hp)
    · exact List.mem_append_right _ (ih hm)

/-- What the names of a place lead to, one after the other. -/
def Node.descend (n : Node) (p : Place) : Option Node :=
  p.foldl (fun n name => n.bind (·.child? name)) (some n)

theorem Node.descend_cons (n : Node) (name : String) (p : Place) :
    n.descend (name :: p) = (n.child? name).bind (·.descend p) := by
  cases h : n.child? name with
  | none =>
    have hnone : p.foldl (fun (n : Option Node) name => n.bind (·.child? name)) none = none := by
      induction p with
      | nil => rfl
      | cons name p ih => exact ih
    simp only [descend, List.foldl_cons, Option.bind_some, h, hnone, Option.bind_none]
  | some m => simp only [descend, List.foldl_cons, Option.bind_some, h]

theorem Node.mem_of_child? {n m : Node} {name : String} (h : n.child? name = some m) :
    ∃ entries, n = .directory entries ∧ (name, m) ∈ entries := by
  cases n with
  | file bytes => cases h
  | link target => cases h
  | directory entries =>
    obtain ⟨entry, hf, rfl⟩ := Option.map_eq_some_iff.mp h
    have hname : entry.1 = name := by simpa using List.find?_some hf
    refine ⟨entries, rfl, ?_⟩
    rw [← hname]
    exact List.mem_of_find?_eq_some hf

theorem Node.mem_places {n : Node} {p : Place} {entries : List (String × Node)}
    (h : n.descend p = some (.directory entries)) : p ∈ n.places := by
  induction p generalizing n with
  | nil =>
    cases h
    exact List.mem_cons_self
  | cons name p ih =>
    rw [Node.descend_cons] at h
    obtain ⟨m, hchild, hm⟩ := Option.bind_eq_some_iff.mp h
    obtain ⟨siblings, rfl, he⟩ := Node.mem_of_child? hchild
    exact List.mem_cons_of_mem _ (mem_placesOf he (ih hm))

/-- Places of distinct directories are not more than there are directories. -/
theorem length_le_directories {d : Disk} {ps : List Place} (hd : ps.Nodup)
    (h : ∀ p ∈ ps, d.HasDirectory p) : ps.length ≤ (Node.directory d.entries).directories := by
  rw [← Node.length_places]
  apply (List.subperm_of_subset hd _).length_le
  intro p hp
  obtain ⟨entries, he⟩ := h p hp
  exact Node.mem_places he

/-! ### Names -/

/-- A name that an entry can have. -/
def isName (name : String) : Bool := name != "" && !name.toList.contains '/'

mutual

/-- Whether the entries of all directories have names, and no two of one directory the same. -/
def Node.isProper : Node → Bool
  | .file _ => true
  | .link _ => true
  | .directory entries => decide (entries.map (·.1)).Nodup && areProper entries

def areProper : List (String × Node) → Bool
  | [] => true
  | (name, n) :: rest => isName name && n.isProper && areProper rest

end

/-- A file system whose directories hold distinctly named entries. -/
def isProper (d : Disk) : Bool := (Node.directory d.entries).isProper

theorem of_areProper {entries : List (String × Node)} (h : areProper entries = true) :
    ∀ entry ∈ entries, isName entry.1 = true ∧ entry.2.isProper = true := by
  induction entries with
  | nil => simp
  | cons entry rest ih =>
    simp only [areProper, Bool.and_eq_true] at h
    exact List.forall_mem_cons.mpr ⟨h.1, ih h.2⟩

theorem Node.isProper_of_descend {n m : Node} (hn : n.isProper = true) {p : Place}
    (h : n.descend p = some m) : m.isProper = true := by
  induction p generalizing n with
  | nil =>
    cases h
    exact hn
  | cons name p ih =>
    rw [Node.descend_cons] at h
    obtain ⟨k, hchild, hk⟩ := Option.bind_eq_some_iff.mp h
    obtain ⟨siblings, rfl, he⟩ := Node.mem_of_child? hchild
    simp only [Node.isProper, Bool.and_eq_true] at hn
    exact ih (of_areProper hn.2 _ he).2 hk

theorem Node.isName_of_descend {n m : Node} (hn : n.isProper = true) {p : Place}
    (h : n.descend p = some m) : ∀ name ∈ p, isName name = true := by
  induction p generalizing n with
  | nil => simp
  | cons name p ih =>
    rw [Node.descend_cons] at h
    obtain ⟨k, hchild, hk⟩ := Option.bind_eq_some_iff.mp h
    obtain ⟨siblings, rfl, he⟩ := Node.mem_of_child? hchild
    simp only [Node.isProper, Bool.and_eq_true] at hn
    obtain ⟨hname, hproper⟩ := of_areProper hn.2 _ he
    exact List.forall_mem_cons.mpr ⟨hname, ih hproper hk⟩

theorem isName_of_hasDirectory {d : Disk} (hd : d.isProper = true) {p : Place}
    (h : d.HasDirectory p) : ∀ name ∈ p, isName name = true := by
  obtain ⟨entries, he⟩ := h
  exact Node.isName_of_descend hd he

theorem names_of_directory {d : Disk} (hd : d.isProper = true) {p : Place}
    {entries : List (String × Node)} (h : d.node? p = some (.directory entries)) :
    (entries.map (·.1)).Nodup ∧ ∀ entry ∈ entries, isName entry.1 = true := by
  have hp := Node.isProper_of_descend hd h
  simp only [Node.isProper, Bool.and_eq_true, decide_eq_true_eq] at hp
  exact ⟨hp.1, fun entry he => (of_areProper hp.2 entry he).1⟩

end DocAtlas.Disk

namespace DocAtlas.Scan

/-! ### Entries -/

theorem entriesOf_eq {d : Disk} {p : Disk.Place} {e : Entry} (h : e ∈ entriesOf d p) :
    ∃ entries, d.node? p = some (.directory entries) ∧
      ∃ entry ∈ entries, e = entryOf d p entry.1 entry.2 := by
  unfold entriesOf at h
  split at h
  · rename_i entries he
    obtain ⟨entry, hm, rfl⟩ := List.mem_map.mp (Order.mem_sort.mp h)
    exact ⟨entries, he, entry, hm, rfl⟩
  · cases h

theorem mem_entriesOf {d : Disk} {p : Disk.Place} {entries : List (String × Disk.Node)}
    (h : d.node? p = some (.directory entries)) {name : String} {n : Disk.Node}
    (hm : (name, n) ∈ entries) : entryOf d p name n ∈ entriesOf d p := by
  rw [entriesOf, h]
  exact Order.mem_sort.mpr (List.mem_map_of_mem hm)

theorem targetAt_eq_directory {d : Disk} {p q : Disk.Place} (h : targetAt d p = .directory q) :
    p = q ∧ d.HasDirectory q := by
  unfold targetAt at h
  split at h
  · rename_i entries he
    cases h
    exact ⟨rfl, entries, he⟩
  · cases h
  · cases h

theorem targetAt_eq_file {d : Disk} {p q : Disk.Place} (h : targetAt d p = .file q) :
    p = q ∧ ∃ bytes, d.node? q = some (.file bytes) := by
  unfold targetAt at h
  split at h
  · cases h
  · rename_i bytes hb
    cases h
    exact ⟨rfl, bytes, hb⟩
  · cases h

/-- What the name of an entry leads to when some links have been followed before. -/
theorem target_of_mem {d : Disk} {p : Disk.Place} {e : Entry} (h : e ∈ entriesOf d p) {before : Nat}
    (hle : before ≤ Disk.maxLinks) :
    (d.follow (Disk.maxLinks - before) p.reverse [e.name]).elim .other (targetAt d ·.2) =
      if before + e.links ≤ Disk.maxLinks then e.target else .other := by
  obtain ⟨entries, -, ⟨name, n⟩, -, rfl⟩ := entriesOf_eq h
  rw [Disk.follow_eq_bind d _ before, Nat.sub_add_cancel hle]
  rcases Option.eq_none_or_eq_some (d.follow Disk.maxLinks p.reverse [name]) with
    hnone | ⟨⟨left, q⟩, hsome⟩
  · simp [entryOf, hnone]
  · obtain ⟨links, -, hlinks⟩ := Disk.follow_eq_some_iff.mp hsome
    have henough : before + (Disk.maxLinks - left) ≤ Disk.maxLinks ↔ before ≤ left := by omega
    simp only [entryOf, hsome, Option.elim_some, Option.bind_some, henough]
    split <;> rfl

theorem directory_of_mem {d : Disk} {p q : Disk.Place} {e : Entry} (h : e ∈ entriesOf d p)
    (ht : e.target = .directory q) :
    d.Follows p.reverse [e.name] e.links q ∧ d.HasDirectory q := by
  obtain ⟨entries, -, ⟨name, n⟩, -, rfl⟩ := entriesOf_eq h
  rcases Option.eq_none_or_eq_some (d.follow Disk.maxLinks p.reverse [name]) with
    hnone | ⟨⟨left, r⟩, hsome⟩
  · simp [entryOf, hnone] at ht
  · obtain ⟨links, hfollows, hlinks⟩ := Disk.follow_eq_some_iff.mp hsome
    simp only [entryOf, hsome, Option.elim_some] at ht ⊢
    obtain ⟨rfl, hdirectory⟩ := targetAt_eq_directory ht
    rw [hlinks, Nat.add_sub_cancel_left]
    exact ⟨hfollows, hdirectory⟩

theorem isName_of_mem {d : Disk} (hd : d.isProper = true) {p : Disk.Place} {e : Entry}
    (h : e ∈ entriesOf d p) : Disk.isName e.name = true := by
  obtain ⟨entries, he, entry, hm, rfl⟩ := entriesOf_eq h
  exact (Disk.names_of_directory hd he).2 entry hm

theorem names_nodup {d : Disk} (hd : d.isProper = true) (p : Disk.Place) :
    ((entriesOf d p).map Entry.name).Nodup := by
  unfold entriesOf
  split
  · rename_i entries he
    rw [((Order.sort_perm _ _).map _).nodup_iff, List.map_map]
    exact (Disk.names_of_directory hd he).1
  · exact List.nodup_nil

theorem eq_of_name {d : Disk} (hd : d.isProper = true) {p : Disk.Place} {e f : Entry}
    (he : e ∈ entriesOf d p) (hf : f ∈ entriesOf d p) (same : e.name = f.name) : e = f :=
  List.inj_on_of_nodup_map (names_nodup hd p) he hf same

end DocAtlas.Scan
