import DocAtlas.Proofs.Merging
import DocAtlas.Proofs.Ways

/-!
What a walk looks at: every entry of every directory at the end of a way that it goes, once each.
-/
namespace DocAtlas.Scan

/-! ### Entries looked at -/

/-- An entry with the way to its directory. -/
structure Look where
  way : List Entry
  entry : Entry

namespace Look

def entries (k : Look) : List Entry := k.way ++ [k.entry]

def path (k : Look) : String := pathOf k.entries

def names (k : Look) : List String := k.entries.map Entry.name

def links (k : Look) : Nat := linksOf k.entries

/-- What the entry leads to, if the links on the way can be followed. -/
def target (k : Look) : Target := reached k.way k.entry

theorem target_eq_file {k : Look} {place : Disk.Place} :
    k.target = .file place ↔ k.entry.target = .file place ∧ k.links ≤ Disk.maxLinks :=
  reached_eq_file

theorem target_eq_directory {k : Look} {place : Disk.Place} :
    k.target = .directory place ↔ k.entry.target = .directory place ∧ k.links ≤ Disk.maxLinks :=
  reached_eq_directory

end Look

/-- What an entry brings in before its directory is entered. -/
def Step.harvest : Step → Harvest
  | .done h => h
  | .enter _ => { looked := 1 }

def Step.visit? : Step → Option Visit
  | .done _ => none
  | .enter v => some v

/-- The directories that steps lead into. -/
def entered (ss : List Step) : List Visit := ss.filterMap Step.visit?

theorem topHarvest_eq (ss : List Step) : topHarvest ss = Harvest.all (ss.map Step.harvest) := rfl

theorem subtrees_eq (d : Disk) (rules : RuleSet) (ss : List Step) :
    subtrees d rules ss = (entered ss).map (walk d rules (depthBound d)) := by
  rw [entered, List.map_filterMap]
  apply List.filterMap_congr
  intro s _
  cases s <;> rfl

theorem walk_succ_eq (d : Disk) (rules : RuleSet) (fuel : Nat) (v : Visit) :
    walk d rules (fuel + 1) v = Harvest.all ((steps d rules v).map fun s =>
      match s.visit? with
      | none => s.harvest
      | some v => s.harvest.append (walk d rules fuel v)) := by
  rw [walk]
  congr 2
  funext s
  cases s <;> rfl

/-- The entries that a walk looks at from the end of a way on. -/
def looks (d : Disk) (rules : RuleSet) (root : Disk.Place) : Nat → List Entry → List Look
  | 0, _ => []
  | fuel + 1, es => (entriesOf d (visitAt root es).place).flatMap fun e =>
      ⟨es, e⟩ :: match (step rules (visitAt root es) e).visit? with
        | none => []
        | some _ => looks d rules root fuel (es ++ [e])

/-- The walk goes to the directory of the entry. -/
def Look.Reached (d : Disk) (rules : RuleSet) (root : Disk.Place) (k : Look) : Prop :=
  ∃ p, Goes d rules root k.way p ∧ k.entry ∈ entriesOf d p

/-- What the look at an entry brings in. -/
def report (rules : RuleSet) (root : Disk.Place) (k : Look) : Harvest :=
  (step rules (visitAt root k.way) k.entry).harvest

/-- Ways through entries of different names make different names. -/
theorem names_ne {es : List Entry} {e f : Entry} {k l : Look} (hk : es ++ [e] <+: k.entries)
    (hl : es ++ [f] <+: l.entries) (hne : e.name ≠ f.name) : k.names ≠ l.names := by
  intro hsame
  have hkbegins : (es ++ [e]).map Entry.name <+: k.names := hk.map Entry.name
  have hlbegins : (es ++ [f]).map Entry.name <+: l.names := hl.map Entry.name
  rw [hsame] at hkbegins
  have hboth := List.prefix_of_prefix_length_le hkbegins hlbegins (by simp)
  have heq := hboth.eq_of_length (by simp)
  simp only [List.map_append, List.map_singleton, List.append_cancel_left_eq, List.cons.injEq,
    and_true] at heq
  exact hne heq

section

variable {d : Disk} (hd : d.isProper = true) {rules : RuleSet} {root : Disk.Place}
include hd

theorem visit?_step {es : List Entry} {p : Disk.Place} (h : Goes d rules root es p) {e : Entry}
    (he : e ∈ entriesOf d p) {v : Visit} :
    (step rules (visitAt root es) e).visit? = some v ↔
      (∃ q, Goes d rules root (es ++ [e]) q) ∧ v = visitAt root (es ++ [e]) := by
  rw [← step_eq_enter hd h he]
  cases step rules (visitAt root es) e <;> simp [Step.visit?]

theorem mem_looks {fuel : Nat} {es : List Entry} {p : Disk.Place} (h : Goes d rules root es p)
    {k : Look} :
    k ∈ looks d rules root fuel es ↔
      es <+: k.way ∧ k.way.length < es.length + fuel ∧ k.Reached d rules root := by
  induction fuel generalizing es p with
  | zero =>
    simp only [looks, List.not_mem_nil, false_iff]
    rintro ⟨hp, hl, -⟩
    exact absurd hp.length_le (by omega)
  | succ fuel ih =>
    rw [looks, List.mem_flatMap, h.way.place_eq]
    constructor
    · rintro ⟨e, he, hk⟩
      rcases List.mem_cons.mp hk with rfl | hk
      · exact ⟨List.prefix_rfl, by simp, p, h, he⟩
      · split at hk
        · cases hk
        · rename_i v hv
          obtain ⟨⟨q, hq⟩, -⟩ := (visit?_step hd h he).mp hv
          obtain ⟨hbegins, hlength, hgoes⟩ := (ih hq).mp hk
          refine ⟨(List.prefix_append es [e]).trans hbegins, ?_, hgoes⟩
          rw [List.length_append, List.length_singleton] at hlength
          omega
    · rintro ⟨⟨fs, hway⟩, hlength, q, hgoes, hentry⟩
      cases fs with
      | nil =>
        rw [List.append_nil] at hway
        have hq : q = p := by rw [← hgoes.way.place_eq, ← h.way.place_eq, hway]
        refine ⟨k.entry, hq ▸ hentry, ?_⟩
        rw [hway]
        exact List.mem_cons_self
      | cons e fs =>
        -- `e` is the entry of this directory through which the way to `k` goes on.
        rw [List.append_cons] at hway
        obtain ⟨r, hr⟩ := Goes.of_append (hway ▸ hgoes)
        obtain ⟨p', hp', he, -⟩ := goes_concat.mp hr
        have hp : p' = p := by rw [← hp'.way.place_eq, ← h.way.place_eq]
        rw [hp] at he
        refine ⟨e, he, List.mem_cons_of_mem _ ?_⟩
        rw [(visit?_step hd h he).mpr ⟨⟨r, hr⟩, rfl⟩]
        apply (ih hr).mpr
        refine ⟨⟨fs, hway⟩, ?_, q, hgoes, hentry⟩
        rw [List.length_append, List.length_singleton]
        omega

/-- A walk brings in what the looks at single entries do. -/
theorem contents_walk {fuel : Nat} {es : List Entry} {p : Disk.Place}
    (h : Goes d rules root es p) :
    (walk d rules fuel (visitAt root es)).contents =
      ((looks d rules root fuel es).map fun k => (report rules root k).contents).sum := by
  induction fuel generalizing es p with
  | zero => rfl
  | succ fuel ih =>
    rw [walk_succ_eq, Harvest.additive_contents.all, steps, looks, List.flatMap_def,
      List.map_flatten, List.sum_flatten, List.map_map, List.map_map, List.map_map, List.map_map,
      h.way.place_eq]
    congr 1
    apply List.map_congr_left
    intro e he
    simp only [Function.comp_apply, List.map_cons, List.sum_cons]
    cases hv : (step rules (visitAt root es) e).visit? with
    | none => simp [report]
    | some v =>
      obtain ⟨⟨q, hq⟩, rfl⟩ := (visit?_step hd h he).mp hv
      simp only [Harvest.additive_contents.append, ih hq]
      rfl

/-- What is looked at from an entry on lies on ways through it. -/
theorem prefix_of_looks {fuel : Nat} {es : List Entry} {p : Disk.Place}
    (h : Goes d rules root es p) {e : Entry} (he : e ∈ entriesOf d p) {k : Look}
    (hk : k ∈ (⟨es, e⟩ : Look) :: match (step rules (visitAt root es) e).visit? with
      | none => []
      | some _ => looks d rules root fuel (es ++ [e])) : es ++ [e] <+: k.entries := by
  rcases List.mem_cons.mp hk with rfl | hk
  · exact List.prefix_rfl
  · split at hk
    · cases hk
    · rename_i v hv
      obtain ⟨⟨q, hq⟩, -⟩ := (visit?_step hd h he).mp hv
      exact ((mem_looks hd hq).mp hk).1.trans (List.prefix_append _ _)

theorem looks_names_nodup {fuel : Nat} {es : List Entry} {p : Disk.Place}
    (h : Goes d rules root es p) : ((looks d rules root fuel es).map Look.names).Nodup := by
  induction fuel generalizing es p with
  | zero => exact List.nodup_nil
  | succ fuel ih =>
    rw [looks, List.map_flatMap, List.nodup_flatMap, h.way.place_eq]
    constructor
    · intro e he
      rw [List.map_cons, List.nodup_cons]
      split
      · exact ⟨List.not_mem_nil, List.nodup_nil⟩
      · rename_i v hv
        obtain ⟨⟨q, hq⟩, -⟩ := (visit?_step hd h he).mp hv
        refine ⟨?_, ih hq⟩
        intro hm
        obtain ⟨k, hk, hnames⟩ := List.mem_map.mp hm
        have hlonger := ((mem_looks hd hq).mp hk).1.length_le
        have hlength := congrArg List.length hnames
        simp only [Look.names, Look.entries, List.length_map, List.length_append,
          List.length_singleton] at hlonger hlength
        omega
    · have hdiffer : (entriesOf d p).Pairwise fun e f => e.name ≠ f.name :=
        List.pairwise_map.mp (names_nodup hd p)
      apply hdiffer.imp_of_mem
      intro e f he hf hne names hke hkf
      obtain ⟨k, hk, rfl⟩ := List.mem_map.mp hke
      obtain ⟨l, hl, hsame⟩ := List.mem_map.mp hkf
      exact names_ne (prefix_of_looks hd h he hk) (prefix_of_looks hd h hf hl) hne hsame.symm

/-- The paths of the entries looked at are all different. -/
theorem looks_paths_nodup {fuel : Nat} {es : List Entry} {p : Disk.Place}
    (h : Goes d rules root es p) : ((looks d rules root fuel es).map Look.path).Nodup := by
  have hname : ∀ k ∈ looks d rules root fuel es, ∀ e ∈ k.entries, Disk.isName e.name = true := by
    intro k hk
    obtain ⟨-, -, q, hq, he⟩ := (mem_looks hd h).mp hk
    exact hq.way.isName_concat hd he
  rw [List.Nodup, List.pairwise_map]
  apply (List.pairwise_map.mp (looks_names_nodup hd h)).imp_of_mem
  intro k l hk hl hne he
  exact hne (pathOf_inj (hname k hk) (hname l hl) (by simp [Look.entries])
    (by simp [Look.entries]) he)

/-! ### All looks from the root -/

theorem mem_looks_root {k : Look} :
    k ∈ looks d rules root (depthBound d + 1) [] ↔ k.Reached d rules root := by
  rw [mem_looks hd (goes_root d rules root)]
  constructor
  · rintro ⟨-, -, hk⟩
    exact hk
  · rintro ⟨p, h, he⟩
    refine ⟨List.nil_prefix, ?_, p, h, he⟩
    have hlength := h.length_le
    rw [List.length_nil]
    omega

/-- What has come in is what some entry that the walk goes to brings in. -/
theorem mem_flatMap_looks {α : Type} {part : Look → List α} {P : Look → α → Prop}
    (h : ∀ k : Look, k.Reached d rules root → ∀ a, a ∈ part k ↔ P k a) {a : α} :
    a ∈ (looks d rules root (depthBound d + 1) []).flatMap part ↔
      ∃ k : Look, k.Reached d rules root ∧ P k a := by
  rw [List.mem_flatMap]
  constructor
  · rintro ⟨k, hk, ha⟩
    have hreached := (mem_looks_root hd).mp hk
    exact ⟨k, hreached, (h k hreached a).mp ha⟩
  · rintro ⟨k, hreached, hP⟩
    exact ⟨k, (mem_looks_root hd).mpr hreached, (h k hreached a).mpr hP⟩

/-- What looks bring in under their own paths does not come in twice. -/
theorem nodup_looks {keys : Look → List String}
    (h : ∀ k : Look, k.Reached d rules root → (keys k).Sublist [k.path]) :
    ((looks d rules root (depthBound d + 1) []).flatMap keys).Nodup := by
  have hkeys : ((looks d rules root (depthBound d + 1) []).flatMap keys).Sublist
      ((looks d rules root (depthBound d + 1) []).map Look.path) := by
    rw [List.map_eq_flatMap]
    exact List.Sublist.flatMap_right _ fun k hk => h k ((mem_looks_root hd).mp hk)
  exact hkeys.nodup (looks_paths_nodup hd (goes_root d rules root))

/-! ### What looks bring in -/

theorem report_eq {k : Look} (h : k.Reached d rules root) :
    report rules root k =
      match k.target with
      | .directory place =>
        if rules.prunes k.path then { excluded := 1, looked := 1 }
        else if (passed root k.way).contains place then
          { findings := [cycleFinding k.path], looked := 1 }
        else { looked := 1 }
      | .file place =>
        if rules.excludes k.path false then { excluded := 1, looked := 1 }
        else { candidates := [⟨k.path, place, k.entries.any (·.isLink)⟩], looked := 1 }
      | .other => { looked := 1 } := by
  obtain ⟨p, hgoes, -⟩ := h
  rw [report, step_visitAt (hgoes.way.isName hd)]
  unfold Look.path Look.entries Look.target
  cases reached k.way k.entry with
  | directory place =>
    dsimp only
    split
    · rfl
    · split <;> rfl
  | file place =>
    dsimp only
    split <;> rfl
  | other => rfl

/-- The candidate of a file, if the rules do not exclude it. -/
theorem candidates_report {k : Look} (h : k.Reached d rules root) {c : Candidate} :
    c ∈ (report rules root k).candidates ↔
      ∃ place, (k.entry.target = .file place ∧ k.links ≤ Disk.maxLinks) ∧
        rules.excludes k.path false = false ∧
        c = ⟨k.path, place, k.entries.any (·.isLink)⟩ := by
  simp only [report_eq hd h, ← Look.target_eq_file]
  cases k.target with
  | directory place =>
    dsimp only
    split
    · simp
    · split <;> simp
  | file place =>
    dsimp only
    split
    · rename_i hexcluded
      simp [hexcluded]
    · rename_i hkept
      simp [hkept]
  | other => simp

/-- The finding of a directory that is not pruned and has been passed on the way to it. -/
theorem findings_report {k : Look} (h : k.Reached d rules root) {f : Finding} :
    f ∈ (report rules root k).findings ↔
      ∃ place, (k.entry.target = .directory place ∧ k.links ≤ Disk.maxLinks) ∧
        rules.prunes k.path = false ∧ place ∈ passed root k.way ∧ f = cycleFinding k.path := by
  simp only [report_eq hd h, ← Look.target_eq_directory]
  cases k.target with
  | directory place =>
    dsimp only
    split
    · rename_i hpruned
      simp [hpruned]
    · rename_i hkept
      split
      · rename_i hmet
        rw [List.contains_iff_mem] at hmet
        simp [hkept, hmet]
      · rename_i hnew
        rw [List.contains_iff_mem] at hnew
        simp [hnew]
  | file place =>
    dsimp only
    split <;> simp
  | other => simp

/-- A look brings in one candidate or finding at most, and it has the path of the entry. -/
theorem report_paths {k : Look} (h : k.Reached d rules root) :
    ((report rules root k).candidates.map Candidate.path).Sublist [k.path] ∧
      ((report rules root k).findings.map Finding.subject).Sublist [k.path] := by
  rw [report_eq hd h]
  cases k.target with
  | directory place =>
    dsimp only
    split
    · simp
    · split
      · simp [cycleFinding]
      · simp
  | file place =>
    dsimp only
    split <;> simp
  | other => simp

end

end DocAtlas.Scan
