import DocAtlas.Proofs.Places
import Mathlib.Algebra.GroupWithZero.Nat
import Mathlib.Data.List.Induction
import Mathlib.Data.List.Infix

/-!
The ways that a walk goes from its root: through entries that lead from one directory into the next,
with no directory pruned and none met twice.
-/
namespace DocAtlas.Path

theorem joinSegments_concat {parts : List String} (h : parts ≠ []) (part : String) :
    joinSegments (parts ++ [part]) = joinSegments parts ++ "/" ++ part := by
  rw [joinSegments, String.intercalate_append_of_ne_nil h (List.cons_ne_nil part []),
    String.intercalate_singleton]
  rfl

/-- Names without slashes can be told from the path that they make. -/
theorem joinSegments_inj {as bs : List String} (ha : ∀ s ∈ as, '/' ∉ s.toList)
    (hb : ∀ s ∈ bs, '/' ∉ s.toList) (hna : as ≠ []) (hnb : bs ≠ [])
    (h : joinSegments as = joinSegments bs) : as = bs := by
  have hsplit : ∀ parts : List String, (∀ s ∈ parts, '/' ∉ s.toList) → parts ≠ [] →
      (joinSegments parts).toList.splitOn '/' = parts.map String.toList := by
    intro parts hparts hne
    rw [joinSegments, String.toList_intercalate]
    apply List.splitOn_intercalate
    · exact List.forall_mem_map.mpr hparts
    · simpa using hne
  have hlists := congrArg (fun s : String => s.toList.splitOn '/') h
  simp only [hsplit as ha hna, hsplit bs hb hnb] at hlists
  exact List.map_injective_iff.mpr (fun _ _ he => String.toList_inj.mp he) hlists

end DocAtlas.Path

namespace DocAtlas.Scan

/-! ### Ways -/

/-- The directory that an entry leads to. -/
def Entry.place? (e : Entry) : Option Disk.Place :=
  match e.target with
  | .directory place => some place
  | _ => none

theorem Entry.place?_eq_some {e : Entry} {q : Disk.Place} :
    e.place? = some q ↔ e.target = .directory q := by
  unfold Entry.place?
  cases e.target <;> simp

/-- The entries lead from the root through directories to the directory at the place. -/
inductive Way (d : Disk) (root : Disk.Place) : List Entry → Disk.Place → Prop
  | here : Way d root [] root
  | down {es : List Entry} {p q : Disk.Place} {e : Entry} (way : Way d root es p)
      (entry : e ∈ entriesOf d p) (target : e.target = .directory q) : Way d root (es ++ [e]) q

/-- The path below the root that entries make. -/
def pathOf (es : List Entry) : String := Path.joinSegments (es.map Entry.name)

/-- The root and the directories on the way. -/
def passed (root : Disk.Place) (es : List Entry) : List Disk.Place :=
  root :: es.filterMap Entry.place?

theorem passed_concat {root q : Disk.Place} {es : List Entry} {e : Entry}
    (h : e.target = .directory q) : passed root (es ++ [e]) = passed root es ++ [q] := by
  rw [passed, List.filterMap_append, List.filterMap_cons_some (Entry.place?_eq_some.mpr h)]
  rfl

/-- How many links entries lead through. -/
def linksOf (es : List Entry) : Nat := (es.map Entry.links).sum

theorem linksOf_concat (es : List Entry) (e : Entry) :
    linksOf (es ++ [e]) = linksOf es + e.links := by
  simp [linksOf]

/-- The visit of the directory at the end of a way. -/
def visitAt (root : Disk.Place) (es : List Entry) : Visit where
  place := (passed root es).getLast (List.cons_ne_nil _ _)
  path := pathOf es
  ancestors := passed root es
  viaLink := es.any (·.isLink)
  links := linksOf es

theorem rootVisit_eq (root : Disk.Place) : rootVisit root = visitAt root [] := rfl

section

variable {d : Disk} {root : Disk.Place} {es : List Entry} {p : Disk.Place}

theorem Way.place_eq (h : Way d root es p) : (visitAt root es).place = p := by
  cases h with
  | here => rfl
  | down way entry target =>
    simp only [visitAt, passed_concat target, List.getLast_append_singleton]

theorem Way.length_passed (h : Way d root es p) : (passed root es).length = es.length + 1 := by
  induction h with
  | here => rfl
  | down way entry target ih =>
    rw [passed_concat target, List.length_append, List.length_append, ih]
    rfl

theorem Way.hasDirectory (h : Way d root es p) :
    ∀ q ∈ es.filterMap Entry.place?, d.HasDirectory q := by
  induction h with
  | here => simp
  | down way entry target ih =>
    rw [List.filterMap_append, List.filterMap_cons_some (Entry.place?_eq_some.mpr target),
      List.filterMap_nil, List.forall_mem_append, List.forall_mem_singleton]
    exact ⟨ih, (directory_of_mem entry target).2⟩

theorem Way.isName (hd : d.isProper = true) (h : Way d root es p) :
    ∀ e ∈ es, Disk.isName e.name = true := by
  induction h with
  | here => simp
  | down way entry target ih =>
    rw [List.forall_mem_append, List.forall_mem_singleton]
    exact ⟨ih, isName_of_mem hd entry⟩

theorem Way.isName_concat (hd : d.isProper = true) (h : Way d root es p) {e : Entry}
    (entry : e ∈ entriesOf d p) : ∀ step ∈ es ++ [e], Disk.isName step.name = true := by
  rw [List.forall_mem_append, List.forall_mem_singleton]
  exact ⟨h.isName hd, isName_of_mem hd entry⟩

/-- There is one way only for the names on it. -/
theorem Way.eq_of_names (hd : d.isProper = true) (h : Way d root es p) {fs : List Entry}
    {q : Disk.Place} (h' : Way d root fs q) (same : es.map Entry.name = fs.map Entry.name) :
    es = fs ∧ p = q := by
  induction h generalizing fs q with
  | here =>
    cases List.map_eq_nil_iff.mp same.symm
    exact ⟨rfl, h'.place_eq⟩
  | down way entry target ih =>
    cases h' with
    | here => simp at same
    | down way' entry' target' =>
      rw [List.map_append, List.map_append] at same
      obtain ⟨hbefore, hlast⟩ := List.append_inj' same rfl
      obtain ⟨rfl, rfl⟩ := ih way' hbefore
      obtain rfl := eq_of_name hd entry entry' (List.singleton_inj.mp hlast)
      exact ⟨rfl, Target.directory.inj (target.symm.trans target')⟩

/-- The names on a way lead along it, through its links. -/
theorem Way.follows (h : Way d root es p) (directory : d.HasDirectory root) :
    d.Follows root.reverse (es.map Entry.name) (linksOf es) p ∧ d.HasDirectory p := by
  induction h with
  | here =>
    refine ⟨?_, directory⟩
    have harrives : d.Follows root.reverse [] 0 root.reverse.reverse := .arrives rfl
    rwa [List.reverse_reverse] at harrives
  | down way entry target ih =>
    obtain ⟨hway, hp⟩ := ih
    obtain ⟨hentry, hq⟩ := directory_of_mem entry target
    rw [List.map_append, List.map_singleton, linksOf_concat]
    exact ⟨hway.append hp hentry, hq⟩

end

theorem proper_of_isName {name : String} (h : Disk.isName name = true) :
    '/' ∉ name.toList ∧ name ≠ "" := by
  simp only [Disk.isName, Bool.and_eq_true, Bool.not_eq_true', List.contains_eq_mem] at h
  exact ⟨by simpa using h.2, by simpa using h.1⟩

theorem pathOf_inj {es fs : List Entry} (he : ∀ e ∈ es, Disk.isName e.name = true)
    (hf : ∀ e ∈ fs, Disk.isName e.name = true) (hne : es ≠ []) (hnf : fs ≠ [])
    (h : pathOf es = pathOf fs) : es.map Entry.name = fs.map Entry.name := by
  apply Path.joinSegments_inj _ _ _ _ h
  · exact List.forall_mem_map.mpr fun e hm => (proper_of_isName (he e hm)).1
  · exact List.forall_mem_map.mpr fun e hm => (proper_of_isName (hf e hm)).1
  · simpa using hne
  · simpa using hnf

theorem pathOf_ne_empty {es : List Entry} (hn : ∀ e ∈ es, Disk.isName e.name = true)
    (hne : es ≠ []) : pathOf es ≠ "" := by
  intro h
  have hnames : es.map Entry.name = [""] := by
    apply Path.joinSegments_inj _ (by simp) (by simpa using hne) (by simp)
    · exact h.trans String.intercalate_singleton.symm
    · exact List.forall_mem_map.mpr fun e hm => (proper_of_isName (hn e hm)).1
  obtain ⟨e, he, hname⟩ := List.mem_map.mp (hnames ▸ List.mem_singleton_self "")
  have := hn e he
  rw [hname] at this
  cases this

/-- The path of an entry, as a walk makes it from that of its directory. -/
theorem below_visitAt {root : Disk.Place} {es : List Entry}
    (hn : ∀ e ∈ es, Disk.isName e.name = true) (e : Entry) :
    (visitAt root es).below e.name = pathOf (es ++ [e]) := by
  unfold Visit.below
  by_cases h : es = []
  · rw [h]
    rfl
  · rw [if_neg (by simpa [visitAt] using pathOf_ne_empty hn h), pathOf, List.map_append,
      List.map_singleton, Path.joinSegments_concat (by simpa using h)]
    rfl

/-! ### Ways that a walk goes -/

/-- A way that a walk goes: no directory on it is pruned, none is met twice, and it leads through no
more links than are followed along a path. -/
structure Goes (d : Disk) (rules : RuleSet) (root : Disk.Place) (es : List Entry)
    (p : Disk.Place) : Prop where
  way : Way d root es p
  kept : ∀ before, before ≠ [] → before <+: es → rules.prunes (pathOf before) = false
  distinct : (passed root es).Nodup
  links : linksOf es ≤ Disk.maxLinks

section

variable {d : Disk} {rules : RuleSet} {root : Disk.Place}

theorem goes_root (d : Disk) (rules : RuleSet) (root : Disk.Place) :
    Goes d rules root [] root where
  way := .here
  kept _ hne hp := absurd (List.prefix_nil.mp hp) hne
  distinct := List.nodup_singleton root
  links := Nat.zero_le _

/-- One more entry goes on a way if its directory is not pruned and not among those passed, and its
links can be followed. -/
theorem goes_concat {es : List Entry} {e : Entry} {q : Disk.Place} :
    Goes d rules root (es ++ [e]) q ↔
      ∃ p, Goes d rules root es p ∧ e ∈ entriesOf d p ∧ e.target = .directory q ∧
        rules.prunes (pathOf (es ++ [e])) = false ∧ q ∉ passed root es ∧
        linksOf (es ++ [e]) ≤ Disk.maxLinks := by
  constructor
  · rintro ⟨way, kept, distinct, links⟩
    generalize hes : es ++ [e] = whole at way
    cases way with
    | here => simp at hes
    | down way entry target =>
      obtain ⟨rfl, he⟩ := List.append_inj' hes rfl
      cases he
      rw [passed_concat target, List.nodup_append] at distinct
      have hbefore : linksOf es ≤ Disk.maxLinks := by
        rw [linksOf_concat] at links
        omega
      refine ⟨_, ⟨way, ?_, distinct.1, hbefore⟩, entry, target, kept _ (by simp) List.prefix_rfl,
        ?_, links⟩
      · intro before hne hp
        exact kept before hne (hp.trans (List.prefix_append _ _))
      · intro hq
        exact distinct.2.2 q hq q (by simp) rfl
  · rintro ⟨p, ⟨way, kept, distinct, -⟩, entry, target, hkept, hnew, hlinks⟩
    refine ⟨.down way entry target, ?_, ?_, hlinks⟩
    · intro before hne hp
      rcases List.prefix_concat_iff.mp hp with rfl | hp
      · exact hkept
      · exact kept before hne hp
    · rw [passed_concat target, ← List.concat_eq_append]
      exact distinct.concat hnew

theorem Goes.of_append {es fs : List Entry} {q : Disk.Place} (h : Goes d rules root (es ++ fs) q) :
    ∃ p, Goes d rules root es p := by
  induction fs using List.reverseRecOn generalizing q with
  | nil => exact ⟨q, by simpa using h⟩
  | append_singleton fs f ih =>
    rw [← List.append_assoc] at h
    obtain ⟨p, hp, -⟩ := goes_concat.mp h
    exact ih hp

/-- No way is longer than there are directories. -/
theorem Goes.length_le {es : List Entry} {p : Disk.Place} (h : Goes d rules root es p) :
    es.length ≤ depthBound d := by
  have hplaces : (es.filterMap Entry.place?).length = es.length := by
    simpa [passed] using h.way.length_passed
  rw [← hplaces]
  exact Disk.length_le_directories (List.nodup_cons.mp h.distinct).2 h.way.hasDirectory

theorem visitAt_concat {es : List Entry} {e : Entry} {q : Disk.Place}
    (h : e.target = .directory q) :
    visitAt root (es ++ [e]) =
      ⟨q, pathOf (es ++ [e]), passed root es ++ [q], es.any (·.isLink) || e.isLink,
        linksOf es + e.links⟩ := by
  simp only [visitAt, passed_concat h, List.getLast_append_singleton, List.any_append,
    List.any_cons, List.any_nil, Bool.or_false, linksOf_concat]

/-- What entries lead to at their end, if their links can be followed. -/
def reached (es : List Entry) (e : Entry) : Target :=
  if linksOf (es ++ [e]) ≤ Disk.maxLinks then e.target else .other

theorem target_visitAt (es : List Entry) (e : Entry) :
    (visitAt root es).target e = reached es e := by
  rw [reached, linksOf_concat]
  rfl

/-- What is reached through a way is what the names of the root and of the way lead to. -/
theorem Way.reached_eq {es : List Entry} {p : Disk.Place} (way : Way d root es p)
    (directory : d.HasDirectory root) (real : d.Follows [] root 0 root) {e : Entry}
    (entry : e ∈ entriesOf d p) :
    reached es e =
      (d.follow Disk.maxLinks [] (root ++ (es ++ [e]).map Entry.name)).elim .other
        (targetAt d ·.2) := by
  obtain ⟨hway, hp⟩ := way.follows directory
  have hwhole : d.Follows [] (root ++ es.map Entry.name) (linksOf es) p := by
    simpa using real.append directory hway
  have hnames : root ++ (es ++ [e]).map Entry.name = root ++ es.map Entry.name ++ [e.name] := by
    simp
  rw [hnames, hwhole.follow_append hp, reached, linksOf_concat]
  by_cases hle : linksOf es ≤ Disk.maxLinks
  · rw [if_pos hle, target_of_mem entry hle]
  · rw [if_neg hle, if_neg (by omega)]
    rfl

theorem reached_eq_directory {es : List Entry} {e : Entry} {q : Disk.Place} :
    reached es e = .directory q ↔
      e.target = .directory q ∧ linksOf (es ++ [e]) ≤ Disk.maxLinks := by
  unfold reached
  split <;> simp_all

theorem reached_eq_file {es : List Entry} {e : Entry} {q : Disk.Place} :
    reached es e = .file q ↔ e.target = .file q ∧ linksOf (es ++ [e]) ≤ Disk.maxLinks := by
  unfold reached
  split <;> simp_all

/-- What a walk does with an entry, in terms of the way to it. -/
theorem step_visitAt {es : List Entry} (hn : ∀ e ∈ es, Disk.isName e.name = true) (e : Entry) :
    step rules (visitAt root es) e =
      match reached es e with
      | .directory place =>
        if rules.prunes (pathOf (es ++ [e])) then .done { excluded := 1, looked := 1 }
        else if (passed root es).contains place then
          .done { findings := [cycleFinding (pathOf (es ++ [e]))], looked := 1 }
        else .enter (visitAt root (es ++ [e]))
      | .file place =>
        if rules.excludes (pathOf (es ++ [e])) false then .done { excluded := 1, looked := 1 }
        else .done
          { candidates := [⟨pathOf (es ++ [e]), place, (es ++ [e]).any (·.isLink)⟩], looked := 1 }
      | .other => .done { looked := 1 } := by
  unfold step
  rw [below_visitAt hn e, target_visitAt]
  cases ht : reached es e with
  | directory place =>
    rw [visitAt_concat (reached_eq_directory.mp ht).1]
    rfl
  | file place =>
    rw [List.any_append, List.any_cons, List.any_nil, Bool.or_false]
    rfl
  | other => rfl

/-- A walk enters the directories of the entries that it can go on with. -/
theorem step_eq_enter (hd : d.isProper = true) {es : List Entry} {p : Disk.Place}
    (h : Goes d rules root es p) {e : Entry} (he : e ∈ entriesOf d p) {v : Visit} :
    step rules (visitAt root es) e = .enter v ↔
      (∃ q, Goes d rules root (es ++ [e]) q) ∧ v = visitAt root (es ++ [e]) := by
  rw [step_visitAt (h.way.isName hd)]
  have hdirectory : ∀ q, Goes d rules root (es ++ [e]) q → reached es e = .directory q := by
    intro q hq
    obtain ⟨_, -, -, htarget, -, -, hlinks⟩ := goes_concat.mp hq
    exact reached_eq_directory.mpr ⟨htarget, hlinks⟩
  cases ht : reached es e with
  | directory place =>
    obtain ⟨htarget, hlinks⟩ := reached_eq_directory.mp ht
    dsimp only
    split
    · rename_i hpruned
      simp [goes_concat, hpruned]
    · rename_i hkept
      split
      · rename_i hmet
        rw [List.contains_iff_mem] at hmet
        simp [goes_concat, htarget, hmet]
      · rename_i hnew
        rw [List.contains_iff_mem] at hnew
        have hgoes : Goes d rules root (es ++ [e]) place :=
          goes_concat.mpr ⟨p, h, he, htarget, by simpa using hkept, hnew, hlinks⟩
        constructor
        · intro hv
          cases hv
          exact ⟨⟨place, hgoes⟩, rfl⟩
        · rintro ⟨-, rfl⟩
          rfl
  | file place =>
    have hnone : ∀ q, ¬Goes d rules root (es ++ [e]) q := fun q hq => by
      rw [hdirectory q hq] at ht
      cases ht
    dsimp only
    split <;> simp [hnone]
  | other =>
    have hnone : ∀ q, ¬Goes d rules root (es ++ [e]) q := fun q hq => by
      rw [hdirectory q hq] at ht
      cases ht
    simp [hnone]

end

end DocAtlas.Scan
