import DocAtlas.Proofs.Claiming

/-!
Which of the components declared in one unit become one candidate.

Within a unit an id that belongs to another file is given up for a numbered one. Components become
one candidate if they declare one id, or if the numbered id made up for one of them is the id that
the other declares.
-/
namespace DocAtlas.Extract

/-- A component as it is declared, with the id of the candidate that it becomes. -/
structure Declared where
  component : Component
  id : String
deriving DecidableEq

/-- The components that are declared one after the other in a unit. -/
def declaredFrom (s : Claiming) : List Component → List Declared
  | [] => []
  | c :: rest => ⟨c, (s.claim c).current c.id⟩ :: declaredFrom (s.claim c) rest

/-- The numbered id made up for `d` is one that `e` declares in the same file. -/
structure Displaces (d e : Declared) : Prop where
  path : d.component.path = e.component.path
  differ : d.component.id ≠ e.component.id
  made : d.id = e.component.id

/-- The id of the candidate that the component declared as `id` in a file becomes. -/
def candidateId (ds : List Declared) (path id : String) : String :=
  ((ds.find? fun d => d.component.path == path && d.component.id == id).map (·.id)).getD id

/-- How a component with the path `path` fares in its unit, where `before` is known before it. -/
structure Declared.Fits (before : List Component) (path : String) (s : Claiming) (d : Declared) :
    Prop where
  path : d.component.path = path
  known : d.id ∈ s.gathered.ids
  new : d.id ∉ before.map (·.id)
  current : s.current d.component.id = d.id
  plain : d.component.id ∉ before.map (·.id) → d.id = d.component.id
  number : d.component.id ∈ before.map (·.id) → ∃ n, 2 ≤ n ∧ d.id = numbered d.component.id n

/-- What holds after `ds` have been claimed in a unit. -/
structure Claimed (before : List Component) (path : String) (ds : List Declared) (s : Claiming) :
    Prop where
  nodup : s.gathered.ids.Nodup
  /-- What was known stays known. -/
  kept : before ⊆ s.gathered.known
  /-- All else is declared in the unit. -/
  owned : ∀ c ∈ s.gathered.known, c ∈ before ∨ c.path = path ∧ ∃ d ∈ ds, d.id = c.id
  fits : ∀ d ∈ ds, d.Fits before path s
  /-- Only declared ids have been given up. -/
  given : ∀ id new, s.renamed.get? id = some new → ∃ d ∈ ds, d.component.id = id
  /-- No two of them for the same one. -/
  apart : ∀ id id' new, s.renamed.get? id = some new → s.renamed.get? id' = some new → id = id'

/-- What a claim of `d` does to the new ids of its unit: the ids of `ds` stand for what they did, at
most that of `d` has been given up, and no two have been for the same one. -/
structure Renames (ds : List Declared) (s : Claiming) (d : Declared) (t : Claiming) : Prop where
  same : ∀ e ∈ ds, t.current e.component.id = s.current e.component.id
  given : ∀ id new, t.renamed.get? id = some new →
    s.renamed.get? id = some new ∨ id = d.component.id
  apart : ∀ id id' new, t.renamed.get? id = some new → t.renamed.get? id' = some new → id = id'

theorem claimed_nil {g : Gathered} (hd : g.ids.Nodup) (path : String) :
    Claimed g.known path [] { gathered := g } := by
  refine ⟨hd, List.Subset.refl _, fun _ hc => .inl hc, by simp, ?_, ?_⟩
  · intro id new h
    cases h
  · intro id id' new h
    cases h

namespace Claimed

variable {before : List Component} {path : String} {ds : List Declared} {s : Claiming}

theorem extend (h : Claimed before path ds s) {t : Claiming} {d : Declared}
    (hd : t.gathered.ids.Nodup)
    (hknown : t.gathered.known = if d.id ∈ s.gathered.ids then s.gathered.known
      else s.gathered.known ++ [{ d.component with id := d.id }])
    (hfits : d.id ∈ t.gathered.ids → d.Fits before path t) (hrenames : Renames ds s d t) :
    Claimed before path (ds ++ [d]) t := by
  have hsub : s.gathered.known ⊆ t.gathered.known := by
    rw [hknown]
    split
    · exact List.Subset.refl _
    · exact List.subset_append_left _ _
  have hnew : ∀ c ∈ t.gathered.known, c ∈ s.gathered.known ∨ c = { d.component with id := d.id } := by
    intro c hc
    rw [hknown] at hc
    split at hc
    · exact .inl hc
    · exact (List.mem_append.mp hc).imp_right List.mem_singleton.mp
  have hfit : d.Fits before path t := by
    apply hfits
    rw [Gathered.ids, hknown]
    split
    · assumption
    · simp
  refine ⟨hd, fun c hc => hsub (h.kept hc), ?_, ?_, ?_, hrenames.apart⟩
  · intro c hc
    rcases hnew c hc with hs | rfl
    · rcases h.owned c hs with hb | ⟨hpath, e, he, hi⟩
      · exact .inl hb
      · exact .inr ⟨hpath, e, List.mem_append_left _ he, hi⟩
    · exact .inr ⟨hfit.path, d, by simp, rfl⟩
  · rw [List.forall_mem_append, List.forall_mem_singleton]
    refine ⟨?_, hfit⟩
    intro e he
    have hf := h.fits e he
    exact ⟨hf.path, List.map_subset _ hsub hf.known, hf.new, (hrenames.same e he).trans hf.current,
      hf.plain, hf.number⟩
  · intro id new hr
    rcases hrenames.given id new hr with hs | rfl
    · obtain ⟨e, he, hi⟩ := h.given id new hs
      exact ⟨e, List.mem_append_left _ he, hi⟩
    · exact ⟨d, by simp, rfl⟩

theorem exists_given (h : Claimed before path ds s) {id new : String}
    (hg : s.renamed.get? id = some new) : ∃ d ∈ ds, d.component.id = id ∧ d.id = new := by
  obtain ⟨d, hd, rfl⟩ := h.given id new hg
  refine ⟨d, hd, rfl, ?_⟩
  rw [← (h.fits d hd).current, Claiming.current, hg, Option.getD_some]

/-- An id that no other file holds was not known before the unit. -/
theorem own_not_before (h : Claimed before path ds s) (hb : ∀ c ∈ before, c.path ≠ path)
    {id : String} (hm : ∀ kept, s.gathered.get? id = some kept → kept.path = path) :
    id ∉ before.map (·.id) := by
  intro hi
  obtain ⟨k, hk, rfl⟩ := List.mem_map.mp hi
  cases hg : s.gathered.get? k.id with
  | none =>
    exact Gathered.get?_eq_none_iff.mp hg (List.mem_map_of_mem (h.kept hk))
  | some kept =>
    obtain ⟨hkept, he⟩ := Gathered.mem_of_get? hg
    have hsame : kept = k := List.inj_on_of_nodup_map h.nodup hkept (h.kept hk) he
    exact hb k hk (hsame ▸ hm kept hg)

/-- An id that another file holds was known before the unit. -/
theorem foreign_before (h : Claimed before path ds s) {id : String} {kept : Component}
    (hg : s.gathered.get? id = some kept) (hf : kept.path ≠ path) : id ∈ before.map (·.id) := by
  obtain ⟨hm, rfl⟩ := Gathered.mem_of_get? hg
  rcases h.owned kept hm with hb | ⟨hp, -⟩
  · exact List.mem_map_of_mem hb
  · exact absurd hp hf

/-- A component that had claimed such an id before would have made the unit give it up. -/
theorem ne_of_not_given (h : Claimed before path ds s) {id : String}
    (hm : id ∈ before.map (·.id)) (hn : s.renamed.get? id = none) {d : Declared} (hd : d ∈ ds) :
    d.component.id ≠ id := by
  intro he
  have hcurrent := (h.fits d hd).current
  rw [he, Claiming.current, hn, Option.getD_none] at hcurrent
  exact (h.fits d hd).new (hcurrent ▸ hm)

theorem not_given_of_free (h : Claimed before path ds s) {id : String}
    (free : id ∉ s.gathered.ids) (other : String) : s.renamed.get? other ≠ some id := by
  intro hg
  obtain ⟨d, hd, -, rfl⟩ := h.exists_given hg
  exact free (h.fits d hd).known

theorem renames_of_eq (h : Claimed before path ds s) {t : Claiming}
    (hr : t.renamed = s.renamed) (d : Declared) : Renames ds s d t where
  same e _ := by rw [Claiming.current, Claiming.current, hr]
  given id new hg := .inl (hr ▸ hg)
  apart := hr ▸ h.apart

/-- An id known before the unit is given up for one that is free. -/
theorem renames_concat (h : Claimed before path ds s) {t : Claiming} {d : Declared}
    (hr : t.renamed = s.renamed ++ [(d.component.id, d.id)])
    (new : s.renamed.get? d.component.id = none) (hm : d.component.id ∈ before.map (·.id))
    (free : d.id ∉ s.gathered.ids) : Renames ds s d t := by
  have hcases : ∀ id made, t.renamed.get? id = some made →
      s.renamed.get? id = some made ∨ id = d.component.id ∧ made = d.id := by
    intro id made hg
    rw [hr] at hg
    exact Keyed.eq_of_get?_concat hg
  refine ⟨?_, fun id made hg => (hcases id made hg).imp_right And.left, ?_⟩
  · intro e he
    rw [Claiming.current, hr, Keyed.get?_concat, if_neg (h.ne_of_not_given hm new he).symm,
      Option.or_none, Claiming.current]
  · intro id id' made hg hg'
    rcases hcases id made hg with hs | ⟨rfl, rfl⟩
    · rcases hcases id' made hg' with hs' | ⟨rfl, rfl⟩
      · exact h.apart id id' made hs hs'
      · exact absurd hs (h.not_given_of_free free id)
    · rcases hcases id' d.id hg' with hs' | ⟨rfl, -⟩
      · exact absurd hs' (h.not_given_of_free free id')
      · rfl

/-- Each claim adds one declared component to the account. -/
theorem claim (h : Claimed before path ds s) (hb : ∀ c ∈ before, c.path ≠ path) {c : Component}
    (hc : c.path = path) :
    Claimed before path (ds ++ [⟨c, (s.claim c).current c.id⟩]) (s.claim c) := by
  obtain ⟨id, renamed, hn, hr, -, hk⟩ := s.claim_spec c
  have hcurrent : (s.claim c).current c.id = id := by
    rw [Claiming.current, hr]
    exact hn.current
  rw [hcurrent]
  cases hn with
  | renamed given =>
    -- the component goes the way of the one for which the id was given up
    obtain ⟨e, he, hi, hid⟩ := h.exists_given given
    have hf := h.fits e he
    refine h.extend (s.claim_nodup h.nodup c) hk ?_ (h.renames_of_eq hr _)
    intro hknown
    refine ⟨hc, hknown, hid ▸ hf.new, hcurrent, ?_, ?_⟩
    · intro hm
      exact hid ▸ hi ▸ hf.plain (hi.symm ▸ hm)
    · intro hm
      exact hid ▸ hi ▸ hf.number (hi.symm ▸ hm)
  | own new mine =>
    have hnew : c.id ∉ before.map (·.id) := h.own_not_before hb (hc ▸ mine)
    refine h.extend (s.claim_nodup h.nodup c) hk ?_ (h.renames_of_eq hr _)
    intro hknown
    exact ⟨hc, hknown, hnew, hcurrent, fun _ => rfl, fun hm => absurd hm hnew⟩
  | numbered new known foreign least number free =>
    have hm : c.id ∈ before.map (·.id) := h.foreign_before known (hc ▸ foreign)
    refine h.extend (s.claim_nodup h.nodup c) hk ?_ (h.renames_concat hr new hm free)
    intro hknown
    exact ⟨hc, hknown, fun hi => free (List.map_subset _ h.kept hi), hcurrent,
      fun hn => absurd hm hn, fun _ => ⟨_, least, number⟩⟩

theorem claims (h : Claimed before path ds s) (hb : ∀ c ∈ before, c.path ≠ path)
    {cs : List Component} (hc : ∀ c ∈ cs, c.path = path) :
    Claimed before path (ds ++ declaredFrom s cs) (cs.foldl Claiming.claim s) := by
  induction cs generalizing ds s with
  | nil =>
    rw [declaredFrom, List.append_nil]
    exact h
  | cons c rest ih =>
    rw [List.forall_mem_cons] at hc
    have hnext := ih (h.claim hb hc.1) hc.2
    rw [List.append_assoc] at hnext
    exact hnext

theorem renamed_of_before (h : Claimed before path ds s) {d : Declared} (hd : d ∈ ds)
    (hm : d.component.id ∈ before.map (·.id)) : s.renamed.get? d.component.id = some d.id := by
  have hcurrent := (h.fits d hd).current
  unfold Claiming.current at hcurrent
  cases hg : s.renamed.get? d.component.id with
  | none =>
    rw [hg, Option.getD_none] at hcurrent
    exact absurd (hcurrent ▸ hm) (h.fits d hd).new
  | some made =>
    rw [hg, Option.getD_some] at hcurrent
    rw [hcurrent]

theorem displaced_eq (h : Claimed before path ds s) {d e : Declared} (hd : d ∈ ds) (he : e ∈ ds)
    (hdisplaces : Displaces d e) : d.id = e.id := by
  have hm : e.component.id ∉ before.map (·.id) := hdisplaces.made ▸ (h.fits d hd).new
  rw [hdisplaces.made, (h.fits e he).plain hm]

theorem displaces_of_before (h : Claimed before path ds s) {d e : Declared} (hd : d ∈ ds)
    (he : e ∈ ds) (heq : d.id = e.id) (hm : d.component.id ∈ before.map (·.id))
    (hn : e.component.id ∉ before.map (·.id)) : Displaces d e := by
  refine ⟨(h.fits d hd).path.trans (h.fits e he).path.symm, ?_, ?_⟩
  · intro hi
    exact hn (hi ▸ hm)
  · rw [heq, (h.fits e he).plain hn]

/-- Components of one unit become one candidate if they declare one id, or if one displaces the
other. -/
theorem same_iff (h : Claimed before path ds s) {d e : Declared} (hd : d ∈ ds) (he : e ∈ ds) :
    d.id = e.id ↔ d.component.id = e.component.id ∨ Displaces d e ∨ Displaces e d := by
  constructor
  · intro heq
    by_cases hm : d.component.id ∈ before.map (·.id)
    · by_cases hn : e.component.id ∈ before.map (·.id)
      · have hr := h.renamed_of_before hd hm
        rw [heq] at hr
        exact .inl (h.apart _ _ _ hr (h.renamed_of_before he hn))
      · exact .inr (.inl (h.displaces_of_before hd he heq hm hn))
    · by_cases hn : e.component.id ∈ before.map (·.id)
      · exact .inr (.inr (h.displaces_of_before he hd heq.symm hn hm))
      · left
        rw [← (h.fits d hd).plain hm, ← (h.fits e he).plain hn]
        exact heq
  · rintro (hi | hdisplaces | hdisplaces)
    · rw [← (h.fits d hd).current, hi, (h.fits e he).current]
    · exact h.displaced_eq hd he hdisplaces
    · exact (h.displaced_eq he hd hdisplaces).symm

theorem displaced_numbered (h : Claimed before path ds s) {d e : Declared} (hd : d ∈ ds)
    (hdisplaces : Displaces d e) : ∃ n, 2 ≤ n ∧ e.component.id = numbered d.component.id n := by
  by_cases hm : d.component.id ∈ before.map (·.id)
  · rw [← hdisplaces.made]
    exact (h.fits d hd).number hm
  · have hp := (h.fits d hd).plain hm
    rw [hdisplaces.made] at hp
    exact absurd hp.symm hdisplaces.differ

/-- An id of the unit stands for the candidate of the component that declares it. -/
theorem current_eq (h : Claimed before path ds s) {all : List Declared} (hsub : ds ⊆ all)
    (hall : ∀ d ∈ all, d.component.path = path → d ∈ ds) (id : String) :
    s.current id = candidateId all path id := by
  unfold candidateId
  cases hf : all.find? fun d => d.component.path == path && d.component.id == id with
  | some d =>
    have hm := List.mem_of_find?_eq_some hf
    have hk := List.find?_some hf
    rw [Bool.and_eq_true, beq_iff_eq, beq_iff_eq] at hk
    rw [← hk.2, (h.fits d (hall d hm hk.1)).current]
    rfl
  | none =>
    unfold Claiming.current
    cases hg : s.renamed.get? id with
    | none => rfl
    | some made =>
      obtain ⟨d, hd, hi⟩ := h.given id made hg
      have hno := List.find?_eq_none.mp hf d (hsub hd)
      simp [(h.fits d hd).path, hi] at hno

theorem follow_eq (h : Claimed before path ds s) {all : List Declared} (hsub : ds ⊆ all)
    (hall : ∀ d ∈ all, d.component.path = path → d ∈ ds) (m : Mention) :
    follow s.renamed m = { m with source := candidateId all path m.source } := by
  rw [← h.current_eq hsub hall]
  rfl

end Claimed

end DocAtlas.Extract
