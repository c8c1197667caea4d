import DocAtlas.Disk

/-!
Following a path: where it leads and through how many links, whether it is followed in one go or one
part after the other.
-/
namespace DocAtlas.Disk

/-- There is a directory at the place. -/
def HasDirectory (d : Disk) (p : Place) : Prop := ∃ entries, d.node? p = some (.directory entries)

/-- Pending names below the reversed names `done` lead to the place, through so many links. -/
inductive Follows (d : Disk) : List String → List String → Nat → Place → Prop
  | arrives {done pending reversed : List String}
      (arrived : d.advance done pending = .arrived reversed) :
      Follows d done pending 0 reversed.reverse
  | through {done pending above rest : List String} {target : String} {n : Nat} {p : Place}
      (link : d.advance done pending = .link target above rest)
      (on : Follows d (linkStart target above) (Path.segments target ++ rest) n p) :
      Follows d done pending (n + 1) p

section

variable {d : Disk} {done pending as bs reversed above rest : List String}
  {target : String} {p q : Place} {m n left spare : Nat}

theorem follow_of_arrived (h : d.advance done pending = .arrived reversed) :
    d.follow left done pending = some (left, reversed.reverse) := by
  unfold follow
  rw [h]

theorem follow_of_link (h : d.advance done pending = .link target above rest) :
    d.follow (left + 1) done pending =
      d.follow left (linkStart target above) (Path.segments target ++ rest) := by
  rw [follow.eq_def d (left + 1)]
  rw [h]

theorem Follows.follow_eq (h : Follows d done pending n p) (spare : Nat) :
    d.follow (spare + n) done pending = some (spare, p) := by
  induction h with
  | arrives arrived => exact follow_of_arrived arrived
  | through link on ih => exact (follow_of_link link).trans ih

/-- A path is followed to its end if it leads through no more links than may be followed. -/
theorem follow_eq_some_iff :
    d.follow left done pending = some (spare, p) ↔
      ∃ n, Follows d done pending n p ∧ left = spare + n := by
  constructor
  · intro h
    induction left generalizing done pending with
    | zero =>
      unfold follow at h
      split at h
      · rename_i harrived
        cases h
        exact ⟨0, .arrives harrived, rfl⟩
      · rename_i hzero
        cases hzero
      · cases h
    | succ left ih =>
      unfold follow at h
      split at h
      · rename_i harrived
        cases h
        exact ⟨0, .arrives harrived, rfl⟩
      · rename_i hlink heq
        cases heq
        obtain ⟨n, hn, rfl⟩ := ih h
        exact ⟨n + 1, .through hlink hn, rfl⟩
      · cases h
  · rintro ⟨n, h, rfl⟩
    exact h.follow_eq spare

/-- With fewer links to follow there are as many fewer left, if there are enough. -/
theorem follow_eq_bind (d : Disk) (left fewer : Nat) (done pending : List String) :
    d.follow left done pending = (d.follow (left + fewer) done pending).bind fun reached =>
      if fewer ≤ reached.1 then some (reached.1 - fewer, reached.2) else none := by
  apply Option.ext
  rintro ⟨spare, p⟩
  rw [follow_eq_some_iff, Option.bind_eq_some_iff]
  constructor
  · rintro ⟨n, h, rfl⟩
    refine ⟨(spare + fewer, p), follow_eq_some_iff.mpr ⟨n, h, by omega⟩, ?_⟩
    rw [if_pos (Nat.le_add_left fewer spare), Nat.add_sub_cancel]
  · rintro ⟨⟨more, q⟩, h, hfewer⟩
    obtain ⟨n, hn, hmore⟩ := follow_eq_some_iff.mp h
    obtain ⟨hle, heq⟩ := Option.ite_none_right_eq_some.mp hfewer
    cases heq
    exact ⟨n, hn, by omega⟩

/-- The empty name, as before a slash at the beginning, stays where it is. -/
theorem follow_after_slash (d : Disk) (left : Nat) (done pending : List String) :
    d.follow left done ("" :: pending) = d.follow left done pending := by
  have hsame : d.advance done ("" :: pending) = d.advance done pending := rfl
  rw [follow.eq_def, hsame, ← follow.eq_def]

/-! ### One part after the other -/

/-- What arrives at a directory goes on from there. -/
theorem advance_append_of_arrived (h : d.advance done as = .arrived reversed)
    (directory : d.HasDirectory reversed.reverse) (bs : List String) :
    d.advance done (as ++ bs) = d.advance reversed bs := by
  fun_induction d.advance done as with
  | case1 done =>
    cases h
    rfl
  | case2 done name rest stays ih => rw [List.cons_append, advance, if_pos stays, ih h]
  | case3 done name rest moves up ih =>
    rw [List.cons_append, advance, if_neg moves, if_pos up, ih h]
  | case4 => cases h
  | case5 done name rest moves down entries found ih =>
    rw [List.cons_append, advance, if_neg moves, if_neg down, found]
    exact ih h
  | case6 done name rest moves down last link other =>
    -- what is no directory would have been the end
    cases h
    obtain ⟨entries, hentries⟩ := directory
    exact absurd hentries (other entries)
  | case7 => cases h

theorem advance_append_of_link (h : d.advance done as = .link target above rest)
    (bs : List String) : d.advance done (as ++ bs) = .link target above (rest ++ bs) := by
  fun_induction d.advance done as with
  | case1 => cases h
  | case2 done name rest stays ih => rw [List.cons_append, advance, if_pos stays, ih h]
  | case3 done name rest moves up ih =>
    rw [List.cons_append, advance, if_neg moves, if_pos up, ih h]
  | case4 done name rest moves down target link =>
    cases h
    rw [List.cons_append, advance, if_neg moves, if_neg down, link]
  | case5 done name rest moves down entries found ih =>
    rw [List.cons_append, advance, if_neg moves, if_neg down, found]
    exact ih h
  | case6 => cases h
  | case7 => cases h

/-- Behind a part that leads to a directory a path is followed from there, with the links that are
left. -/
theorem Follows.follow_append (h : Follows d done as m p) (directory : d.HasDirectory p)
    (left : Nat) (bs : List String) :
    d.follow left done (as ++ bs) =
      if m ≤ left then d.follow (left - m) p.reverse bs else none := by
  induction h generalizing left with
  | arrives arrived =>
    rw [if_pos (Nat.zero_le left), Nat.sub_zero, List.reverse_reverse, follow.eq_def,
      advance_append_of_arrived arrived directory bs, ← follow.eq_def]
  | @through _ _ _ _ _ n _ link on ih =>
    have hlink := advance_append_of_link link bs
    cases left with
    | zero => rw [if_neg (Nat.not_succ_le_zero n), follow.eq_def, hlink]
    | succ left =>
      rw [follow_of_link hlink, ← List.append_assoc, ih directory, Nat.succ_sub_succ]
      simp only [Nat.add_le_add_iff_right]

/-- A path in two parts, of which the first leads to a directory, leads through the links of both. -/
theorem Follows.append (h : Follows d done as m p) (directory : d.HasDirectory p)
    (on : Follows d p.reverse bs n q) : Follows d done (as ++ bs) (m + n) q := by
  have hrest : d.follow (m + n - m) p.reverse bs = some (0, q) := by
    rw [Nat.add_sub_cancel_left, ← Nat.zero_add n]
    exact on.follow_eq 0
  have hwhole : d.follow (m + n) done (as ++ bs) = some (0, q) := by
    rw [h.follow_append directory, if_pos (Nat.le_add_right m n), hrest]
  obtain ⟨links, hlinks, hcount⟩ := follow_eq_some_iff.mp hwhole
  rw [hcount, Nat.zero_add]
  exact hlinks

/-! ### Real paths -/

/-- The reversed names make a real path: they are names, and all above them are directories. -/
structure IsReal (d : Disk) (reversed : List String) : Prop where
  names : ∀ name ∈ reversed, (name == "" || name == ".") = false ∧ (name == "..") = false
  above : ∀ s, s <:+ reversed → s ≠ reversed → d.HasDirectory s.reverse

theorem isReal_root (d : Disk) : IsReal d [] :=
  ⟨fun _ h => absurd h List.not_mem_nil, fun _ h hne => absurd (List.suffix_nil.mp h) hne⟩

theorem IsReal.tail (h : IsReal d reversed) : IsReal d reversed.tail := by
  cases reversed with
  | nil => exact h
  | cons name rest =>
    refine ⟨fun s hs => h.names s (List.mem_cons_of_mem _ hs), fun s hs hne => ?_⟩
    apply h.above s (hs.trans (List.suffix_cons name rest))
    rintro rfl
    exact absurd hs.length_le (by simp)

theorem hasDirectory_root (d : Disk) : d.HasDirectory [] := ⟨d.entries, rfl⟩

theorem IsReal.hasDirectory_tail (h : IsReal d reversed) : d.HasDirectory reversed.tail.reverse := by
  cases reversed with
  | nil => exact hasDirectory_root d
  | cons name rest => exact h.above rest (List.suffix_cons name rest) (by simp)

theorem IsReal.cons (h : IsReal d reversed) (directory : d.HasDirectory reversed.reverse)
    {name : String} (stays : (name == "" || name == ".") = false) (up : (name == "..") = false) :
    IsReal d (name :: reversed) := by
  refine ⟨List.forall_mem_cons.mpr ⟨⟨stays, up⟩, h.names⟩, fun s hs hne => ?_⟩
  rcases List.suffix_cons_iff.mp hs with rfl | hs
  · exact absurd rfl hne
  · by_cases heq : s = reversed
    · rw [heq]
      exact directory
    · exact h.above s hs heq

/-- From directory to directory names lead along real paths. -/
theorem advance_real (h : IsReal d done) (directory : d.HasDirectory done.reverse)
    (pending : List String) :
    match d.advance done pending with
    | .arrived reversed => IsReal d reversed
    | .link _ above _ => IsReal d above ∧ d.HasDirectory above.reverse
    | .lost => True := by
  fun_induction d.advance done pending with
  | case1 => exact h
  | case2 done name rest stays ih => exact ih h directory
  | case3 done name rest moves up ih => exact ih h.tail h.hasDirectory_tail
  | case4 => exact ⟨h, directory⟩
  | case5 done name rest moves down entries found ih =>
    exact ih (h.cons directory (by simpa using moves) (by simpa using down)) ⟨entries, found⟩
  | case6 done name rest moves down => exact h.cons directory (by simpa using moves) (by simpa using down)
  | case7 => trivial

theorem Follows.isReal (h : Follows d done pending n p) (real : IsReal d done)
    (directory : d.HasDirectory done.reverse) : IsReal d p.reverse := by
  induction h with
  | @arrives done pending reversed arrived =>
    have hreal := advance_real real directory pending
    rw [arrived] at hreal
    rwa [List.reverse_reverse]
  | @through done pending above rest target n p link on ih =>
    have hreal := advance_real real directory pending
    rw [link] at hreal
    unfold linkStart at ih
    split at ih
    · exact ih (isReal_root d) (hasDirectory_root d)
    · exact ih hreal.1 hreal.2

/-- A real path to a directory leads there without a link. -/
theorem IsReal.follows (h : IsReal d reversed) (directory : d.HasDirectory reversed.reverse) :
    Follows d [] reversed.reverse 0 reversed.reverse := by
  refine .arrives ?_
  induction reversed with
  | nil => rfl
  | cons name rest ih =>
    obtain ⟨hstays, hup⟩ := h.names name List.mem_cons_self
    rw [List.reverse_cons, advance_append_of_arrived (ih h.tail h.hasDirectory_tail)
      h.hasDirectory_tail, advance, if_neg (by simp [hstays]), if_neg (by simp [hup])]
    obtain ⟨entries, hentries⟩ := directory
    rw [hentries]
    rfl

/-! ### Real paths of paths -/

variable {through wider : List String → List String → Option (List String)} {names : List String}

theorem realNames_append (through : List String → List String → Option (List String))
    (done as bs : List String) :
    d.realNames through done (as ++ bs) =
      (d.realNames through done as).bind fun names => d.realNames through names bs := by
  fun_induction d.realNames through done as with
  | case1 done => rfl
  | case2 done name rest stays ih => rw [List.cons_append, realNames, if_pos stays, ih]
  | case3 done name rest moves up ih =>
    rw [List.cons_append, realNames, if_neg moves, if_pos up, ih]
  | case4 done name rest moves down target link ih =>
    rw [List.cons_append, realNames, if_neg moves, if_neg down, link]
    simp only [ih]
    exact (Option.bind_assoc _ _ _).symm
  | case5 done name rest moves down other ih =>
    rw [List.cons_append, realNames, if_neg moves, if_neg down]
    split
    · rename_i target link
      exact absurd link (other target)
    · exact ih

/-- Names are real as far as there is no link, and from there on if those in its place are. -/
theorem realNames_advance (through : List String → List String → Option (List String))
    (done pending : List String) :
    match d.advance done pending with
    | .arrived reversed => d.realNames through done pending = some reversed
    | .link target above rest => d.realNames through done pending =
        (through (linkStart target above) (Path.segments target)).bind fun names =>
          d.realNames through names rest
    | .lost => True := by
  fun_induction d.advance done pending with
  | case1 done => rfl
  | case2 done name rest stays ih => simpa only [realNames, if_pos stays] using ih
  | case3 done name rest moves up ih => simpa only [realNames, if_neg moves, if_pos up] using ih
  | case4 done name rest moves down target link =>
    simp only [realNames, if_neg moves, if_neg down, link]
    rfl
  | case5 done name rest moves down entries directory ih =>
    simpa only [realNames, if_neg moves, if_neg down, directory] using ih
  | case6 done name rest moves down last link directory =>
    rw [List.isEmpty_iff.mp last]
    simp only [realNames, if_neg moves, if_neg down]
  | case7 => trivial

theorem realNames_mono (h : ∀ done pending names, through done pending = some names →
    wider done pending = some names) (hnames : d.realNames through done pending = some names) :
    d.realNames wider done pending = some names := by
  fun_induction d.realNames through done pending with
  | case1 done => exact hnames
  | case2 done name rest stays ih => rw [realNames, if_pos stays, ih hnames]
  | case3 done name rest moves up ih => rw [realNames, if_neg moves, if_pos up, ih hnames]
  | case4 done name rest moves down target link ih =>
    obtain ⟨start, hstart, hrest⟩ := Option.bind_eq_some_iff.mp hnames
    rw [realNames, if_neg moves, if_neg down, link]
    exact Option.bind_eq_some_iff.mpr ⟨start, h _ _ _ hstart, ih start hrest⟩
  | case5 done name rest moves down other ih =>
    rw [realNames, if_neg moves, if_neg down]
    split
    · rename_i target link
      exact absurd link (other target)
    · exact ih hnames

theorem realNamesWithin_succ {depth : Nat}
    (h : d.realNamesWithin depth done pending = some names) :
    d.realNamesWithin (depth + 1) done pending = some names := by
  induction depth generalizing done pending names with
  | zero => exact realNames_mono (fun _ _ _ hnone => by cases hnone) h
  | succ depth ih => exact realNames_mono (fun _ _ _ => ih) h

theorem realNamesWithin_mono {depth deeper : Nat} (hle : depth ≤ deeper)
    (h : d.realNamesWithin depth done pending = some names) :
    d.realNamesWithin deeper done pending = some names := by
  induction hle with
  | refl => exact h
  | step _ ih => exact realNamesWithin_succ ih

theorem realNamesWithin_append (depth : Nat) (done as bs : List String) :
    d.realNamesWithin depth done (as ++ bs) =
      (d.realNamesWithin depth done as).bind fun names => d.realNamesWithin depth names bs := by
  cases depth <;> exact realNames_append _ _ _ _

/-- Where a path leads is its real path. -/
theorem Follows.realNames_eq (h : Follows d done pending n p) :
    d.realNamesWithin n done pending = some p.reverse := by
  induction h with
  | @arrives done pending reversed arrived =>
    have hreal := d.realNames_advance (fun _ _ => none) done pending
    rw [arrived] at hreal
    rw [List.reverse_reverse]
    exact hreal
  | @through done pending above rest target n p link on ih =>
    have hreal := d.realNames_advance (d.realNamesWithin n) done pending
    rw [link] at hreal
    rw [realNamesWithin_append] at ih
    obtain ⟨names, hnames, hrest⟩ := Option.bind_eq_some_iff.mp ih
    refine hreal.trans (Option.bind_eq_some_iff.mpr ⟨names, hnames, ?_⟩)
    exact realNamesWithin_succ hrest

theorem resolve_of_follows {path : String} (h : Follows d [] (Path.segments path) n p)
    (hn : n ≤ maxLinks) : d.resolve path = p := by
  have hnames := realNamesWithin_mono (by omega : n ≤ maxLinks + linksOf d.entries) h.realNames_eq
  rw [resolve, resolve?, hnames, Option.map_some, List.reverse_reverse, Option.getD_some]

/-- The real path of a directory leads to it without a link. -/
theorem follows_resolve {path : String} (h : d.isDirectory path = true) :
    d.HasDirectory (d.resolve path) ∧ Follows d [] (d.resolve path) 0 (d.resolve path) := by
  unfold isDirectory at h
  split at h
  · rename_i entries hentries
    obtain ⟨⟨left, p⟩, hfollow, hp⟩ := Option.bind_eq_some_iff.mp hentries
    obtain ⟨n, hn, hleft⟩ := follow_eq_some_iff.mp hfollow
    rw [resolve_of_follows hn (by omega)]
    have hdirectory : d.HasDirectory p := ⟨entries, hp⟩
    have hreal := hn.isReal (isReal_root d) (hasDirectory_root d)
    refine ⟨hdirectory, ?_⟩
    simpa using hreal.follows (by rwa [List.reverse_reverse])
  · cases h

end

end DocAtlas.Disk
