import DocAtlas.Proofs.Entries
import DocAtlas.Proofs.PageTree
import DocAtlas.Proofs.Schedules

/-!
The walk through a tree of pages with a stack: it ends, it gives the pages in the order of their
addresses, and so does all that is read off the walk.
-/
namespace DocAtlas.Page

/-! ### The order of pages -/

mutual

/-- A page, then all below its first child, and so on to its last one. -/
def preorder : Page → List Page
  | mk path title kind blocks children => mk path title kind blocks children :: preorders children

def preorders : List Page → List Page
  | [] => []
  | p :: rest => preorder p ++ preorders rest

end

mutual

theorem walk_eq_preorder : ∀ p : Page, p.walk = p.preorder
  | mk path title kind blocks children => by
    rw [walk_mk, preorder, flatMap_walk_eq_preorders children]

theorem flatMap_walk_eq_preorders : ∀ pages : List Page, pages.flatMap walk = preorders pages
  | [] => rfl
  | p :: rest => by
    rw [List.flatMap_cons, preorders, walk_eq_preorder p, flatMap_walk_eq_preorders rest]

end

theorem preorder_eq (p : Page) : p.preorder = p :: preorders p.children := by
  cases p
  rfl

theorem mem_preorders {pages : List Page} {q : Page} :
    q ∈ preorders pages ↔ ∃ p ∈ pages, q ∈ p.preorder := by
  rw [← flatMap_walk_eq_preorders]
  simp only [List.mem_flatMap, walk_eq_preorder]

/-! ### Addresses -/

/-- The page at an address, which tells on each page on the way how many children come before the
one to go on to. -/
def at? : Page → List Nat → Option Page
  | p, [] => some p
  | p, n :: rest => (p.children[n]?).bind fun child => child.at? rest

@[simp] theorem at?_nil (p : Page) : p.at? [] = some p := by
  rw [at?]

theorem at?_cons {p child : Page} {n : Nat} (h : p.children[n]? = some child) (rest : List Nat) :
    p.at? (n :: rest) = child.at? rest := by
  rw [at?, h, Option.bind_some]

theorem at?_concat (p : Page) (a : List Nat) (n : Nat) :
    p.at? (a ++ [n]) = (p.at? a).bind fun q => q.children[n]? := by
  induction a generalizing p with
  | nil =>
    rw [List.nil_append, at?_nil, Option.bind_some, at?]
    simp
  | cons m rest ih =>
    rw [List.cons_append, at?, at?, Option.bind_assoc]
    exact congrArg _ (funext fun child => ih child)

mutual

/-- The addresses of all pages of a tree, in the order of the pages. -/
def addresses : Page → List (List Nat)
  | mk _ _ _ _ children => [] :: addressesFrom 0 children

/-- The addresses in the trees of children, the first of which is number `n`. -/
def addressesFrom : Nat → List Page → List (List Nat)
  | _, [] => []
  | n, p :: rest => (addresses p).map (n :: ·) ++ addressesFrom (n + 1) rest

end

mutual

theorem map_at?_addresses : ∀ p : Page, p.addresses.map p.at? = p.preorder.map some
  | mk path title kind blocks children => by
    rw [addresses, preorder, List.map_cons, List.map_cons, at?_nil,
      map_at?_addressesFrom children (mk path title kind blocks children) 0 rfl]

theorem map_at?_addressesFrom : ∀ (pages : List Page) (p : Page) (n : Nat),
    p.children.drop n = pages → (addressesFrom n pages).map p.at? = (preorders pages).map some
  | [], _, _, _ => rfl
  | child :: rest, p, n, h => by
    have hchild : p.children[n]? = some child := by
      rw [← List.head?_drop, h, List.head?_cons]
    have hrest : p.children.drop (n + 1) = rest := by
      rw [← List.tail_drop, h, List.tail_cons]
    have hbelow : (child.addresses.map (n :: ·)).map p.at? = child.addresses.map child.at? := by
      rw [List.map_map]
      exact List.map_congr_left fun a _ => at?_cons hchild a
    rw [addressesFrom, preorders, List.map_append, List.map_append, hbelow,
      map_at?_addresses child, map_at?_addressesFrom rest p (n + 1) hrest]

end

theorem mem_addressesFrom {pages : List Page} {n : Nat} {a : List Nat} :
    a ∈ addressesFrom n pages ↔
      ∃ i child, pages[i]? = some child ∧ ∃ b ∈ child.addresses, a = (n + i) :: b := by
  induction pages generalizing n with
  | nil => simp [addressesFrom]
  | cons p rest ih =>
    rw [addressesFrom, List.mem_append, List.mem_map, ih]
    constructor
    · rintro (⟨b, hb, rfl⟩ | ⟨i, child, hi, b, hb, rfl⟩)
      · exact ⟨0, p, rfl, b, hb, rfl⟩
      · exact ⟨i + 1, child, hi, b, hb, by rw [Nat.add_right_comm, Nat.add_assoc]⟩
    · rintro ⟨i, child, hi, b, hb, rfl⟩
      cases i with
      | zero =>
        cases hi
        exact .inl ⟨b, hb, rfl⟩
      | succ i => exact .inr ⟨i, child, hi, b, hb, by rw [Nat.add_right_comm, Nat.add_assoc]⟩

/-- The addresses are those under which there is a page. -/
theorem mem_addresses {p : Page} {a : List Nat} : a ∈ p.addresses ↔ ∃ q, p.at? a = some q := by
  induction a generalizing p with
  | nil =>
    cases p
    simp [addresses]
  | cons n rest ih =>
    have hbelow : n :: rest ∈ p.addresses ↔ n :: rest ∈ addressesFrom 0 p.children := by
      cases p
      simp [addresses, children]
    rw [hbelow, mem_addressesFrom, at?]
    simp only [Option.bind_eq_some_iff, Nat.zero_add, List.cons.injEq]
    constructor
    · rintro ⟨i, child, hi, b, hb, rfl, rfl⟩
      obtain ⟨q, hq⟩ := ih.mp hb
      exact ⟨q, child, hi, hq⟩
    · rintro ⟨q, child, hi, hq⟩
      exact ⟨n, child, hi, rest, ih.mpr ⟨q, hq⟩, rfl, rfl⟩

mutual

theorem addresses_increasing : ∀ p : Page, p.addresses.Pairwise (· < ·)
  | mk path title kind blocks children => by
    rw [addresses, List.pairwise_cons]
    refine ⟨?_, addressesFrom_increasing children 0⟩
    intro a ha
    obtain ⟨i, child, -, b, -, rfl⟩ := mem_addressesFrom.mp ha
    exact List.nil_lt_cons _ _

theorem addressesFrom_increasing : ∀ (pages : List Page) (n : Nat),
    (addressesFrom n pages).Pairwise (· < ·)
  | [], _ => .nil
  | p :: rest, n => by
    rw [addressesFrom, List.pairwise_append, List.pairwise_map]
    refine ⟨?_, addressesFrom_increasing rest (n + 1), ?_⟩
    · apply (addresses_increasing p).imp
      intro a b hab
      exact List.cons_lt_cons_iff.mpr (.inr ⟨rfl, hab⟩)
    · intro a ha b hb
      obtain ⟨c, -, rfl⟩ := List.mem_map.mp ha
      obtain ⟨i, child, -, d, -, rfl⟩ := mem_addressesFrom.mp hb
      exact List.cons_lt_cons_iff.mpr (.inl (by omega))

end

theorem addresses_nodup (p : Page) : p.addresses.Nodup := by
  apply p.addresses_increasing.imp
  intro a b hab he
  subst b
  exact List.lt_irrefl a hab

theorem mem_preorder_iff {p q : Page} : q ∈ p.preorder ↔ ∃ a, p.at? a = some q := by
  have hmem : q ∈ p.preorder ↔ some q ∈ p.preorder.map some := by simp
  rw [hmem, ← map_at?_addresses, List.mem_map]
  constructor
  · rintro ⟨a, -, ha⟩
    exact ⟨a, ha⟩
  · rintro ⟨a, ha⟩
    exact ⟨a, mem_addresses.mpr ⟨q, ha⟩, ha⟩

/-- Two places in a tree hold pages with the same path. -/
def SharesPath (p : Page) : Prop :=
  ∃ a b q r, a ≠ b ∧ p.at? a = some q ∧ p.at? b = some r ∧ q.path = r.path

theorem paths_nodup_iff {p : Page} : (p.preorder.map path).Nodup ↔ ¬p.SharesPath := by
  have hpaths : p.addresses.map (fun a => (p.at? a).map path) =
      (p.preorder.map path).map some := by
    have h := congrArg (List.map (Option.map path)) p.map_at?_addresses
    simpa [Function.comp_def] using h
  rw [← List.nodup_map_iff (Option.some_injective _), ← hpaths,
    List.nodup_map_iff_inj_on p.addresses_nodup]
  constructor
  · rintro h ⟨a, b, q, r, hne, ha, hb, hpath⟩
    apply hne
    apply h a (mem_addresses.mpr ⟨q, ha⟩) b (mem_addresses.mpr ⟨r, hb⟩)
    rw [ha, hb, Option.map_some, Option.map_some, hpath]
  · intro h a ha b hb hab
    obtain ⟨q, hq⟩ := mem_addresses.mp ha
    obtain ⟨r, hr⟩ := mem_addresses.mp hb
    rw [hq, hr] at hab
    by_contra hne
    exact h ⟨a, b, q, r, hne, hq, hr, Option.some.inj hab⟩

/-! ### The stack -/

/-- A walk under way: the pages on the stack, of which the last one is taken off next, and those
that have been given. -/
structure Tour where
  stack : List Page
  given : List Page := []

/-- The last page of the stack is given, and its children take its place, the first one last. -/
inductive Tour.Next : Tour → Tour → Prop
  | take (below : List Page) (p : Page) (given : List Page) :
      Next ⟨below ++ [p], given⟩ ⟨below ++ p.children.reverse, given ++ [p]⟩

theorem size_eq (p : Page) : p.size = 1 + sizes p.children := by
  cases p
  rfl

theorem sizes_reverse (pages : List Page) : sizes pages.reverse = sizes pages := by
  induction pages with
  | nil => rfl
  | cons p rest ih => simp [sizes_append, sizes, ih, Nat.add_comm]

theorem unfold_cons (p : Page) (rest : List Page) :
    unfold (p :: rest) = p :: unfold (p.children ++ rest) := by
  rw [unfold]

/-- What has been given, with what the stack is still to give, is the walk. -/
theorem tour_settles (p : Page) :
    Settles Tour.Next (fun t => t.stack = []) (fun t => t.given) ⟨[p], []⟩ p.walk := by
  refine .of_invariant (fun t => t.given ++ unfold t.stack.reverse = p.walk)
    (fun t => sizes t.stack) rfl ?_ ?_ ?_ ?_
  · intro t later hinv hstep
    cases hstep with
    | take below q given =>
      simp only [List.reverse_append, List.reverse_singleton, List.singleton_append,
        List.reverse_reverse, unfold_cons] at hinv ⊢
      rw [List.append_assoc]
      exact hinv
  · intro t later _ hstep
    cases hstep with
    | take below q given =>
      simp only [sizes_append, sizes_reverse, sizes, size_eq]
      omega
  · intro t _ hleft
    obtain ⟨stack, given⟩ := t
    obtain ⟨below, q, rfl⟩ := (List.eq_nil_or_concat' stack).resolve_left hleft
    exact ⟨_, .take below q given⟩
  · intro t hinv hdone
    rw [hdone, List.reverse_nil, unfold, List.append_nil] at hinv
    exact hinv

/-! ### What is read off the walk -/

theorem find?_eq_some_iff {p q : Page} {path : String} :
    p.find? path = some q ↔
      ∃ before after, p.preorder = before ++ q :: after ∧ q.path = path ∧
        ∀ other ∈ before, other.path ≠ path := by
  rw [find?, walk_eq_preorder, List.find?_eq_some_iff_append]
  simp only [beq_iff_eq, Bool.not_eq_true', beq_eq_false_iff_ne]
  constructor
  · rintro ⟨hpath, before, after, hsplit, hbefore⟩
    exact ⟨before, after, hsplit, hpath, hbefore⟩
  · rintro ⟨before, after, hsplit, hpath, hbefore⟩
    exact ⟨hpath, before, after, hsplit, hbefore⟩

theorem find?_eq_none_iff {p : Page} {path : String} :
    p.find? path = none ↔ ∀ q ∈ p.preorder, q.path ≠ path := by
  simp [find?, walk_eq_preorder]

/-- With distinct paths a page is found under its own path. -/
theorem find?_of_mem {p q : Page} (distinct : (p.preorder.map path).Nodup) (hq : q ∈ p.preorder) :
    p.find? q.path = some q := by
  rw [find?, walk_eq_preorder]
  exact Keyed.find?_key distinct hq

/-- What the walk through a tree comes to, and what is read off it. -/
structure IsReadInOrder (p : Page) : Prop where
  /-- The stack is empty in the end, and the pages have been given in their order. -/
  settles : Settles Tour.Next (fun t => t.stack = []) (fun t => t.given) ⟨[p], []⟩ p.preorder
  walk : p.walk = p.preorder
  /-- The place of a page in the order is that of its address, and every address has one. -/
  once : ∃ addresses : List (List Nat), addresses.Pairwise (· < ·) ∧
    addresses.map p.at? = p.preorder.map some ∧ ∀ a, a ∈ addresses ↔ ∃ q, p.at? a = some q
  refused : (∃ shared, p.index = .error shared) ↔ p.SharesPath
  /-- The path that is complained of is the first one to come again. -/
  first : ∀ shared, p.index = .error shared ↔
    ∃ before after, p.preorder.map path = before ++ shared :: after ∧ before.Nodup ∧
      shared ∈ before
  indexed : ¬p.SharesPath → p.index = .ok p.preorder ∧ ∀ q ∈ p.preorder, p.find? q.path = some q
  found : ∀ path q, p.find? path = some q ↔
    ∃ before after, p.preorder = before ++ q :: after ∧ q.path = path ∧
      ∀ other ∈ before, other.path ≠ path
  missed : ∀ path, p.find? path = none ↔ ∀ q ∈ p.preorder, q.path ≠ path
  references : p.references = p.preorder.flatMap fun q => q.blocks.filterMap (·.reference?)

/-- The stack gives every page of a tree once, each before its children and these in their order. By
this order pages are found, put into the index and read for references. -/
theorem walk_in_order (p : Page) : p.IsReadInOrder where
  settles := p.walk_eq_preorder ▸ p.tour_settles
  walk := p.walk_eq_preorder
  once := ⟨p.addresses, p.addresses_increasing, p.map_at?_addresses, fun _ => mem_addresses⟩
  refused := by
    have hshares := not_congr (paths_nodup_iff (p := p))
    rw [not_not, ← walk_eq_preorder] at hshares
    rw [← hshares]
    constructor
    · rintro ⟨shared, h⟩ hnodup
      rw [index_eq_ok hnodup] at h
      cases h
    · intro h
      obtain ⟨shared, hi, -⟩ := index_eq_error h
      exact ⟨shared, hi⟩
  first shared := by
    rw [index_eq_error_iff, walk_eq_preorder]
  indexed h := by
    have hnodup := paths_nodup_iff.mpr h
    refine ⟨?_, fun q hq => find?_of_mem hnodup hq⟩
    rw [index_eq_ok_iff, walk_eq_preorder]
    exact ⟨hnodup, rfl⟩
  found _ _ := find?_eq_some_iff
  missed _ := find?_eq_none_iff
  references := by
    rw [Page.references, walk_eq_preorder]

end DocAtlas.Page
