import DocAtlas.Order
import Mathlib.Data.List.Sort

/-!
The orders of results: sorting by them, and the least item.
-/
namespace DocAtlas.Order
open Std

variable {α : Type}

theorem byText_eq (key : α → String) : byText key = compareOn key := by
  funext a b
  simp [byText, compareOn, compare, String.compare, compareOfLessAndEq]

theorem byNat_eq (key : α → Nat) : byNat key = compareOn key := by
  funext a b
  simp [byNat, compareOn, compare, compareOfLessAndEq]

theorem andThen_eq (first second : α → α → Ordering) :
    andThen first second = compareLex first second := by
  funext a b
  simp only [andThen, compareLex, Ordering.then]
  split <;> simp_all

instance (key : α → String) : TransCmp (byText key) := by
  rw [byText_eq]
  infer_instance

instance (key : α → Nat) : TransCmp (byNat key) := by
  rw [byNat_eq]
  infer_instance

instance (key : α → Nat) : TransCmp (byNatDown key) :=
  inferInstanceAs (TransCmp fun a b => byNat key b a)

instance (first second : α → α → Ordering) [TransCmp first] [TransCmp second] :
    TransCmp (andThen first second) := by
  rw [andThen_eq]
  infer_instance

theorem byText_eq_eq {key : α → String} {a b : α} : byText key a b = .eq ↔ key a = key b := by
  rw [byText_eq]
  exact LawfulEqOrd.compare_eq_iff_eq

theorem byText_eq_lt {key : α → String} {a b : α} : byText key a b = .lt ↔ key a < key b := by
  unfold byText
  split
  · simp_all
  · split <;> simp_all

theorem byText_isLE {key : α → String} {a b : α} : (byText key a b).isLE ↔ key a ≤ key b := by
  have hswap : byText key b a = (byText key a b).swap := OrientedCmp.eq_swap
  rw [← String.not_lt, ← byText_eq_lt, hswap]
  cases byText key a b <;> decide

theorem byNat_eq_eq {key : α → Nat} {a b : α} : byNat key a b = .eq ↔ key a = key b := by
  rw [byNat_eq]
  exact LawfulEqOrd.compare_eq_iff_eq

theorem byNat_eq_lt {key : α → Nat} {a b : α} : byNat key a b = .lt ↔ key a < key b := by
  rw [byNat_eq]
  exact Nat.compare_eq_lt

theorem andThen_eq_eq {first second : α → α → Ordering} {a b : α} :
    andThen first second a b = .eq ↔ first a b = .eq ∧ second a b = .eq := by
  unfold andThen
  split <;> simp_all

theorem andThen_eq_lt {first second : α → α → Ordering} {a b : α} :
    andThen first second a b = .lt ↔
      first a b = .lt ∨ first a b = .eq ∧ second a b = .lt := by
  unfold andThen
  cases first a b <;> simp

theorem andThen_isLE {first second : α → α → Ordering} {a b : α} :
    (andThen first second a b).isLE ↔ first a b = .lt ∨ first a b = .eq ∧ (second a b).isLE := by
  unfold andThen
  cases first a b <;> simp

/-! ### Sorting -/

theorem sort_perm (order : α → α → Ordering) (items : List α) : (sort order items).Perm items :=
  List.mergeSort_perm _ _

theorem mem_sort {order : α → α → Ordering} {items : List α} {a : α} :
    a ∈ sort order items ↔ a ∈ items :=
  (sort_perm order items).mem_iff

theorem sort_of_sorted {order : α → α → Ordering} {items : List α}
    (h : items.Pairwise fun a b => (order a b).isLE) : sort order items = items :=
  List.mergeSort_of_pairwise h

theorem isLE_total (order : α → α → Ordering) [TransCmp order] (a b : α) :
    ((order a b).isLE || (order b a).isLE) = true := by
  have hswap : order b a = (order a b).swap := OrientedCmp.eq_swap
  rw [hswap]
  cases order a b <;> rfl

theorem sort_sorted (order : α → α → Ordering) [TransCmp order] (items : List α) :
    (sort order items).Pairwise fun a b => (order a b).isLE := by
  apply List.pairwise_mergeSort
  · intro a b c hab hbc
    exact TransCmp.isLE_trans hab hbc
  · exact isLE_total order

/-- Items of which no two are equal in the order come out strictly increasing. -/
theorem sort_increasing (order : α → α → Ordering) [TransCmp order] {items : List α}
    (hd : items.Pairwise fun a b => order a b ≠ .eq) :
    (sort order items).Pairwise fun a b => order a b = .lt := by
  have hne : (sort order items).Pairwise fun a b => order a b ≠ .eq := by
    apply (sort_perm order items).symm.pairwise hd
    intro a b h he
    exact h (OrientedCmp.eq_comm.mp he)
  apply ((sort_sorted order items).and hne).imp
  intro a b h
  cases ho : order a b <;> simp_all

theorem nodup_of_increasing {order : α → α → Ordering} [TransCmp order] {items : List α}
    (h : items.Pairwise fun a b => order a b = .lt) : items.Nodup := by
  apply h.imp
  rintro a b hlt rfl
  have hself : order a a = .eq := ReflCmp.compare_self
  rw [hself] at hlt
  cases hlt

/-- A strictly increasing list is determined by its members. -/
theorem eq_of_increasing {order : α → α → Ordering} [TransCmp order] {as bs : List α}
    (ha : as.Pairwise fun a b => order a b = .lt) (hb : bs.Pairwise fun a b => order a b = .lt)
    (h : ∀ a, a ∈ as ↔ a ∈ bs) : as = bs := by
  have : Std.Irrefl fun a b => order a b = .lt := ⟨fun a => by simp [ReflCmp.compare_self]⟩
  have : Std.Asymm fun a b => order a b = .lt :=
    ⟨fun a b hab hba => by simp [OrientedCmp.gt_of_lt hab] at hba⟩
  exact ha.eq_of_mem_iff hb h

/-- Items come out as any strictly increasing arrangement of them. -/
theorem sort_eq_of_perm {order : α → α → Ordering} [TransCmp order] {items arranged : List α}
    (hp : items.Perm arranged) (ha : arranged.Pairwise fun a b => order a b = .lt) :
    sort order items = arranged := by
  have hne : items.Pairwise fun a b => order a b ≠ .eq := by
    apply hp.symm.pairwise (ha.imp fun h => by simp [h])
    intro a b h he
    exact h (OrientedCmp.eq_comm.mp he)
  apply eq_of_increasing (sort_increasing order hne) ha
  intro a
  rw [mem_sort, hp.mem_iff]

/-- Some items of a strictly increasing list, sorted, are what is left of it without the others. -/
theorem sort_sublist {order : α → α → Ordering} [TransCmp order] {part whole : List α}
    (h : part.Subperm whole) (hw : whole.Pairwise fun a b => order a b = .lt) :
    (sort order part).Sublist whole := by
  obtain ⟨arranged, hp, hs⟩ := h
  rw [sort_eq_of_perm hp.symm (hw.sublist hs)]
  exact hs

/-! ### Stability -/

/-- Whether two items are equal in the order. -/
def tied (order : α → α → Ordering) (a b : α) : Bool := order a b == .eq

theorem tied_iff {order : α → α → Ordering} {a b : α} : tied order a b ↔ order a b = .eq :=
  beq_iff_eq

section Stability

variable {order : α → α → Ordering} [TransCmp order]

theorem tied_self (a : α) : tied order a a :=
  tied_iff.mpr ReflCmp.compare_self

theorem eq_of_tied {key a b : α} (ha : tied order key a) (hb : tied order key b) :
    order a b = .eq :=
  TransCmp.eq_trans (OrientedCmp.eq_symm (tied_iff.mp ha)) (tied_iff.mp hb)

/-- Sorting leaves items that are equal in the order as they come. -/
theorem filter_sort (key : α) (items : List α) :
    (sort order items).filter (tied order key) = items.filter (tied order key) := by
  induction items with
  | nil => simp [sort]
  | cons a rest ih =>
    obtain ⟨before, after, hwhole, hrest, hless⟩ := List.mergeSort_cons
      (fun _ _ _ => TransCmp.isLE_trans) (isLE_total order) a rest
    unfold sort at ih ⊢
    rw [hrest, List.filter_append] at ih
    rw [hwhole, List.filter_append, List.filter_cons, List.filter_cons, ← ih]
    split
    · rename_i ha
      have hnone : before.filter (tied order key) = [] := by
        rw [List.filter_eq_nil_iff]
        intro b hb he
        have hlt := hless b hb
        rw [eq_of_tied ha he] at hlt
        cases hlt
      rw [hnone, List.nil_append, List.nil_append]
    · rfl

theorem mem_of_filter_eq {as bs : List α}
    (h : ∀ key, as.filter (tied order key) = bs.filter (tied order key)) {a : α} (ha : a ∈ as) :
    a ∈ bs := by
  have hm : a ∈ as.filter (tied order a) := List.mem_filter.mpr ⟨ha, tied_self a⟩
  rw [h a] at hm
  exact (List.mem_filter.mp hm).1

theorem isLE_of_mem {b : α} {bs : List α} (hb : (b :: bs).Pairwise fun a b => (order a b).isLE)
    {a : α} (ha : a ∈ b :: bs) : (order b a).isLE := by
  rcases List.mem_cons.mp ha with rfl | hm
  · have hself : order a a = .eq := ReflCmp.compare_self
    rw [hself]
    rfl
  · exact List.rel_of_pairwise_cons hb hm

/-- A sorted list is determined by the items of every rank in their order. -/
theorem eq_of_sorted {as bs : List α} (ha : as.Pairwise fun a b => (order a b).isLE)
    (hb : bs.Pairwise fun a b => (order a b).isLE)
    (h : ∀ key, as.filter (tied order key) = bs.filter (tied order key)) : as = bs := by
  induction as generalizing bs with
  | nil =>
    cases bs with
    | nil => rfl
    | cons b bs =>
      have hm := mem_of_filter_eq (fun key => (h key).symm) (List.mem_cons_self : b ∈ b :: bs)
      exact absurd hm List.not_mem_nil
  | cons a as ih =>
    cases bs with
    | nil => exact absurd (mem_of_filter_eq h List.mem_cons_self) List.not_mem_nil
    | cons b bs =>
      have hba := isLE_of_mem hb (mem_of_filter_eq h List.mem_cons_self)
      have hab := isLE_of_mem ha (mem_of_filter_eq (fun key => (h key).symm) List.mem_cons_self)
      have htied : tied order a b := tied_iff.mpr (OrientedCmp.isLE_antisymm hab hba)
      have hhead := h a
      rw [List.filter_cons_of_pos (tied_self a), List.filter_cons_of_pos htied] at hhead
      obtain rfl := (List.cons.inj hhead).1
      have htail : as = bs := by
        apply ih (List.pairwise_cons.mp ha).2 (List.pairwise_cons.mp hb).2
        intro key
        have hkey := h key
        rw [List.filter_cons, List.filter_cons] at hkey
        split at hkey
        · exact (List.cons.inj hkey).2
        · exact hkey
      rw [htail]

/-- Items that differ in the order may come in any order, even where others follow them. -/
theorem sort_append_of_perm {as bs : List α} (hp : as.Perm bs)
    (hd : as.Pairwise fun a b => order a b ≠ .eq) (rest : List α) :
    sort order (as ++ rest) = sort order (bs ++ rest) := by
  apply eq_of_sorted (sort_sorted order _) (sort_sorted order _)
  intro key
  rw [filter_sort, filter_sort, List.filter_append, List.filter_append]
  congr 1
  have hperm := hp.filter (tied order key)
  have hdiffer := hd.filter (tied order key)
  have htied : ∀ a ∈ as.filter (tied order key), tied order key a :=
    fun a ha => (List.mem_filter.mp ha).2
  revert hperm hdiffer htied
  generalize as.filter (tied order key) = ranked
  intro hperm hdiffer htied
  match ranked with
  | [] => exact (List.nil_perm.mp hperm).symm
  | [a] => exact List.singleton_perm.mp hperm
  | a :: b :: _ =>
    have hne := List.rel_of_pairwise_cons hdiffer List.mem_cons_self
    exact absurd (eq_of_tied (htied a (by simp)) (htied b (by simp))) hne

end Stability
/-! ### The least item -/

theorem least?_eq_none {order : α → α → Ordering} {items : List α} :
    least? order items = none ↔ items = [] := by
  cases items with
  | nil => simp [least?]
  | cons a rest =>
    simp only [least?]
    split
    · simp
    · split <;> simp

theorem mem_of_least? {order : α → α → Ordering} {items : List α} {a : α}
    (h : least? order items = some a) : a ∈ items := by
  induction items generalizing a with
  | nil => simp [least?] at h
  | cons b rest ih =>
    simp only [least?] at h
    split at h
    · cases h
      exact List.mem_cons_self
    · rename_i c hc
      split at h
      · cases h
        exact List.mem_cons_of_mem _ (ih hc)
      · cases h
        exact List.mem_cons_self

theorem isLE_of_least? {order : α → α → Ordering} [TransCmp order] {items : List α} {a : α}
    (h : least? order items = some a) : ∀ b ∈ items, (order a b).isLE := by
  induction items generalizing a with
  | nil => simp [least?] at h
  | cons b rest ih =>
    simp only [least?] at h
    intro c hc
    split at h
    · rename_i hn
      cases h
      rw [least?_eq_none.mp hn, List.mem_singleton] at hc
      have hself : order b b = .eq := ReflCmp.compare_self
      rw [hc, hself]
      rfl
    · rename_i d hd
      split at h
      · rename_i hlt
        cases h
        rcases List.mem_cons.mp hc with rfl | hm
        · simp [beq_iff_eq.mp hlt]
        · exact ih hd c hm
      · rename_i hge
        cases h
        rcases List.mem_cons.mp hc with rfl | hm
        · simp [ReflCmp.compare_self]
        · refine TransCmp.isLE_trans ?_ (ih hd c hm)
          have hswap : order b d = (order d b).swap := OrientedCmp.eq_swap
          rw [hswap]
          cases ho : order d b <;> simp_all

/-- Where no two items are equal in the order, the least one comes before all others. -/
theorem least?_eq_some_iff_lt {order : α → α → Ordering} [TransCmp order]
    (distinct : ∀ a b, order a b = .eq → a = b) {items : List α} {a : α} :
    least? order items = some a ↔ a ∈ items ∧ ∀ b ∈ items, b ≠ a → order a b = .lt := by
  have before : ∀ {a}, least? order items = some a → ∀ b ∈ items, b ≠ a → order a b = .lt := by
    intro a h b hb hne
    have hle := isLE_of_least? h b hb
    cases ho : order a b with
    | lt => rfl
    | eq => exact absurd (distinct a b ho).symm hne
    | gt => simp [ho] at hle
  constructor
  · exact fun h => ⟨mem_of_least? h, before h⟩
  · rintro ⟨hm, hl⟩
    cases h : least? order items with
    | none => simp [least?_eq_none.mp h] at hm
    | some b =>
      by_contra hne
      have hba : b ≠ a := fun he => hne (congrArg some he)
      have hlt := OrientedCmp.gt_of_lt (hl b (mem_of_least? h) hba)
      rw [before h a hm hba.symm] at hlt
      cases hlt

/-- Where equal items are the same, the least item does not depend on the list's order. -/
theorem least?_eq_some_iff {items : List String} {a : String} :
    least? (byText id) items = some a ↔ a ∈ items ∧ ∀ b ∈ items, (byText id a b).isLE := by
  constructor
  · intro h
    exact ⟨mem_of_least? h, isLE_of_least? h⟩
  · rintro ⟨hm, hl⟩
    cases h : least? (byText id) items with
    | none => simp [least?_eq_none.mp h] at hm
    | some b =>
      have hba := isLE_of_least? h a hm
      have hab := hl b (mem_of_least? h)
      have he := byText_eq_eq.mp (OrientedCmp.isLE_antisymm hba hab)
      exact congrArg some he

end DocAtlas.Order
