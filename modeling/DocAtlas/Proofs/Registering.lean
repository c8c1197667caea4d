import DocAtlas.Extract.Adapter
import DocAtlas.Proofs.Entries

/-!
Registering adapters: whatever is handed over, and however often that fails, every ecosystem is read
by the one listed adapter that declares it.
-/
namespace DocAtlas.Roster

/-! ### Steps of a registration -/

section

variable {α β : Type}

theorem run_bind (m : Registration α) (f : α → Registration β) (r : Roster) :
    run (m >>= f) r =
      match run m r with
      | (.ok a, next) => run (f a) next
      | (.error fault, next) => (.error fault, next) := by
  simp only [run, ExceptT.run_bind, StateT.run_bind]
  rcases StateT.run (ExceptT.run m) r with ⟨_ | _, _⟩ <;> rfl

theorem run_throw (fault : Registry.Fault) (r : Roster) :
    run (throw fault : Registration α) r = (.error fault, r) := rfl

theorem run_modify (f : Roster → Roster) (r : Roster) : run (modify f) r = (.ok (), f r) := rfl

theorem run_forM_cons (f : α → Registration Unit) (a : α) (rest : List α) (r : Roster) :
    run ((a :: rest).forM f) r =
      match run (f a) r with
      | (.ok (), next) => run (rest.forM f) next
      | (.error fault, next) => (.error fault, next) := by
  rw [show (a :: rest).forM f = (f a >>= fun _ => rest.forM f) from rfl, run_bind]
  rcases run (f a) r with ⟨_ | _, _⟩ <;> rfl

end

theorem run_checkFree (ecosystem : String) (r : Roster) :
    run (checkFree ecosystem) r =
      match r.forEcosystem (some ecosystem) with
      | some a => (.error (.taken ecosystem a.name), r)
      | none => (.ok (), r) := by
  rw [forEcosystem, Option.bind_some]
  have hget : run (checkFree ecosystem) r =
      run (match r.readers.get? ecosystem with
        | some a => throw (.taken ecosystem a.name)
        | none => pure ()) r := rfl
  rw [hget]
  cases r.readers.get? ecosystem with
  | none => rfl
  | some a => rfl

/-- The complaint about the first of the ecosystems that is read already. -/
def clash? (r : Roster) (ecosystems : List String) : Option Registry.Fault :=
  ecosystems.findSome? fun e => (r.forEcosystem (some e)).map fun b => .taken e b.name

theorem run_checkFree_all (ecosystems : List String) (r : Roster) :
    run (ecosystems.forM checkFree) r =
      match r.clash? ecosystems with
      | some fault => (.error fault, r)
      | none => (.ok (), r) := by
  induction ecosystems with
  | nil => rfl
  | cons e rest ih =>
    rw [run_forM_cons, run_checkFree, clash?, List.findSome?_cons]
    cases r.forEcosystem (some e) with
    | some b => rfl
    | none => exact ih

theorem run_enterReader (a : Adapter) (ecosystems : List String) (r : Roster) :
    run (ecosystems.forM (enterReader a)) r =
      (.ok (), { r with readers := ecosystems.foldl (·.put · a) r.readers }) := by
  induction ecosystems generalizing r with
  | nil => rfl
  | cons e rest ih =>
    rw [run_forM_cons, enterReader, run_modify]
    exact ih _

theorem get?_foldl_put (a : Adapter) (ecosystems : List String) (k : Keyed Adapter) (e : String) :
    (ecosystems.foldl (·.put · a) k).get? e = if e ∈ ecosystems then some a else k.get? e := by
  induction ecosystems generalizing k with
  | nil => simp
  | cons d rest ih =>
    rw [List.foldl_cons, ih, Keyed.get?_put]
    by_cases hrest : e ∈ rest
    · simp [hrest]
    · simp [hrest, eq_comm]

/-! ### What becomes of an applicant -/

/-- The roster with one more adapter, which reads all its ecosystems. -/
def enter (r : Roster) (a : Adapter) : Roster where
  adapters := r.adapters ++ [a]
  readers := a.ecosystems.foldl (·.put · a) r.readers

@[simp] theorem enter_adapters (r : Roster) (a : Adapter) :
    (r.enter a).adapters = r.adapters ++ [a] := rfl

theorem forEcosystem_enter (r : Roster) (a : Adapter) (e : String) :
    (r.enter a).forEcosystem (some e) =
      if e ∈ a.ecosystems then some a else r.forEcosystem (some e) :=
  get?_foldl_put a a.ecosystems r.readers e

/-- Why an applicant is refused. -/
inductive Refuses (r : Roster) : Applicant → Registry.Fault → Prop
  | other (shown : String) : Refuses r (.other shown) (.notAdapter shown)
  | idle {a : Adapter} (none : a.ecosystems = []) : Refuses r (.adapter a) (.noEcosystems a.name)
  | taken {a b : Adapter} {e : String} {before after : List String}
      (split : a.ecosystems = before ++ e :: after)
      (free : ∀ d ∈ before, r.forEcosystem (some d) = none)
      (reads : r.forEcosystem (some e) = some b) : Refuses r (.adapter a) (.taken e b.name)

/-- The applicant is an adapter with ecosystems that nobody reads. -/
structure Admits (r : Roster) (x : Applicant) (a : Adapter) : Prop where
  adapter : x = .adapter a
  busy : a.ecosystems ≠ []
  free : ∀ e ∈ a.ecosystems, r.forEcosystem (some e) = none

theorem clash?_eq_none_iff {r : Roster} {ecosystems : List String} :
    r.clash? ecosystems = none ↔ ∀ e ∈ ecosystems, r.forEcosystem (some e) = none := by
  simp [clash?, List.findSome?_eq_none_iff]

theorem clash?_eq_some_iff {r : Roster} {a : Adapter} {fault : Registry.Fault}
    (busy : a.ecosystems ≠ []) :
    r.clash? a.ecosystems = some fault ↔ r.Refuses (.adapter a) fault := by
  rw [clash?, List.findSome?_eq_some_iff]
  constructor
  · rintro ⟨before, e, after, hsplit, hfault, hbefore⟩
    obtain ⟨b, hreads, rfl⟩ := Option.map_eq_some_iff.mp hfault
    exact .taken hsplit (fun d hd => Option.map_eq_none_iff.mp (hbefore d hd)) hreads
  · intro h
    cases h with
    | idle none => exact absurd none busy
    | taken split free reads =>
      refine ⟨_, _, _, split, ?_, ?_⟩
      · rw [reads, Option.map_some]
      · intro d hd
        rw [free d hd, Option.map_none]

theorem run_register_idle {a : Adapter} (none : a.ecosystems = []) (r : Roster) :
    run (register (.adapter a)) r = (.error (.noEcosystems a.name), r) := by
  rw [register, if_pos (List.isEmpty_iff.mpr none), run_bind, run_throw]

theorem run_register_busy {a : Adapter} (busy : a.ecosystems ≠ []) (r : Roster) :
    run (register (.adapter a)) r =
      match r.clash? a.ecosystems with
      | some fault => (.error fault, r)
      | none => (.ok (), r.enter a) := by
  rw [register, if_neg (by simpa using busy), run_bind, run_checkFree_all]
  cases r.clash? a.ecosystems with
  | some fault => rfl
  | none =>
    dsimp only
    rw [run_bind, run_enterReader]
    rfl

/-- A registration that fails leaves the roster as it is. -/
theorem register_eq_error_iff {r after : Roster} {x : Applicant} {fault : Registry.Fault} :
    run (register x) r = (.error fault, after) ↔ r.Refuses x fault ∧ after = r := by
  cases x with
  | other shown =>
    rw [register, run_throw, Prod.mk.injEq, Except.error.injEq]
    constructor
    · rintro ⟨rfl, rfl⟩
      exact ⟨.other shown, rfl⟩
    · rintro ⟨h, rfl⟩
      cases h
      exact ⟨rfl, rfl⟩
  | adapter a =>
    by_cases hnone : a.ecosystems = []
    · rw [run_register_idle hnone, Prod.mk.injEq, Except.error.injEq]
      constructor
      · rintro ⟨rfl, rfl⟩
        exact ⟨.idle hnone, rfl⟩
      · rintro ⟨h, rfl⟩
        cases h with
        | idle _ => exact ⟨rfl, rfl⟩
        | taken split _ _ => simp [hnone] at split
    · rw [run_register_busy hnone, ← clash?_eq_some_iff hnone]
      cases r.clash? a.ecosystems with
      | some own => simp [eq_comm]
      | none => simp

theorem register_eq_ok_iff {r after : Roster} {x : Applicant} :
    run (register x) r = (.ok (), after) ↔ ∃ a, r.Admits x a ∧ after = r.enter a := by
  constructor
  · intro h
    cases x with
    | other shown => simp [register, run_throw] at h
    | adapter a =>
      by_cases hnone : a.ecosystems = []
      · simp [run_register_idle hnone] at h
      · rw [run_register_busy hnone] at h
        cases hc : r.clash? a.ecosystems with
        | some fault => simp [hc] at h
        | none =>
          simp only [hc, Prod.mk.injEq, true_and] at h
          exact ⟨a, ⟨rfl, hnone, clash?_eq_none_iff.mp hc⟩, h.symm⟩
  · rintro ⟨a, ⟨rfl, hbusy, hfree⟩, rfl⟩
    rw [run_register_busy hbusy, clash?_eq_none_iff.mpr hfree]

/-! ### Calls -/

/-- Calls one after the other, also after failures: what each of them came to, and the roster then.
-/
def calls (r : Roster) : List Applicant → List (Except Registry.Fault Unit) × Roster
  | [] => ([], r)
  | x :: rest =>
    let (result, next) := run (register x) r
    let (results, last) := calls next rest
    (result :: results, last)

/-- The adapters whose registration succeeded. -/
def accepted : List Applicant → List (Except Registry.Fault Unit) → List Adapter
  | .adapter a :: rest, .ok () :: results => a :: accepted rest results
  | _ :: rest, _ :: results => accepted rest results
  | _, _ => []

/-- The one listed adapter that declares an ecosystem reads it. -/
def Exclusive (r : Roster) : Prop :=
  ∀ e, r.adapters.filter (·.ecosystems.contains e) = (r.forEcosystem (some e)).toList

theorem exclusive_empty : Exclusive {} := fun _ => rfl

/-- One more adapter declares an ecosystem that it was admitted for, and no other one. -/
theorem Exclusive.enter {r : Roster} (h : r.Exclusive) {x : Applicant} {a : Adapter}
    (ha : r.Admits x a) : (r.enter a).Exclusive := by
  intro e
  rw [forEcosystem_enter, enter_adapters, List.filter_append, h e]
  by_cases he : e ∈ a.ecosystems
  · simp [he, ha.free e he]
  · simp [he]

/-- The roster holds what it held, and more adapters may read what nobody read. -/
structure Grows (r later : Roster) : Prop where
  adapters : r.adapters <+: later.adapters
  readers : ∀ e a, r.forEcosystem (some e) = some a → later.forEcosystem (some e) = some a

theorem Grows.refl (r : Roster) : Grows r r := ⟨List.prefix_refl _, fun _ _ h => h⟩

theorem Grows.trans {r middle later : Roster} (h : Grows r middle) (hl : Grows middle later) :
    Grows r later where
  adapters := h.adapters.trans hl.adapters
  readers e a ha := hl.readers e a (h.readers e a ha)

theorem Admits.grows {r : Roster} {x : Applicant} {a : Adapter} (ha : r.Admits x a) :
    Grows r (r.enter a) where
  adapters := List.prefix_append _ _
  readers e b hb := by
    rw [forEcosystem_enter]
    by_cases he : e ∈ a.ecosystems
    · rw [ha.free e he] at hb
      cases hb
    · rw [if_neg he, hb]

theorem calls_cons {r next : Roster} {x : Applicant} {result : Except Registry.Fault Unit}
    (h : run (register x) r = (result, next)) (rest : List Applicant) :
    calls r (x :: rest) = (result :: (calls next rest).1, (calls next rest).2) := by
  rw [calls, h]

theorem accepted_error (x : Applicant) (rest : List Applicant) (fault : Registry.Fault)
    (results : List (Except Registry.Fault Unit)) :
    accepted (x :: rest) (.error fault :: results) = accepted rest results := by
  cases x <;> rfl

/-- What calls lead to from a roster on. -/
structure Follows (r : Roster) (applicants : List Applicant) : Prop where
  length : (calls r applicants).1.length = applicants.length
  adapters : (calls r applicants).2.adapters =
    r.adapters ++ accepted applicants (calls r applicants).1
  exclusive : r.Exclusive → (calls r applicants).2.Exclusive
  grows : Grows r (calls r applicants).2

theorem Follows.refused {r : Roster} {x : Applicant} {fault : Registry.Fault}
    (h : run (register x) r = (.error fault, r)) {rest : List Applicant} (hrest : Follows r rest) :
    Follows r (x :: rest) := by
  have hcalls := calls_cons h rest
  constructor
  · rw [hcalls, List.length_cons, List.length_cons, hrest.length]
  · rw [hcalls, accepted_error, hrest.adapters]
  · rw [hcalls]
    exact hrest.exclusive
  · rw [hcalls]
    exact hrest.grows

theorem Follows.admitted {r : Roster} {a : Adapter} (hadmits : r.Admits (.adapter a) a)
    {rest : List Applicant} (hrest : Follows (r.enter a) rest) :
    Follows r (.adapter a :: rest) := by
  have hcalls := calls_cons (register_eq_ok_iff.mpr ⟨a, hadmits, rfl⟩) rest
  constructor
  · rw [hcalls, List.length_cons, List.length_cons, hrest.length]
  · rw [hcalls, accepted, hrest.adapters, enter_adapters, List.append_assoc, List.singleton_append]
  · intro h
    rw [hcalls]
    exact hrest.exclusive (h.enter hadmits)
  · rw [hcalls]
    exact hadmits.grows.trans hrest.grows

theorem follows (r : Roster) (applicants : List Applicant) : Follows r applicants := by
  induction applicants generalizing r with
  | nil => exact ⟨rfl, (List.append_nil _).symm, id, .refl r⟩
  | cons x rest ih =>
    rcases hrun : run (register x) r with ⟨fault | ⟨⟨⟩⟩, next⟩
    · obtain ⟨-, hnext⟩ := register_eq_error_iff.mp hrun
      rw [hnext] at hrun
      exact .refused hrun (ih r)
    · obtain ⟨a, hadmits, -⟩ := register_eq_ok_iff.mp hrun
      have hx := hadmits.adapter
      subst hx
      exact .admitted hadmits (ih (r.enter a))

/-! ### The table of readers and the list of adapters -/

/-- The adapters of an exclusive roster are found without its table. -/
theorem Exclusive.lookup {r : Roster} (h : r.Exclusive) (ecosystem : Option String) :
    r.toRegistry.forEcosystem ecosystem = r.forEcosystem ecosystem := by
  cases ecosystem with
  | none => rfl
  | some e =>
    rw [Registry.forEcosystem, Option.bind_some, Registry.lookup?, ← List.head?_filter, h e]
    cases r.forEcosystem (some e) with
    | none => rfl
    | some a => rfl

theorem get?_readers (adapters : List Adapter) (k : Keyed Adapter) (e : String) :
    (adapters.foldl (fun k a => a.ecosystems.foldl (·.put · a) k) k).get? e =
      (adapters.filter (·.ecosystems.contains e)).getLast?.or (k.get? e) := by
  induction adapters generalizing k with
  | nil => rfl
  | cons a rest ih =>
    rw [List.foldl_cons, ih, get?_foldl_put, List.filter_cons]
    by_cases he : e ∈ a.ecosystems
    · rw [if_pos he, if_pos (List.contains_iff_mem.mpr he), List.getLast?_cons]
      cases (rest.filter (·.ecosystems.contains e)).getLast? <;> rfl
    · simp [he]

/-- Its table can be filled anew from them. -/
theorem Exclusive.refilled {r : Roster} (h : r.Exclusive) (ecosystem : Option String) :
    r.toRegistry.roster.forEcosystem ecosystem = r.forEcosystem ecosystem := by
  cases ecosystem with
  | none => rfl
  | some e =>
    have hget := get?_readers r.adapters [] e
    rw [h e] at hget
    rw [forEcosystem, Option.bind_some, Registry.roster, hget]
    cases r.forEcosystem (some e) with
    | none => rfl
    | some a => rfl

/-- Registering on the bare list of adapters comes to the same. -/
theorem Exclusive.register_toRegistry {r : Roster} (h : r.Exclusive) (a : Adapter) :
    r.toRegistry.register a =
      (run (register (.adapter a)) r).1.map fun () =>
        (run (register (.adapter a)) r).2.toRegistry := by
  rw [Registry.register]
  by_cases hnone : a.ecosystems = []
  · rw [run_register_idle hnone, run_register_idle hnone]
    rfl
  · have hclash : r.toRegistry.roster.clash? a.ecosystems = r.clash? a.ecosystems := by
      simp only [clash?, h.refilled]
    rw [run_register_busy hnone, run_register_busy hnone, hclash]
    cases r.clash? a.ecosystems with
    | some fault => rfl
    | none => rfl

/-! ### All calls -/

/-- What holds between calls of which some may have failed, their results and the roster then. -/
structure IsRecord (applicants : List Applicant) (results : List (Except Registry.Fault Unit))
    (r : Roster) : Prop where
  answered : results.length = applicants.length
  listed : r.adapters = accepted applicants results
  nowhere : r.forEcosystem none = none
  exclusive : r.Exclusive
  lookup : ∀ e, r.toRegistry.forEcosystem e = r.forEcosystem e
  /-- A further call that fails has one of three reasons and changes nothing. -/
  refused : ∀ x fault after,
    run (register x) r = (.error fault, after) ↔ r.Refuses x fault ∧ after = r
  /-- A further call that succeeds lists the adapter last and has it read all that it declares. -/
  admitted : ∀ x after,
    run (register x) r = (.ok (), after) ↔ ∃ a, r.Admits x a ∧ after = r.enter a
  /-- No further calls take an ecosystem from its adapter. -/
  kept : ∀ more, Grows r (calls r more).2

/-- Registering keeps its record, whatever is handed over in whichever order. -/
theorem calls_recorded (applicants : List Applicant) :
    IsRecord applicants (calls {} applicants).1 (calls {} applicants).2 := by
  have hfollows := follows {} applicants
  have hexclusive := hfollows.exclusive exclusive_empty
  constructor
  · exact hfollows.length
  · rw [hfollows.adapters]
    exact List.nil_append _
  · rfl
  · exact hexclusive
  · exact hexclusive.lookup
  · intro x fault after
    exact register_eq_error_iff
  · intro x after
    exact register_eq_ok_iff
  · intro more
    exact (follows _ more).grows

end DocAtlas.Roster
