import DocAtlas.Proofs.Preparation

/-!
The numbers of settings. A configuration holds every number that its settings give, but for the
zeros of three of them, in whose place it holds the usual number.
-/
namespace DocAtlas

namespace Config
open Yaml (Value)

/-! ### Settings that are numbers -/

inductive Number where
  | whole (n : Int)
  | real (x : Float)

/-- Real zeros of both signs count. -/
def Number.isZero : Number → Bool
  | .whole n => n == 0
  | .real x => x == 0

inductive NumberSetting where
  | maxBytes
  | readTimeout
  | scanWorkers
  | most
  | fewest
  | workers
  | threshold

namespace NumberSetting

/-- The part of the settings that it stands in. -/
def part : NumberSetting → String
  | maxBytes | readTimeout | scanWorkers => "scan"
  | most | fewest | workers => "extract"
  | threshold => "validate"

def key : NumberSetting → String
  | maxBytes => "max_file_bytes"
  | readTimeout => "read_timeout"
  | scanWorkers | workers => "workers"
  | most => "max_abstractions"
  | fewest => "min_abstractions"
  | threshold => "repair_threshold"

def value (s : NumberSetting) (v : Value) : Value := (v.entry s.part).entry s.key

/-- The number that is given for the setting, if there is one. -/
def given? (s : NumberSetting) (v : Value) : Option Number :=
  match s with
  | readTimeout | threshold => (real? (s.value v)).toOption.bind (·.map .real)
  | _ => (whole? (s.value v)).map .whole

/-- The number that a configuration holds for the setting. -/
def held? (s : NumberSetting) (c : Config) : Option Number :=
  match s with
  | maxBytes => some (.whole c.scan.maxBytes)
  | readTimeout => some (.real c.scan.readTimeout.toFloat)
  | scanWorkers => c.scan.workers.map .whole
  | most => some (.whole c.limits.most)
  | fewest => some (.whole c.limits.fewest)
  | workers => c.limits.workers.map .whole
  | threshold => some (.real c.threshold)

/-- The number that is held where none is given. -/
def usual? (s : NumberSetting) : Option Number := s.held? { root := [] }

/-- Settings that are read together with their usual number: zero counts as no number for them. -/
def dropsZero : NumberSetting → Bool
  | maxBytes | readTimeout | most => true
  | _ => false

/-- What is made of the number that is given, if there is one. -/
def taken? (s : NumberSetting) : Option Number → Option Number
  | some x => if s.dropsZero && x.isZero then s.usual? else some x
  | none => s.usual?

theorem usual_not_dropped {s : NumberSetting} {x : Number} (h : s.usual? = some x) :
    (s.dropsZero && x.isZero) = false := by
  cases s with
  | maxBytes | most =>
    cases h
    rfl
  | readTimeout =>
    cases h
    decide +kernel
  | _ => rfl

variable {s : NumberSetting}

/-- A number that is given is held, but for a zero that is dropped. -/
theorem taken?_eq_some_iff {x : Number} :
    s.taken? (some x) = some x ↔ (s.dropsZero && x.isZero) = false := by
  cases hdrops : s.dropsZero && x.isZero with
  | false => simp [taken?, hdrops]
  | true =>
    rw [taken?, hdrops, if_pos rfl]
    refine iff_of_false (fun h => ?_) Bool.true_eq_false_eq_False.elim
    rw [usual_not_dropped h] at hdrops
    cases hdrops

theorem taken?_wholeOr {usual : Int} (drops : s.dropsZero = true)
    (husual : s.usual? = some (.whole usual)) (v : Value) :
    s.taken? ((whole? v).map .whole) = some (.whole (wholeOr usual v)) := by
  rw [wholeOr]
  cases whole? v with
  | none => exact husual
  | some n => by_cases hn : n = 0 <;> simp [taken?, drops, Number.isZero, husual, hn]

theorem taken?_elim {usual : Float} (drops : s.dropsZero = true)
    (husual : s.usual? = some (.real usual)) (given : Option Float) :
    s.taken? (given.map .real) =
      some (.real (given.elim usual fun y => if y == 0 then usual else y)) := by
  cases given with
  | none => exact husual
  | some y => cases hy : y == 0 <;> simp [taken?, drops, Number.isZero, husual, hy]

theorem taken?_getD {α : Type} {f : α → Number} {usual : α} (keeps : s.dropsZero = false)
    (husual : s.usual? = some (f usual)) (given : Option α) :
    s.taken? (given.map f) = some (f (given.getD usual)) := by
  cases given with
  | none => exact husual
  | some a => simp [taken?, keeps]

theorem taken?_map {α : Type} {f : α → Number} (keeps : s.dropsZero = false)
    (husual : s.usual? = none) (given : Option α) : s.taken? (given.map f) = given.map f := by
  cases given with
  | none => exact husual
  | some a => simp [taken?, keeps]

end NumberSetting

/-! ### Reading numbers -/

theorem realOr_eq_ok {usual x : Float} {v : Value} (h : realOr usual v = .ok x) :
    ∃ given, real? v = .ok given ∧ x = given.elim usual fun y => if y == 0 then usual else y := by
  obtain ⟨given, hgiven, h⟩ := bind_ok.mp h
  refine ⟨given, hgiven, ?_⟩
  cases given with
  | none =>
    cases h
    rfl
  | some y =>
    cases h
    rfl

/-- Every number of a configuration is what is made of the number that the settings give. -/
theorem held?_eq_taken? {room : Nat} {place : Disk.Place} {v : Value} {c : Config}
    (h : IsReading room place v c) (s : NumberSetting) : s.held? c = s.taken? (s.given? v) := by
  obtain ⟨hbytes, htimeout, hscanWorkers, -⟩ := readScan_eq_ok h.scan
  obtain ⟨hmost, hfewest, hworkers, -⟩ := readLimits_eq_ok_iff.mp h.limits
  cases s with
  | maxBytes =>
    rw [NumberSetting.held?, hbytes]
    exact (NumberSetting.taken?_wholeOr rfl rfl _).symm
  | readTimeout =>
    obtain ⟨given, hgiven, htaken⟩ := realOr_eq_ok htimeout
    have hnumber : NumberSetting.readTimeout.given? v = given.map .real :=
      congrArg (fun r => r.toOption.bind (·.map Number.real)) hgiven
    have husual : NumberSetting.readTimeout.usual? =
        some (.real ({} : Scan.Settings).readTimeout.toFloat) := rfl
    rw [NumberSetting.held?, htaken, hnumber, NumberSetting.taken?_elim rfl husual]
  | scanWorkers =>
    rw [NumberSetting.held?, hscanWorkers]
    exact (NumberSetting.taken?_map rfl rfl _).symm
  | most =>
    rw [NumberSetting.held?, hmost]
    exact (NumberSetting.taken?_wholeOr rfl rfl _).symm
  | fewest =>
    rw [NumberSetting.held?, hfewest]
    exact (NumberSetting.taken?_getD rfl rfl _).symm
  | workers =>
    rw [NumberSetting.held?, hworkers]
    exact (NumberSetting.taken?_map rfl rfl _).symm
  | threshold =>
    obtain ⟨⟨given, hgiven, hthreshold⟩, -⟩ := readThreshold_eq_ok h.threshold
    have hnumber : NumberSetting.threshold.given? v = given.map .real :=
      congrArg (fun r => r.toOption.bind (·.map Number.real)) hgiven
    have husual : NumberSetting.threshold.usual? = some (.real Review.defaultThreshold) := by
      simp only [NumberSetting.usual?, NumberSetting.held?]
    rw [NumberSetting.held?, hthreshold, hnumber, NumberSetting.taken?_getD rfl husual]

/-! ### The bound on the number of components -/

/-- The settings differ at most in the bound on the number of components. -/
structure SameButMost (v w : Value) : Prop where
  mapping : isMapping v = isMapping w
  parts : ∀ key, key ≠ "extract" → v.entry key = w.entry key
  limits : ∀ key, key ≠ "max_abstractions" →
    (v.entry "extract").entry key = (w.entry "extract").entry key

theorem wholeOr_of_given {v : Value} {most : Int}
    (given : NumberSetting.most.given? v = some (.whole most)) (usual : Int) :
    wholeOr usual ((v.entry "extract").entry "max_abstractions") =
      if most = 0 then usual else most := by
  obtain ⟨n, hn, he⟩ := Option.map_eq_some_iff.mp given
  cases he
  have hwhole : whole? ((v.entry "extract").entry "max_abstractions") = some most := hn
  rw [wholeOr, hwhole]

/-- Another bound is read in place of the first one, if it is one. -/
theorem SameButMost.isReading {v w : Value} (same : SameButMost v w) {room : Nat}
    {place : Disk.Place} {c : Config} (h : IsReading room place w c) {most : Int}
    (given : wholeOr ({} : Extract.Limits).most ((v.entry "extract").entry "max_abstractions") =
      most) (low : 1 ≤ most) :
    IsReading room place v { c with limits := { c.limits with most := most } } := by
  obtain ⟨-, hfewest, hworkers, -, hbounds⟩ := readLimits_eq_ok_iff.mp h.limits
  constructor
  · rw [same.mapping, h.mapping]
  · exact h.root
  · rw [same.parts "scan" (by simp), h.scan]
  · rw [same.limits "adapters" (by simp), h.adapters]
  · refine readLimits_eq_ok_iff.mpr ⟨given.symm, ?_, ?_, low, hbounds⟩
    · rw [same.limits "min_abstractions" (by simp), hfewest]
    · rw [same.limits "workers" (by simp), hworkers]
  · exact h.known
  · rw [same.parts "validate" (by simp)]
    exact h.repair
  · rw [same.parts "validate" (by simp), h.threshold]
  · rw [same.parts "output" (by simp), h.output]
  · rw [same.parts "output" (by simp), h.projectName]
  · rw [same.parts "deadline" (by simp), h.deadline]

theorem readLimits_refused {v : Value} {most : Int}
    (given : wholeOr ({} : Extract.Limits).most (v.entry "max_abstractions") = most)
    (low : most < 1) : readLimits v = complain .noComponents := by
  have hrefused : demand (1 ≤ most) .noComponents = complain .noComponents :=
    if_neg (by simpa using low)
  unfold readLimits
  dsimp only
  rw [given, hrefused]
  rfl

/-- What comes before the bound being in order, it is the bound that is complained of. -/
theorem SameButMost.refused {v w : Value} (same : SameButMost v w) {room : Nat}
    {place : Disk.Place} {c : Config} (h : IsReading room place w c) {most : Int}
    (given : wholeOr ({} : Extract.Limits).most ((v.entry "extract").entry "max_abstractions") =
      most) (low : most < 1) : ofValue room place v = complain .noComponents := by
  have hmapping : demand (isMapping v) .notMapping = .ok () := by
    rw [same.mapping, h.mapping]
    rfl
  have hscan : readScan room (v.entry "scan") = .ok c.scan := by
    rw [same.parts "scan" (by simp), h.scan]
  have hadapters : texts ((v.entry "extract").entry "adapters") = .ok c.adapters := by
    rw [same.limits "adapters" (by simp), h.adapters]
  rw [ofValue, hmapping, hscan, hadapters, readLimits_refused given low]
  rfl

end Config

namespace Run
open Config

/-- What a run is prepared with by settings and by what is asked for. -/
def prepare (room : Nat) (place : Disk.Place) (v : Yaml.Value) (request : Request) :
    Except Config.Fault Setup := do
  Setup.of (← ofValue room place v) request

theorem prepare_eq {room : Nat} {place : Disk.Place} {v : Yaml.Value} {c : Config}
    (h : ofValue room place v = .ok c) (request : Request) :
    prepare room place v request = Setup.of c request := by
  rw [prepare, h]
  rfl

theorem setup_refused {c : Config} (h : c.Usable) {request : Request} {most : Int}
    (asked : request.most = some most) (low : most < 1) :
    Setup.of c request = complain (.unusable Extract.Error.noComponents.message) := by
  have hlimits : limitsOf c request.most =
      complain (.unusable Extract.Error.noComponents.message) := by
    rw [asked, limitsOf, Option.getD_some]
    dsimp only
    rw [Extract.Limits.check, if_pos low]
    rfl
  rw [Setup.of, registryOf, Registry.select_eq_ok h.adapters, hlimits]
  rfl

/-- The bound `most` of the settings `v` and of a run that is asked for with the settings `w`: it is
held or refused by both, but for zero, for which the settings hold the usual bound. -/
structure IsAskedAlike (room : Nat) (place : Disk.Place) (v w : Yaml.Value) (request : Request)
    (most : Int) : Prop where
  positive : 1 ≤ most → ∃ setup, setup.limits.most = most ∧
    prepare room place v { request with most := none } = .ok setup ∧
    prepare room place w { request with most := some most } = .ok setup
  negative : most < 0 →
    prepare room place v { request with most := none } = complain .noComponents ∧
    prepare room place w { request with most := some most } =
      complain (.unusable Extract.Error.noComponents.message)
  zero : most = 0 →
    (∃ setup, setup.limits.most = ({} : Extract.Limits).most ∧
      prepare room place v { request with most := none } = .ok setup) ∧
    prepare room place w { request with most := some most } =
      complain (.unusable Extract.Error.noComponents.message)

theorem isAskedAlike {room : Nat} {place : Disk.Place} {v w : Yaml.Value}
    (same : SameButMost v w) {c : Config} (read : ofValue room place w = .ok c) (request : Request) {most : Int}
    (given : NumberSetting.most.given? v = some (.whole most)) :
    IsAskedAlike room place v w request most := by
  have husable := usable_of_value read
  have hreading := ofValue_eq_ok_iff.mp read
  have htaken := wholeOr_of_given given ({} : Extract.Limits).most
  constructor
  · intro hlow
    rw [if_neg (by omega)] at htaken
    have hv := ofValue_eq_ok_iff.mpr (same.isReading hreading htaken hlow)
    obtain ⟨t, -, hsetup⟩ := @setup_eq c husable { request with most := some most } hlow
    exact ⟨_, rfl, (prepare_eq hv _).trans hsetup, (prepare_eq read _).trans hsetup⟩
  · intro hlow
    rw [if_neg (by omega)] at htaken
    constructor
    · rw [prepare, same.refused hreading htaken (by omega)]
      rfl
    · rw [prepare_eq read, setup_refused husable rfl (by omega)]
  · rintro rfl
    rw [if_pos rfl] at htaken
    have husual : 1 ≤ ({} : Extract.Limits).most := by decide
    have hv := ofValue_eq_ok_iff.mpr (same.isReading hreading htaken husual)
    obtain ⟨t, -, hsetup⟩ := @setup_eq _ (usable_of_value hv) { request with most := none } husual
    refine ⟨⟨_, rfl, (prepare_eq hv _).trans hsetup⟩, ?_⟩
    rw [prepare_eq read, setup_refused husable rfl (by decide)]

/-- What becomes of the numbers that settings give. -/
structure TakesNumbers (room : Nat) (place : Disk.Place) (v : Yaml.Value) : Prop where
  /-- A configuration holds a number just as it is given, but for a zero that is dropped. -/
  held : ∀ c, ofValue room place v = .ok c → ∀ (s : NumberSetting) (x : Number),
    s.given? v = some x → (s.held? c = some x ↔ (s.dropsZero && x.isZero) = false)
  /-- It holds the usual number where none is given and where a zero is dropped. -/
  usual : ∀ c, ofValue room place v = .ok c → ∀ s : NumberSetting,
    (∀ x : Number, s.given? v = some x → (s.dropsZero && x.isZero) = true) → s.held? c = s.usual?
  /-- A bound on the number of components does the same if a run is asked for with it. -/
  asked : ∀ most, NumberSetting.most.given? v = some (.whole most) → ∀ w c, SameButMost v w →
    ofValue room place w = .ok c → ∀ request, IsAskedAlike room place v w request most

/-- Numbers are held as they are given or refused, and a bound comes to the same in the settings and
in what a run is asked for, but for zero as a bound on files, on the time to read one or on the
number of components. -/
theorem numbers_taken (room : Nat) (place : Disk.Place) (v : Yaml.Value) :
    TakesNumbers room place v where
  held c read s x given := by
    rw [held?_eq_taken? (ofValue_eq_ok_iff.mp read), given, NumberSetting.taken?_eq_some_iff]
  usual c read s dropped := by
    rw [held?_eq_taken? (ofValue_eq_ok_iff.mp read)]
    cases hgiven : s.given? v with
    | none => rfl
    | some x => rw [NumberSetting.taken?, if_pos (dropped x hgiven)]
  asked most given w c same read request := isAskedAlike same read request given

/-- Settings with zeros, one of which is dropped, and with other numbers. -/
def sparseSettings : Yaml.Value :=
  .mapping [(.text "scan", .mapping [(.text "max_file_bytes", .int 0),
      (.text "read_timeout", .float 2.5), (.text "workers", .int 3)]),
    (.text "extract", .mapping [(.text "max_abstractions", .int 7),
      (.text "min_abstractions", .int 0)])]

theorem numbers_taken_sparse : ∃ c, ofValue 1000 [] sparseSettings = .ok c ∧
    NumberSetting.maxBytes.held? c = some (.whole 1048576) ∧
    NumberSetting.readTimeout.held? c = some (.real 2.5) ∧
    NumberSetting.most.held? c = some (.whole 7) ∧
    NumberSetting.fewest.held? c = some (.whole 0) := by
  obtain ⟨c, hread⟩ := exists_ok_of_isOk (r := ofValue 1000 [] sparseSettings) (by decide +kernel)
  have htaken := numbers_taken 1000 [] sparseSettings
  refine ⟨c, hread, ?_, ?_, ?_, ?_⟩
  · apply htaken.usual c hread .maxBytes
    intro x hx
    cases hx
    rfl
  · exact (htaken.held c hread .readTimeout (.real 2.5) rfl).mpr (by decide +kernel)
  · exact (htaken.held c hread .most (.whole 7) rfl).mpr rfl
  · exact (htaken.held c hread .fewest (.whole 0) rfl).mpr rfl

/-- Settings with nothing but a bound on the number of components. -/
def boundSettings (most : Int) : Yaml.Value :=
  .mapping [(.text "extract", .mapping [(.text "max_abstractions", .int most)])]

theorem sameButMost_boundSettings (most : Int) :
    SameButMost (boundSettings most) (.mapping []) where
  mapping := rfl
  parts key hkey := by
    simp [boundSettings, Yaml.Value.entry, Yaml.Value.get?, Yaml.Value.sameKey, hkey.symm]
  limits key hkey := by
    simp [boundSettings, Yaml.Value.entry, Yaml.Value.get?, Yaml.Value.sameKey, hkey.symm]

/-- No components at all: the settings come to the usual bound, and the run is refused. -/
theorem zero_bound_replaced :
    (∃ c, ofValue 1000 [] (boundSettings 0) = .ok c ∧
      NumberSetting.most.given? (boundSettings 0) = some (.whole 0) ∧
      NumberSetting.most.held? c = some (.whole 15)) ∧
    (∃ setup, prepare 1000 [] (boundSettings 0) { path := "/", shown := "/" } = .ok setup) ∧
    prepare 1000 [] (.mapping []) { path := "/", shown := "/", most := some 0 } =
      complain (.unusable "max_abstractions must be at least 1") := by
  obtain ⟨c, hread⟩ := exists_ok_of_isOk (r := ofValue 1000 [] (boundSettings 0)) (by decide +kernel)
  obtain ⟨w, hempty⟩ := exists_ok_of_isOk (r := ofValue 1000 [] (.mapping [])) (by decide +kernel)
  obtain ⟨⟨setup, -, hsetup⟩, hrefused⟩ :=
    (isAskedAlike (sameButMost_boundSettings 0) hempty { path := "/", shown := "/" } rfl).zero rfl
  refine ⟨⟨c, hread, rfl, ?_⟩, ⟨setup, hsetup⟩, hrefused⟩
  rw [held?_eq_taken? (ofValue_eq_ok_iff.mp hread)]
  rfl

end Run

end DocAtlas
