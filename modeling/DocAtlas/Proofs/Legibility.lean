import DocAtlas.Config.Load
import DocAtlas.Proofs.Magnitudes
import DocAtlas.Proofs.Mapping

/-!
Which settings can be read. What is wrong with settings is told by a complaint, but for integers
that are too large to be real numbers or too long to be shown, and for values that are nested too
deep to be shown.
-/
namespace DocAtlas.Config
open Yaml (Value)

/-! ### Values that cannot be shown -/

/-- What the showing of a value goes on to show, and how much deeper. The items of a set are shown
as those of a list in its place. -/
def parts : Value → List (Nat × Value)
  | .list items => items.map (1, ·)
  | .pair a b => [(1, a), (1, b)]
  | .set items => items.map (2, ·)
  | .mapping entries => entries.flatMap fun (key, v) => [(1, key), (1, v)]
  | _ => []

/-- A value is shown in the course of showing another one, this much deeper. -/
inductive Within : Nat → Value → Value → Prop where
  | here (v : Value) : Within 0 v v
  | part {k n : Nat} {u v w : Value} (hpart : (k, v) ∈ parts w) (h : Within n u v) :
    Within (k + n) u w

/-- How deep the showing of a value goes without its parts. -/
def ownDepth : Value → Nat
  | .moment _ time => Value.momentDepth time
  | _ => 1

/-- An integer nearer to `2 ^ 1024` than to any real number. -/
def IsHuge (v : Value) : Prop := ∃ n, v = .int n ∧ twoTo 1024 ≤ n.natAbs + twoTo 970

/-- An integer with more digits than are shown. -/
def IsLong (v : Value) : Prop := ∃ n, v = .int n ∧ tenTo Value.maxShownDigits ≤ n.natAbs

def HoldsLong (v : Value) : Prop := ∃ n u, Within n u v ∧ IsLong u

/-- A value whose showing goes deeper than there is room for. -/
def IsDeep (room : Nat) (v : Value) : Prop := ∃ n u, Within n u v ∧ room < n + ownDepth u

theorem ownDepth_pos (v : Value) : 0 < ownDepth v := by
  cases v with
  | moment date time =>
    change 0 < Value.momentDepth time
    unfold Value.momentDepth
    split
    · split
      · decide
      · decide
    · decide
  | _ => exact Nat.zero_lt_one

theorem holdsLong_iff (v : Value) : HoldsLong v ↔ IsLong v ∨ ∃ p ∈ parts v, HoldsLong p.2 := by
  constructor
  · rintro ⟨n, u, hwithin, hlong⟩
    cases hwithin with
    | here => exact .inl hlong
    | part hpart h => exact .inr ⟨_, hpart, _, _, h, hlong⟩
  · rintro (hlong | ⟨⟨k, w⟩, hpart, n, u, h, hlong⟩)
    · exact ⟨0, v, .here v, hlong⟩
    · exact ⟨k + n, u, .part hpart h, hlong⟩

theorem isDeep_iff (room : Nat) (v : Value) :
    IsDeep room v ↔ room < ownDepth v ∨ ∃ p ∈ parts v, IsDeep (room - p.1) p.2 := by
  constructor
  · rintro ⟨n, u, hwithin, hdeep⟩
    cases hwithin with
    | here => exact .inl (by omega)
    | @part k n _ w _ hpart h =>
      have hpos := ownDepth_pos u
      exact .inr ⟨(k, w), hpart, n, u, h, by dsimp only; omega⟩
  · rintro (hdeep | ⟨⟨k, w⟩, hpart, n, u, h, hdeep⟩)
    · exact ⟨0, v, .here v, by omega⟩
    · have hpos := ownDepth_pos u
      dsimp only at hdeep
      exact ⟨k + n, u, .part hpart h, by omega⟩

/-! ### Flaws -/

/-- What settings are not readable for, without a complaint being made. -/
inductive Flaw where
  | large
  | long
  | deep

def Flaw.fault : Flaw → Fault
  | .large => .tooLarge
  | .long => .hidden .digits
  | .deep => .hidden .depth

/-- The flaws of a value for which no other than `flaw` can occur. -/
def only (flaw : Flaw) (p : Prop) (f : Flaw) : Prop := f = flaw ∧ p

def noFlaw : Flaw → Prop := fun _ => False

/-- The flaws of a value that is shown. -/
def ShownFlaw (room : Nat) (v : Value) : Flaw → Prop
  | .large => False
  | .long => HoldsLong v
  | .deep => IsDeep room v

/-- The flaws of a rule: its pattern and its effect are read, and what is no rule is shown. -/
def RuleFlaw (room : Nat) : Value → Flaw → Prop
  | .text _ => noFlaw
  | .mapping entries =>
    only .long (IsLong ((Value.mapping entries).entry "pattern") ∨
      IsLong ((Value.mapping entries).entry "effect"))
  | v => ShownFlaw room v

def listed : Value → List Value
  | .list items => items
  | _ => []

/-- A setting for a real number is too large. -/
def HasHuge (v : Value) : Prop :=
  IsHuge ((v.entry "scan").entry "read_timeout") ∨
    IsHuge ((v.entry "validate").entry "repair_threshold") ∨ IsHuge (v.entry "deadline")

/-- A setting for a text is too long. -/
def HasLong (v : Value) : Prop :=
  (∃ name ∈ listed ((v.entry "extract").entry "adapters"), IsLong name) ∨
    IsLong ((v.entry "output").entry "directory") ∨ IsLong ((v.entry "output").entry "project_name")

/-- The flaws of settings. -/
def HasFlaw (room : Nat) (v : Value) (flaw : Flaw) : Prop :=
  (∃ rule ∈ listed ((v.entry "scan").entry "rules"), RuleFlaw room rule flaw) ∨
    only .large (HasHuge v) flaw ∨ only .long (HasLong v) flaw

/-! ### Readings -/

/-- How a reading comes out whose settings have the flaws `bad`: it succeeds only if there are none,
and fails with a complaint or because of one of them. -/
structure Reads {α : Type} (bad : Flaw → Prop) (x : Except Fault α) : Prop where
  legible : ∀ a, x = .ok a → ∀ flaw, ¬bad flaw
  fault : ∀ f, x = .error f → (∃ c, f = .complaint c) ∨ ∃ flaw, bad flaw ∧ f = flaw.fault

variable {α β : Type} {bad bad' : Flaw → Prop}

theorem reads_ok (a : α) : Reads noFlaw (.ok a : Except Fault α) := ⟨fun _ _ _ => id, nofun⟩

theorem reads_flaw (flaw : Flaw) (h : bad flaw) : Reads bad (.error flaw.fault : Except Fault α) := by
  refine ⟨nofun, fun f hf => ?_⟩
  cases hf
  exact .inr ⟨flaw, h, rfl⟩

theorem reads_complain (bad : Flaw → Prop) (c : Complaint) :
    Reads bad (complain c : Except Fault α) := by
  refine ⟨nofun, fun f hf => ?_⟩
  cases hf
  exact .inl ⟨c, rfl⟩

theorem reads_demand (b : Bool) (c : Complaint) : Reads noFlaw (demand b c) := by
  unfold demand
  split
  · exact reads_ok ()
  · exact reads_complain _ c

theorem Reads.congr {x : Except Fault α} (h : Reads bad x) (hb : ∀ flaw, bad flaw ↔ bad' flaw) :
    Reads bad' x := by
  rwa [← funext fun flaw => propext (hb flaw)]

theorem Reads.bind {x : Except Fault α} {f : α → Except Fault β} (hx : Reads bad x)
    (hf : ∀ a, Reads bad' (f a)) : Reads (fun flaw => bad flaw ∨ bad' flaw) (x >>= f) := by
  cases x with
  | error fault =>
    refine ⟨nofun, fun g hg => ?_⟩
    cases hg
    exact (hx.fault fault rfl).imp id fun ⟨flaw, hbad, he⟩ => ⟨flaw, .inl hbad, he⟩
  | ok a =>
    change Reads _ (f a)
    exact (hf a).congr fun flaw => (or_iff_right (hx.legible a rfl flaw)).symm

/-- A reading followed by what cannot fail. -/
theorem Reads.bind_left {x : Except Fault α} {f : α → Except Fault β} (hx : Reads bad x)
    (hf : ∀ a, Reads noFlaw (f a)) : Reads bad (x >>= f) :=
  (hx.bind hf).congr fun _ => or_iff_left id

/-- What cannot fail but with a complaint, followed by a reading. -/
theorem Reads.bind_right {x : Except Fault α} {f : α → Except Fault β} (hx : Reads noFlaw x)
    (hf : ∀ a, Reads bad (f a)) : Reads bad (x >>= f) :=
  (hx.bind hf).congr fun _ => or_iff_right id

theorem reads_mapM {f : α → Except Fault β} {bad : α → Flaw → Prop}
    (hf : ∀ a, Reads (bad a) (f a)) (items : List α) :
    Reads (fun flaw => ∃ a ∈ items, bad a flaw) (items.mapM f) := by
  induction items with
  | nil => exact (reads_ok []).congr (by simp [noFlaw])
  | cons a rest ih =>
    rw [List.mapM_cons]
    refine ((hf a).bind fun b => ih.bind_left fun bs => reads_ok _).congr fun flaw => ?_
    simp

/-! ### Showing -/

theorem mapError_bind {ε δ : Type} (g : ε → δ) (x : Except ε α) (f : α → Except ε β) :
    (x >>= f).mapError g = x.mapError g >>= fun a => (f a).mapError g := by
  cases x with
  | error e => rfl
  | ok a => rfl

theorem mapError_mapM {ε δ : Type} (g : ε → δ) (f : α → Except ε β) (items : List α) :
    (items.mapM f).mapError g = items.mapM fun a => (f a).mapError g := by
  induction items with
  | nil => rfl
  | cons a rest ih =>
    simp only [List.mapM_cons, mapError_bind, ih]
    rfl

theorem reads_wholeText (n : Int) :
    Reads (only .long (IsLong (.int n))) ((Value.wholeText n).mapError .hidden) := by
  have hlong : IsLong (.int n) ↔ tenTo Value.maxShownDigits ≤ n.natAbs := by simp [IsLong]
  unfold Value.wholeText
  split
  · rename_i hshown
    exact (reads_ok _).congr (by simp [noFlaw, only, hlong, hshown])
  · rename_i hhidden
    exact reads_flaw .long ⟨rfl, hlong.mpr (Nat.not_lt.mp hhidden)⟩

/-- The flaws of a value that is shown are those of its parts, and its own ones. -/
theorem shownFlaw_iff (room : Nat) (v : Value) (flaw : Flaw) :
    ShownFlaw room v flaw ↔ only .long (IsLong v) flaw ∨ only .deep (room < ownDepth v) flaw ∨
      ∃ p ∈ parts v, ShownFlaw (room - p.1) p.2 flaw := by
  cases flaw with
  | large => simp [ShownFlaw, only]
  | long => simp [ShownFlaw, only, holdsLong_iff v]
  | deep => simp [ShownFlaw, only, isDeep_iff room v]

/-- A value that has no flaws of its own, with the flaws of its parts. -/
theorem shownFlaw_of_parts {room : Nat} {v : Value} (hlong : ¬IsLong v)
    (hdeep : ownDepth v ≤ room) (flaw : Flaw) :
    (∃ p ∈ parts v, ShownFlaw (room - p.1) p.2 flaw) ↔ ShownFlaw room v flaw := by
  simp [shownFlaw_iff room v, only, hlong, Nat.not_lt.mpr hdeep]

/-- What is shown without parts. -/
theorem reads_whole {room : Nat} {v : Value} (hparts : parts v = []) (hlong : ¬IsLong v)
    (hdeep : ownDepth v ≤ room) (s : String) :
    Reads (ShownFlaw room v) (.ok s : Except Fault String) :=
  (reads_ok s).congr fun flaw => by simp [← shownFlaw_of_parts hlong hdeep, hparts, noFlaw]

/-- A value that is shown by its items, each `k` deeper. -/
theorem reads_items {room k : Nat} {v : Value} {items : List Value}
    (hparts : parts v = items.map (k, ·)) (hlong : ¬IsLong v) (hown : ownDepth v ≤ room + k)
    (hitems : ∀ w, Reads (ShownFlaw room w) ((w.shown room).mapError .hidden))
    (text : List String → String) :
    Reads (ShownFlaw (room + k) v)
      ((do return text (← items.mapM (Value.shown room))).mapError .hidden) := by
  rw [mapError_bind, mapError_mapM]
  refine ((reads_mapM hitems items).bind_left fun _ => reads_ok _).congr fun flaw => ?_
  rw [← shownFlaw_of_parts hlong hown, hparts]
  simp

theorem reads_both {room : Nat} {a b : Value}
    (ha : Reads (ShownFlaw room a) ((a.shown room).mapError .hidden))
    (hb : Reads (ShownFlaw room b) ((b.shown room).mapError .hidden))
    (text : String → String → String) :
    Reads (fun flaw => ShownFlaw room a flaw ∨ ShownFlaw room b flaw)
      ((do return text (← a.shown room) (← b.shown room)).mapError .hidden) := by
  simp only [mapError_bind]
  exact ha.bind fun _ => hb.bind_left fun _ => reads_ok _

/-- A value that has a part `k` deeper than there is room for. -/
theorem isDeep_of_part {room k : Nat} {v w : Value} (hpart : (k, w) ∈ parts v) (hk : room ≤ k) :
    IsDeep room v := by
  refine (isDeep_iff room v).mpr (.inr ⟨(k, w), hpart, (isDeep_iff _ w).mpr (.inl ?_)⟩)
  rw [Nat.sub_eq_zero_of_le hk]
  exact ownDepth_pos w

theorem exists_part_mapping {p : Nat × Value → Prop} {entries : List (Value × Value)} :
    (∃ e ∈ entries, p (1, e.1) ∨ p (1, e.2)) ↔ ∃ part ∈ parts (.mapping entries), p part := by
  constructor
  · rintro ⟨e, he, h | h⟩
    · exact ⟨(1, e.1), List.mem_flatMap.mpr ⟨e, he, by simp⟩, h⟩
    · exact ⟨(1, e.2), List.mem_flatMap.mpr ⟨e, he, by simp⟩, h⟩
  · rintro ⟨part, hpart, h⟩
    obtain ⟨e, he, hpart⟩ := List.mem_flatMap.mp hpart
    have hor : part = (1, e.1) ∨ part = (1, e.2) := by simpa using hpart
    rcases hor with rfl | rfl
    · exact ⟨e, he, .inl h⟩
    · exact ⟨e, he, .inr h⟩

theorem reads_shown (room : Nat) (v : Value) :
    Reads (ShownFlaw room v) ((v.shown room).mapError .hidden) := by
  induction room using Nat.strongRecOn generalizing v with
  | ind room ih =>
    cases room with
    | zero => exact reads_flaw .deep ((isDeep_iff 0 v).mpr (.inl (ownDepth_pos v)))
    | succ room =>
      have hbelow := ih room (Nat.lt_succ_self room)
      cases v with
      | int n =>
        refine (reads_wholeText n).congr fun flaw => ?_
        rw [shownFlaw_iff]
        simp [ownDepth, parts, only]
      | moment date time =>
        unfold Value.shown
        split
        · exact reads_whole rfl (by simp [IsLong]) ‹_› _
        · rename_i hdeep
          exact reads_flaw .deep ((isDeep_iff _ _).mpr (.inl (Nat.not_le.mp hdeep)))
      | list items => exact reads_items rfl (by simp [IsLong]) (by simp [ownDepth]) hbelow _
      | pair a b =>
        refine (reads_both (hbelow a) (hbelow b) _).congr fun flaw => ?_
        refine Iff.trans ?_ (shownFlaw_of_parts (by simp [IsLong]) (by simp [ownDepth]) flaw)
        simp [parts]
      | set items =>
        cases items with
        | nil => exact reads_whole rfl (by simp [IsLong]) (by simp [ownDepth]) _
        | cons w rest =>
          cases room with
          | zero =>
            exact reads_flaw .deep
              (isDeep_of_part (k := 2) (w := w) (by simp [parts]) (by decide))
          | succ room =>
            exact reads_items rfl (by simp [IsLong]) (by simp [ownDepth])
              (ih room (by omega)) _
      | mapping entries =>
        unfold Value.shown
        rw [mapError_bind, mapError_mapM]
        refine Reads.congr ((reads_mapM (fun e : Value × Value =>
          reads_both (hbelow e.1) (hbelow e.2) _) entries).bind_left fun _ => reads_ok _)
          fun flaw => ?_
        exact (exists_part_mapping (p := fun part => ShownFlaw (room + 1 - part.1) part.2 flaw)).trans
          (shownFlaw_of_parts (by simp [IsLong]) (by simp [ownDepth]) flaw)
      | _ => exact reads_whole rfl (by simp [IsLong]) (by simp [ownDepth]) _

/-! ### Single settings -/

theorem reads_text? (v : Value) : Reads (only .long (IsLong v)) (text? v) := by
  cases v with
  | int n =>
    have heq : text? (.int n) = (Value.wholeText n).mapError .hidden >>= fun s => .ok (some s) := by
      simp only [text?, Value.scalarText?]
      cases Value.wholeText n with
      | error e => rfl
      | ok s => rfl
    rw [heq]
    exact (reads_wholeText n).bind_left fun _ => reads_ok _
  | _ => exact (reads_ok _).congr (by simp [IsLong, only, noFlaw])

theorem reads_real? (v : Value) : Reads (only .large (IsHuge v)) (real? v) := by
  cases v with
  | int n =>
    have hhuge : IsHuge (.int n) ↔ Decimal.ofInt? n = none := by
      simp [IsHuge, Decimal.ofInt?_eq_none_iff]
    unfold real?
    dsimp only
    split
    · rename_i x hx
      exact (reads_ok _).congr (by simp [only, noFlaw, hhuge, hx])
    · rename_i hnone
      exact reads_flaw .large ⟨rfl, hhuge.mpr hnone⟩
  | _ => exact (reads_ok _).congr (by simp [IsHuge, only, noFlaw])

theorem reads_textOr (default : String) (v : Value) :
    Reads (only .long (IsLong v)) (textOr default v) := by
  refine (reads_text? v).bind_left fun s => ?_
  cases s with
  | none => exact reads_ok _
  | some s => exact reads_ok _

theorem reads_realOr (default : Float) (v : Value) :
    Reads (only .large (IsHuge v)) (realOr default v) := by
  refine (reads_real? v).bind_left fun x => ?_
  cases x with
  | none => exact reads_ok _
  | some x => exact reads_ok _

theorem reads_texts (v : Value) :
    Reads (only .long (∃ item ∈ listed v, IsLong item)) (texts v) := by
  cases v with
  | list items =>
    refine ((reads_mapM reads_text? items).bind_left fun _ => reads_ok _).congr fun flaw => ?_
    simp only [only, listed]
    exact ⟨fun ⟨a, ha, hflaw, hlong⟩ => ⟨hflaw, a, ha, hlong⟩,
      fun ⟨hflaw, a, ha, hlong⟩ => ⟨a, ha, hflaw, hlong⟩⟩
  | _ => exact (reads_ok _).congr (by simp [listed, only, noFlaw])

/-! ### Parts -/

theorem reads_ruleOfMapping (v : Value) :
    Reads (only .long (IsLong (v.entry "pattern") ∨ IsLong (v.entry "effect")))
      (ruleOfMapping v) := by
  unfold ruleOfMapping
  refine Reads.congr ((reads_textOr "" _).bind fun pattern =>
    (reads_textOr _ _).bind_left fun effect => (reads_demand _ _).bind_left fun _ => ?_)
    fun flaw => and_or_left.symm
  split
  · exact reads_ok _
  · exact reads_complain _ _

theorem reads_ruleOf (room : Nat) (v : Value) : Reads (RuleFlaw room v) (ruleOf room v) := by
  have hother : ∀ v : Value, Reads (ShownFlaw room v) (do
      complain (.unsupportedRule (← (v.shown room).mapError .hidden)) :
        Except Fault (Option Scan.Rule)) := fun v =>
    (reads_shown room v).bind_left fun _ => reads_complain _ _
  cases v with
  | text s => exact reads_ok _
  | mapping entries => exact (reads_ruleOfMapping _).bind_left fun _ => reads_ok _
  | _ => exact hother _

theorem reads_rulesOf (room : Nat) (v : Value) :
    Reads (fun flaw => ∃ rule ∈ listed v, RuleFlaw room rule flaw) (rulesOf room v) := by
  cases v with
  | null => exact (reads_ok _).congr (by simp [listed, noFlaw])
  | list items => exact (reads_mapM (reads_ruleOf room) items).bind_left fun _ => reads_ok _
  | _ => exact reads_complain _ _

theorem reads_readScan (room : Nat) (v : Value) :
    Reads (fun flaw => (∃ rule ∈ listed (v.entry "rules"), RuleFlaw room rule flaw) ∨
      only .large (IsHuge (v.entry "read_timeout")) flaw) (readScan room v) :=
  (reads_rulesOf room _).bind fun _ => (reads_realOr _ _).bind_left fun _ =>
    (reads_demand _ _).bind_left fun _ => reads_ok _

theorem reads_readLimits (v : Value) : Reads noFlaw (readLimits v) :=
  (reads_demand _ _).bind_left fun _ => (reads_demand _ _).bind_left fun _ =>
    (reads_demand _ _).bind_left fun _ => reads_ok _

theorem reads_readThreshold (v : Value) :
    Reads (only .large (IsHuge (v.entry "repair_threshold"))) (readThreshold v) :=
  (reads_real? _).bind_left fun _ => (reads_demand _ _).bind_left fun _ => reads_ok _

theorem reads_ofValue (room : Nat) (root : Disk.Place) (v : Value) :
    Reads (HasFlaw room v) (ofValue room root v) := by
  have h : Reads _ (ofValue room root v) :=
    (reads_demand _ _).bind_right fun _ =>
      (reads_readScan room (v.entry "scan")).bind fun _ =>
      (reads_texts ((v.entry "extract").entry "adapters")).bind fun _ =>
      (reads_readLimits (v.entry "extract")).bind_right fun _ =>
      (reads_demand _ _).bind_right fun _ =>
      (reads_readThreshold (v.entry "validate")).bind fun _ =>
      (reads_textOr _ ((v.entry "output").entry "directory")).bind fun _ =>
      (reads_text? ((v.entry "output").entry "project_name")).bind fun _ =>
      (reads_real? (v.entry "deadline")).bind_left fun _ => reads_ok _
  refine h.congr fun flaw => ?_
  unfold HasFlaw
  cases flaw with
  | large => simp [only, HasHuge, or_assoc]
  | long => simp [only, HasLong]
  | deep => simp [only]

/-! ### Configurations on a disk -/

/-- The settings for a path are there, and their text stands for a value. -/
structure Decodes (d : Disk) (room : Nat) (path : String) (place : Disk.Place) (v : Value) :
    Prop where
  found : d.resolve? (soughtPath d path) = some place
  decodes : ∃ bytes s, d.node? place = some (.file bytes) ∧ Text.Utf8.decode bytes = .ok s ∧
    valueOfText room (String.ofList (Text.unifyBreaks s.toList)) = .ok v

theorem Decodes.load_eq {d : Disk} {room : Nat} {path : String} {place : Disk.Place} {v : Value}
    (h : Decodes d room path place v) : load d room path = ofValue room place.dropLast v := by
  obtain ⟨bytes, s, hnode, hs, hv⟩ := h.decodes
  rw [load]
  dsimp only
  rw [h.found]
  dsimp only
  rw [hnode]
  dsimp only
  rw [hs]
  dsimp only
  rw [ofText, hv]
  rfl

/-- What comes of settings: a configuration if nothing in them is illegible, a complaint, or the
failure to read what is. -/
inductive Answer (room : Nat) (v : Value) : Except Fault Config → Prop where
  | config (c : Config) (h : ∀ flaw, ¬HasFlaw room v flaw) : Answer room v (.ok c)
  | complaint (c : Complaint) : Answer room v (.error (.complaint c))
  | illegible {flaw : Flaw} (h : HasFlaw room v flaw) : Answer room v (.error flaw.fault)

theorem Reads.answer {room : Nat} {v : Value} {r : Except Fault Config}
    (h : Reads (HasFlaw room v) r) : Answer room v r := by
  cases r with
  | ok c => exact .config c (h.legible c rfl)
  | error f =>
    rcases h.fault f rfl with ⟨c, rfl⟩ | ⟨flaw, hflaw, rfl⟩
    · exact .complaint c
    · exact .illegible hflaw

/-- Settings that can be decoded give a configuration or a complaint, unless there is an integer
among them that is too large to be a real number or too long to be shown, or something in place of a
rule that is nested deeper than it can be shown. With one of these there is never a configuration,
and where nothing is complained of before it is read, it is what the reading fails at. -/
theorem load_answers (room : Nat) (v : Value) :
    (∀ root : Disk.Place, Answer room v (ofValue room root v)) ∧
      ∀ d path place, Decodes d room path place v → Answer room v (load d room path) := by
  refine ⟨fun root => (reads_ofValue room root v).answer, fun d path place h => ?_⟩
  rw [h.load_eq]
  exact (reads_ofValue room place.dropLast v).answer

/-- A disk with settings for its root: five seconds are allowed for a run. -/
def timedDisk : Disk := ⟨[(fileName, .file "deadline: 5".toUTF8)]⟩

def timedSettings : Value := .mapping [(.text "deadline", .int 5)]

def isTimed : Except Fault Value → Bool
  | .ok (.mapping [(.text key, .int n)]) => key == "deadline" && n == 5
  | _ => false

theorem eq_of_isTimed {r : Except Fault Value} (h : isTimed r = true) : r = .ok timedSettings := by
  unfold isTimed at h
  split at h
  · rw [Bool.and_eq_true, beq_iff_eq, beq_iff_eq] at h
    rw [h.1, h.2]
    rfl
  · cases h

theorem decode_toUTF8 (s : String) : Text.Utf8.decode s.toUTF8 = .ok s := by
  have hvalid : String.fromUTF8? s.toUTF8 = some s := dif_pos s.isValidUTF8
  rw [Text.Utf8.decode, hvalid]

theorem decodes_timed : Decodes timedDisk 1000 "/" [fileName] timedSettings := by
  constructor
  · decide +kernel
  · refine ⟨_, _, rfl, decode_toUTF8 _, eq_of_isTimed ?_⟩
    decide +kernel

theorem load_answers_timed : Decodes timedDisk 1000 "/" [fileName] timedSettings ∧
    ((∃ c, load timedDisk 1000 "/" = .ok c) ∨
      ∃ c, load timedDisk 1000 "/" = .error (.complaint c)) := by
  have hsmall : ¬twoTo 1024 ≤ 5 + twoTo 970 := by
    have htop : twoTo 1024 = 2 * twoTo 1023 := Decimal.twoTo_succ 1023
    have hunit : twoTo 970 ≤ twoTo 1023 := Decimal.twoTo_mono (by decide)
    have height : twoTo 3 ≤ twoTo 1023 := Decimal.twoTo_mono (by decide)
    change 8 ≤ twoTo 1023 at height
    omega
  have hclear : ∀ flaw, ¬HasFlaw 1000 timedSettings flaw := by
    simpa [HasFlaw, HasHuge, HasLong, IsHuge, IsLong, only, listed, timedSettings, Value.entry,
      Value.get?, Value.sameKey] using hsmall
  refine ⟨decodes_timed, ?_⟩
  have hanswer := (load_answers 1000 timedSettings).2 _ _ _ decodes_timed
  generalize load timedDisk 1000 "/" = r at hanswer ⊢
  cases hanswer with
  | config c => exact .inl ⟨c, rfl⟩
  | complaint c => exact .inr ⟨c, rfl⟩
  | illegible h => exact absurd h (hclear _)

/-- Settings that ask for a deadline beyond all real numbers. -/
def endlessSettings : Value := .mapping [(.text "deadline", .int (tenTo 309))]

theorem entry_null (key : String) : Value.null.entry key = .null := rfl

theorem entry_endless (key : String) :
    endlessSettings.entry key = if "deadline" = key then .int (tenTo 309) else .null := by
  simp only [endlessSettings, Value.entry, Value.get?, List.find?_singleton, Value.sameKey,
    beq_iff_eq]
  split
  · rfl
  · rfl

theorem readThreshold_null : readThreshold .null = .ok Review.defaultThreshold := by
  have hsome : (Review.Policy.of? false Review.defaultThreshold).isSome = true := by
    decide +kernel
  have hnone : real? .null = .ok none := rfl
  simp [readThreshold, entry_null, hnone, bind, Except.bind, hsome, demand, pure, Except.pure]

theorem endless_fails (room : Nat) (root : Disk.Place) :
    ofValue room root endlessSettings = .error .tooLarge := by
  have hreal : real? (.int (tenTo 309)) = .error .tooLarge := by
    have hnone : Decimal.ofInt? (tenTo 309) = none :=
      (Decimal.ofInt?_eq_none_iff _).mpr (by decide +kernel)
    rw [real?, hnone]
  have hmapping : isMapping endlessSettings = true := rfl
  obtain ⟨scan, hscan⟩ : ∃ scan, readScan room .null = .ok scan := ⟨_, rfl⟩
  obtain ⟨limits, hlimits⟩ : ∃ limits, readLimits .null = .ok limits := ⟨_, rfl⟩
  have hadapters : checkAdapters (builtinAdapters.map (·.name)) [] = .ok () := by
    simp [checkAdapters, unknownNames, demand, Order.sortTexts, Order.sort]
  have htexts : texts .null = .ok [] := rfl
  have htext : text? .null = .ok none := rfl
  simp [ofValue, demand, hmapping, entry_endless, entry_null, hscan, hlimits, hadapters, htexts,
    textOr, htext, readThreshold_null, hreal, bind, Except.bind, pure, Except.pure]

/-- No complaint is made of them, and there is no configuration either. -/
theorem endless_not_answered : ∃ v : Value, ∀ room : Nat, ¬∀ root : Disk.Place,
    (∃ c, ofValue room root v = .ok c) ∨ ∃ c, ofValue room root v = .error (.complaint c) := by
  refine ⟨endlessSettings, fun room h => ?_⟩
  rcases h [] with ⟨c, hc⟩ | ⟨c, hc⟩
  · rw [endless_fails] at hc
    cases hc
  · rw [endless_fails] at hc
    cases hc

end DocAtlas.Config
