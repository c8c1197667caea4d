import DocAtlas.Decimal.Binary
import DocAtlas.Document.Basic
import DocAtlas.Finding
import DocAtlas.Text.Blank
import DocAtlas.Text.Case
import DocAtlas.Text.Similarity

/-!
Review of the references of a documentation tree. A reference to no page of the tree is dropped or,
if repair is allowed, pointed at the page whose title or last path segment is most like its own.
-/
namespace DocAtlas.Review

def stage : String := "validate"

/-- Whether and from which likeness on dangling references are repaired. -/
structure Policy where
  repair : Bool
  threshold : Rat

/-- The likeness from which on a reference is repaired if nothing else is said. -/
def defaultThreshold : Float := Decimal.nearest false 3 5

def thresholdMessage : String := "repair_threshold must be between 0 and 1"

/-- A policy, if its threshold lies between 0 and 1. -/
def Policy.of? (repair : Bool) (threshold : Float) : Option Policy :=
  match Decimal.toRat? threshold with
  | none => none
  | some t => if 0 ≤ t ∧ t ≤ 1 then some ⟨repair, t⟩ else none

/-- A measure of likeness between 0 and 1. -/
abbrev Likeness := List Char → List Char → Rat

/-- The likeness of two texts in double precision. -/
def likeness : Likeness := fun a b =>
  let (num, den) := Text.Similarity.ratio a b
  (Decimal.toRat? (Decimal.nearest false num den)).getD 0

def lastSegment (path : String) : List Char := Text.afterLast '/' path.toList

/-- How well a page fits a reference: by label and title, or by the last segments of the paths. -/
def fit (like : Likeness) (r : Reference) (p : Page) : Rat :=
  let byLabel := like (Text.Case.lower r.label.toList) (Text.Case.lower p.title.toList)
  let byTarget :=
    like (Text.Case.lower (lastSegment r.target)) (Text.Case.lower (lastSegment p.path))
  if byLabel < byTarget then byTarget else byLabel

/-- The first of the items with the greatest score. -/
def best? {α : Type} (score : α → Rat) : List α → Option (α × Rat)
  | [] => none
  | a :: rest =>
    let own := score a
    match best? score rest with
    | none => some (a, own)
    | some (b, s) => if own < s then some (b, s) else some (a, own)

def substitute? (policy : Policy) (like : Likeness) (pages : List Page) (r : Reference) :
    Option (String × Rat) :=
  if policy.repair then
    match best? (fit like r) pages with
    | none => none
    | some (p, s) => if s < policy.threshold then none else some (p.path, s)
  else none

/-- What becomes of a block. -/
inductive Verdict where
  | plain
  | intact
  | repaired (old : Reference) (target : String) (score : Rat)
  | dropped (old : Reference)

def judge (policy : Policy) (like : Likeness) (pages : List Page) (b : Block) : Verdict :=
  match b.reference? with
  | none => .plain
  | some r =>
    if pages.any (·.path == r.target) then .intact
    else
      match substitute? policy like pages r with
      | some (target, score) => .repaired r target score
      | none => .dropped r

/-- Text and heading of a dropped reference stay, if there are any. -/
def remains (b : Block) : Option Block :=
  if b.text.isEmpty && (b.heading.getD "").isEmpty then none else some (.prose b.text b.heading)

def Verdict.apply (b : Block) : Verdict → Option Block
  | .plain => some b
  | .intact => some b
  | .repaired old target _ => some (.link target old.label old.relation b.text b.heading)
  | .dropped _ => remains b

/-- A score between 0 and 1 rounded to three places. -/
def shownScore (score : Rat) : Float :=
  Decimal.nearest false (Decimal.roundHalfEven (score.num.toNat * 1000) score.den) 1000

def Verdict.finding? (path : String) : Verdict → Option Finding
  | .plain => none
  | .intact => none
  | .repaired old target score => some {
      kind := .repairedReference
      stage := stage
      subject := path
      message := "Retargeted '" ++ old.target ++ "' to '" ++ target ++ "'"
      details := [("original", .text old.target), ("target", .text target),
        ("score", .float (shownScore score))] }
  | .dropped old => some {
      kind := .danglingReference
      stage := stage
      subject := path
      message := "Dropped reference to missing page '" ++ old.target ++ "'"
      details := [("target", .text old.target), ("label", .text old.label)] }

def Verdict.isReference : Verdict → Bool
  | .plain => false
  | _ => true

def Verdict.isRepaired : Verdict → Bool
  | .repaired _ _ _ => true
  | _ => false

def Verdict.isDropped : Verdict → Bool
  | .dropped _ => true
  | _ => false

structure Report where
  checked : Nat
  dropped : Nat
  repaired : Nat
  findings : List Finding

def Report.status (r : Report) : String :=
  if r.findings.isEmpty then "valid" else "valid-with-findings"

/-- The verdicts on the blocks of all pages, with the paths of their pages. -/
def verdicts (policy : Policy) (like : Likeness) (pages : List Page) : List (String × Verdict) :=
  pages.flatMap fun p => p.blocks.map fun b => (p.path, judge policy like pages b)

def reportOf (vs : List (String × Verdict)) : Report where
  checked := vs.countP (·.2.isReference)
  dropped := vs.countP (·.2.isDropped)
  repaired := vs.countP (·.2.isRepaired)
  findings := vs.filterMap fun v => v.2.finding? v.1

/-- The reviewed tree and the report; the error is a path that two pages share. -/
def review (policy : Policy) (like : Likeness) (tree : Page) : Except String (Page × Report) :=
  match tree.index with
  | .error path => .error path
  | .ok pages =>
    .ok (tree.mapBlocks fun p => p.blocks.filterMap fun b =>
        (judge policy like pages b).apply b,
      reportOf (verdicts policy like pages))

end DocAtlas.Review
