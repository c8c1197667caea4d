import DocAtlas.Decimal.Binary
import DocAtlas.Disk
import DocAtlas.Finding

/-!
The deadline of a run: when it expires, and the readings of the clock that a run takes.
-/
namespace DocAtlas

/-- A number of seconds as it was given. -/
inductive Seconds where
  | whole (n : Int)
  | real (x : Float)

def Seconds.toFloat : Seconds → Float
  | .whole n => (Decimal.ofInt? n).getD (Decimal.infinity (n < 0))
  | .real x => x

def Seconds.toJson : Seconds → Json
  | .whole n => .int n
  | .real x => .float x

/-- Whether more time than this has passed. -/
def Seconds.areOver (s : Seconds) (passed : Float) : Bool :=
  match s with
  | .real x => x < passed
  | .whole n =>
    match Decimal.toRat? passed with
    | some exact => (n : Rat) < exact
    | none => 0 < passed

/-- The moments that a clock shows. It is read whenever the deadline is checked, and while the file
at a place is read: before it, and after each part of it. -/
structure Clock where
  check : Nat → Float
  file : Disk.Place → Nat → Float

/-- A millionth of a second for every part of a file. -/
def briefly (k : Nat) : Float := Decimal.nearest false k 1000000

/-- A clock that stands still but for a moment at the beginning, for runs whose duration does not
matter. -/
def stillClock : Clock := ⟨fun n => if n = 0 then 0 else briefly 1, fun _ => briefly⟩

/-- A clock that counts the checks of the deadline. -/
def countingClock : Clock := ⟨fun n => (Decimal.ofInt? n).getD 0, fun _ => briefly⟩

/-- The moment at which a run expires; `none` if it never does. -/
structure Deadline where
  expiry : Option Float

namespace Deadline

def starting (now : Float) (seconds : Option Float) : Deadline := ⟨seconds.map (now + ·)⟩

def expired (d : Deadline) (now : Float) : Bool :=
  match d.expiry with
  | none => false
  | some moment => moment ≤ now

/-- The seconds left, never less than none. -/
def remaining (d : Deadline) (now : Float) : Option Float :=
  d.expiry.map fun moment => if 0 < moment - now then moment - now else 0

def message (stage : String) : String := "Deadline exceeded during " ++ stage

/-- The finding that ends the findings of a run which did not finish. -/
def marker (stage : String) : Finding where
  kind := .deadlineExceeded
  stage := stage
  subject := stage
  message := message stage

end Deadline

/-- A deadline and the clock it is checked against; `readings` have been taken. -/
structure Watch where
  deadline : Deadline
  clock : Clock
  readings : Nat

namespace Watch

/-- The first reading tells when the run starts; without a limit none is taken. -/
def start (seconds : Option Float) (clock : Clock) : Watch where
  deadline := .starting (clock.check 0) seconds
  clock := clock
  readings := 1

/-- A watch that never expires. -/
def idle : Watch := start none stillClock

/-- Whether the deadline has passed at the reading after `k` further ones. -/
def expiredAfter (w : Watch) (k : Nat) : Bool := w.deadline.expired (w.clock.check (w.readings + k))

/-- How many of `n` readings come before the deadline. -/
def passed (w : Watch) (n : Nat) : Nat :=
  ((List.range n).takeWhile fun k => !w.expiredAfter k).length

/-- Takes `n` readings; fails if the deadline has passed at one of them. -/
def check? (w : Watch) (n : Nat) : Option Watch :=
  if (List.range n).any w.expiredAfter then none else some { w with readings := w.readings + n }

end Watch

end DocAtlas
