import DocAtlas.Config.Basic

/-!
Single settings. Each is read from values of several types; a value of any other type counts as no
setting.
-/
namespace DocAtlas.Config
open Yaml (Value)

/-- The text of a scalar. -/
def text? (v : Value) : Except Fault (Option String) := v.scalarText?.mapError .hidden

/-- A real number, also one given as an integer or as text. -/
def real? (v : Value) : Except Fault (Option Float) :=
  match v with
  | .int n =>
    match Decimal.ofInt? n with
    | some x => .ok (some x)
    | none => .error .tooLarge
  | .float x => .ok (some x)
  | .text s => .ok (Decimal.readFloat? s)
  | _ => .ok none

/-- An integer, also one given as text. -/
def whole? : Value → Option Int
  | .int n => some n
  | .text s => Decimal.readInt? s
  | _ => none

/-- A truth value, also one given as a word or a digit in a text. -/
def truth? : Value → Option Bool
  | .bool b => some b
  | .text s =>
    let word := lowerText (trimText s)
    if ["true", "yes", "1"].contains word then some true
    else if ["false", "no", "0"].contains word then some false
    else none
  | _ => none

/-- Texts: a single one, or the scalars of a list. -/
def texts (v : Value) : Except Fault (List String) :=
  match v with
  | .text s => .ok [s]
  | .bytes bs => .ok (bs.map toString)
  | .list items => do return (← items.mapM text?).filterMap id
  | _ => .ok []

/-- A number, or the default if there is none or it is zero. -/
def wholeOr (default : Int) (v : Value) : Int :=
  match whole? v with
  | some n => if n = 0 then default else n
  | none => default

/-- A real number, or the default if there is none or it is zero. -/
def realOr (default : Float) (v : Value) : Except Fault Float := do
  match ← real? v with
  | some x => return if x == 0 then default else x
  | none => return default

/-- A text, or the default if there is none or it is empty. -/
def textOr (default : String) (v : Value) : Except Fault String := do
  match ← text? v with
  | some s => return if s.isEmpty then default else s
  | none => return default

end DocAtlas.Config
