import DocAtlas.Decimal.Shortest
import DocAtlas.Power
import DocAtlas.Text.Quoted

/-!
The values that settings have, and how messages show them.
-/
namespace DocAtlas.Yaml

structure Date where
  year : Nat
  month : Nat
  day : Nat
deriving DecidableEq

/-- A time of day; `zone` is the difference to universal time in minutes. -/
structure Clock where
  hour : Nat
  minute : Nat
  second : Nat
  micro : Nat
  zone : Option Int
deriving DecidableEq

/-- What can contain itself. -/
inductive Shape where
  | list
  | pair
  | mapping

/-- How a value is shown within itself. -/
def Shape.mark : Shape → String
  | .list => "[...]"
  | .pair => "(...)"
  | .mapping => "\x7b...\x7d"

inductive Value where
  | null
  | bool (b : Bool)
  | int (n : Int)
  | float (x : Float)
  | text (s : String)
  | bytes (bs : List Nat)
  | moment (date : Date) (time : Option Clock)
  | list (items : List Value)
  | pair (first second : Value)
  | set (items : List Value)
  | mapping (entries : List (Value × Value))
  /-- A value that contains itself, seen from within. -/
  | enclosing (shape : Shape)
deriving Inhabited

namespace Value

/-- The value of a number; the truth values count as one and zero. -/
def number? : Value → Option (Int ⊕ Float)
  | .bool b => some (.inl (if b then 1 else 0))
  | .int n => some (.inl n)
  | .float x => some (.inr x)
  | _ => none

def sameNumber : Int ⊕ Float → Int ⊕ Float → Bool
  | .inl a, .inl b => a == b
  | .inl a, .inr x => Decimal.toRat? x == some (a : Rat)
  | .inr x, .inl a => Decimal.toRat? x == some (a : Rat)
  | .inr x, .inr y => x == y

/-- Whether two values are the same key. -/
def sameKey (a b : Value) : Bool :=
  match a, b with
  | .null, .null => true
  | .text a, .text b => a == b
  | .bytes a, .bytes b => a == b
  | .moment d t, .moment e u => d == e && t == u
  | a, b =>
    match a.number?, b.number? with
    | some x, some y => sameNumber x y
    | _, _ => false

/-- A key keeps its first place and takes the last value. -/
def put {α : Type} (entries : List (Value × α)) (key : Value) (value : α) : List (Value × α) :=
  if entries.any fun e => sameKey e.1 key then
    entries.map fun e => if sameKey e.1 key then (e.1, value) else e
  else entries ++ [(key, value)]

/-- The value under a text; none if this is no mapping. -/
def get? (v : Value) (key : String) : Option Value :=
  match v with
  | .mapping entries => (entries.find? fun e => sameKey e.1 (.text key)).map Prod.snd
  | _ => none

/-! ### How messages show values -/

def escapeByte (quote : Char) (n : Nat) : List Char :=
  let c := Char.ofNat n
  if c == '\\' || c == quote then ['\\', c]
  else if c == '\n' then ['\\', 'n']
  else if c == '\r' then ['\\', 'r']
  else if c == '\t' then ['\\', 't']
  else if n < 0x20 || 0x7F ≤ n then ['\\', 'x'] ++ Text.Quoted.hexDigits 2 n
  else [c]

def bytesText (bs : List Nat) : String :=
  let quote := Text.Quoted.quoteFor (bs.map Char.ofNat)
  "b" ++ String.ofList (quote :: bs.flatMap (escapeByte quote) ++ [quote])

def commas (items : List String) : String := String.intercalate ", " items

def call (name : String) (arguments : List String) : String :=
  "datetime." ++ name ++ "(" ++ commas arguments ++ ")"

/-- A difference to universal time: days below zero, and the seconds that are more than those. -/
def zoneText (minutes : Int) : String :=
  if minutes = 0 then "datetime.timezone.utc"
  else
    let seconds := minutes % 1440 * 60
    let days := minutes / 1440
    call "timezone" [call "timedelta" ((if days = 0 then [] else ["days=" ++ toString days]) ++
      (if seconds = 0 then [] else ["seconds=" ++ toString seconds]))]

/-- Seconds and their fractions are left out if they are zero. -/
def momentText (d : Date) (time : Option Clock) : String :=
  let date := [d.year, d.month, d.day]
  match time with
  | none => call "date" (date.map toString)
  | some t =>
    let seconds :=
      if t.micro ≠ 0 then [t.second, t.micro] else if t.second ≠ 0 then [t.second] else []
    call "datetime" ((date ++ [t.hour, t.minute] ++ seconds).map toString ++
      t.zone.toList.map fun z => "tzinfo=" ++ zoneText z)

/-- Why a value cannot be shown. -/
inductive Obstacle where
  /-- It is nested deeper than there is room for. -/
  | depth
  /-- An integer in it has too many digits. -/
  | digits
deriving DecidableEq

def Obstacle.message : Obstacle → String
  | .depth => "maximum recursion depth exceeded while getting the repr of an object"
  | .digits => "Exceeds the limit (4300 digits) for integer string conversion; " ++
      "use sys.set_int_max_str_digits() to increase the limit"

/-- Integers are shown if they have no more than this many digits. -/
def maxShownDigits : Nat := 4300

def wholeText (n : Int) : Except Obstacle String :=
  if n.natAbs < tenTo maxShownDigits then .ok (toString n) else .error .digits

/-- How deep the showing of a moment goes: its zone is shown, and within this the difference. -/
def momentDepth : Option Clock → Nat
  | some ⟨_, _, _, _, some zone⟩ => if zone = 0 then 2 else 3
  | _ => 1

/-- The text that shows a value and its type, where showing may go `room` values deep. What a set
holds is shown as a list. -/
def shown : Nat → Value → Except Obstacle String
  | 0, _ => .error .depth
  | _ + 1, .null => .ok "None"
  | _ + 1, .bool b => .ok (if b then "True" else "False")
  | _ + 1, .int n => wholeText n
  | _ + 1, .float x => .ok (Decimal.text x)
  | _ + 1, .text s => .ok (quoted s)
  | _ + 1, .bytes bs => .ok (bytesText bs)
  | room + 1, .moment d t =>
    if momentDepth t ≤ room + 1 then .ok (momentText d t) else .error .depth
  | room + 1, .list items => do return "[" ++ commas (← items.mapM (shown room)) ++ "]"
  | room + 1, .pair a b => do return "(" ++ (← shown room a) ++ ", " ++ (← shown room b) ++ ")"
  | _ + 1, .set [] => .ok "set()"
  | 1, .set _ => .error .depth
  | room + 2, .set items => do return "\x7b" ++ commas (← items.mapM (shown room)) ++ "\x7d"
  | room + 1, .mapping entries => do
    let texts ← entries.mapM fun (k, v) => do return (← shown room k) ++ ": " ++ (← shown room v)
    return "\x7b" ++ commas texts ++ "\x7d"
  | _ + 1, .enclosing shape => .ok shape.mark

/-- The text of a scalar as a text setting. -/
def scalarText? : Value → Except Obstacle (Option String)
  | .text s => .ok (some s)
  | .int n => some <$> wholeText n
  | .float x => .ok (some (Decimal.text x))
  | .bool b => .ok (some (if b then "True" else "False"))
  | _ => .ok none

/-- What stands under a key: nothing if the key is missing or this is no mapping. -/
def entry (v : Value) (key : String) : Value := (v.get? key).getD .null

end Value

end DocAtlas.Yaml
