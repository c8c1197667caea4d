import DocAtlas.Decimal.Reading
import DocAtlas.Yaml.Cursor
import DocAtlas.Yaml.Tag
import DocAtlas.Yaml.Value

/-!
The values of scalars by their types.
-/
namespace DocAtlas.Yaml.Reading
open Text

abbrev Outcome := Except Fault Value

def unfit {α : Type} (f : ScalarFault) : Except Fault α := .error (.scalar f)

/-! ### Truth values -/

def truths : List (String × Bool) :=
  [("yes", true), ("no", false), ("true", true), ("false", false), ("on", true), ("off", false)]

def bool (s : String) : Outcome :=
  match truths.lookup (lowerText s) with
  | some b => .ok (.bool b)
  | none => unfit (.notTruth (lowerText s))

/-! ### Numbers -/

/-- A number without the underscores in it. -/
def digitsOf (s : String) : List Char := s.toList.filter (· != '_')

/-- Whether a number is negative, and the number without its sign. -/
def signed (s : List Char) : Except Fault (Bool × List Char) :=
  match s with
  | [] => unfit .empty
  | '-' :: rest => .ok (true, rest)
  | '+' :: rest => .ok (false, rest)
  | s => .ok (false, s)

def notWhole {α : Type} (base : Nat) (s : List Char) : Except Fault α :=
  unfit (.notWhole base (String.ofList s))

def decimal (s : List Char) : Except Fault Int :=
  match Decimal.readInt? (String.ofList s) with
  | some n => .ok n
  | none =>
    if s.all isAsciiDigit && Decimal.maxDigits < s.length then unfit (.tooManyDigits s.length)
    else notWhole 10 s

def inBase (base : Nat) (s : List Char) : Except Fault Int :=
  let values := s.filterMap hexDigit?
  if s.isEmpty || values.length ≠ s.length || values.any (base ≤ ·) then notWhole base s
  else .ok (values.foldl (fun n d => base * n + d) 0 : Nat)

/-- The value of parts that count sixty of the next one each. -/
def sixties (parts : List Int) : Int := parts.foldl (fun n part => 60 * n + part) 0

def unsigned (s : List Char) : Except Fault Int := do
  match s with
  | ['0'] => return 0
  | '0' :: 'b' :: rest => inBase 2 rest
  | '0' :: 'x' :: rest => inBase 16 rest
  | '0' :: _ => inBase 8 s
  | [] => unfit .empty
  | _ => if s.contains ':' then return sixties (← (splitAt ':' s).mapM decimal) else decimal s

def int (s : String) : Outcome := do
  let (negative, body) ← signed (digitsOf s)
  let n ← unsigned body
  return .int (if negative then -n else n)

def real (s : List Char) : Except Fault Float :=
  match Decimal.readFloat? (String.ofList s) with
  | some x => .ok x
  | none => unfit (.notReal (String.ofList s))

/-- The value of real parts that count sixty of the next one each, summed from the last one on. -/
def realSixties (parts : List Float) : Float :=
  (parts.reverse.foldl (fun (sum, base) part => (sum + part * base, 60 * base))
    ((0, 1) : Float × Float)).1

def unsignedReal (s : List Char) : Except Fault Float := do
  if s == ".inf".toList then return Decimal.infinity false
  else if s.contains ':' then return realSixties (← (splitAt ':' s).mapM real)
  else real s

def float (s : String) : Outcome := do
  let (negative, body) ← signed (Case.lower (digitsOf s))
  if body == ".nan".toList then return .float Decimal.undefinedNumber
  else
    let x ← unsignedReal body
    return .float (if negative then -1 * x else x)

/-! ### Dates and times -/

def number (s : List Char) : Nat := Decimal.digitsValue s

def isLeap (year : Nat) : Bool := year % 4 = 0 && (year % 100 ≠ 0 || year % 400 = 0)

def monthLength (year month : Nat) : Nat :=
  if month = 2 then (if isLeap year then 29 else 28)
  else if [4, 6, 9, 11].contains month then 30
  else 31

def date (m : MomentForm) : Except Fault Date := do
  let (year, month, day) := (number m.year, number m.month, number m.day)
  if year = 0 then unfit .year
  else if month = 0 || 12 < month then unfit .month
  else if day = 0 || monthLength year month < day then unfit .day
  else return ⟨year, month, day⟩

/-- A zone differs from universal time by less than a day. -/
def zone (z : Option (Char × List Char × List Char)) : Except Fault Int :=
  match z with
  | none => .ok 0
  | some (sign, hours, minutes) =>
    let size : Int := 60 * number hours + number minutes
    let shift := if sign == '-' then -size else size
    if 1440 ≤ size then unfit (.zone shift) else .ok shift

/-- Millionths of a second from the digits of a fraction, of which six count. -/
def micro (fraction : List Char) : Nat :=
  number ((fraction.take 6) ++ List.replicate (6 - fraction.length) '0')

def clock (m : MomentForm) (hour minute second : List Char) (shift : Option Int) :
    Except Fault Clock :=
  let (h, i, s) := (number hour, number minute, number second)
  if 23 < h then unfit .hour
  else if 59 < i then unfit .minute
  else if 59 < s then unfit .second
  else .ok ⟨h, i, s, micro m.fraction, shift⟩

def moment (s : String) : Outcome := do
  match MomentForm.read? s.toList with
  | none => unfit .notMoment
  | some m =>
    match m.time with
    | none => return .moment (← date m) none
    | some (hour, minute, second) =>
      let shift ← m.zone.mapM zone
      return .moment (← date m) (some (← clock m hour minute second shift))

/-! ### Bytes -/

def alphabet : List Char :=
  "ABCDEFGHIJKLMNOPQRSTUVWXYZabcdefghijklmnopqrstuvwxyz0123456789+/".toList

/-- Bytes in six-bit signs, of which `pending` holds those of a group of four that are not complete.
Other signs are skipped; a group may be filled up with equality signs. -/
def sixBits : List Nat → Nat → List Char → Option (List Nat)
  | pending, _, [] => if pending.isEmpty then some [] else none
  | pending, pads, '=' :: rest =>
    if 2 ≤ pending.length && 4 ≤ pending.length + pads + 1 then some []
    else sixBits pending (if 2 ≤ pending.length then pads + 1 else pads) rest
  | pending, pads, c :: rest =>
    match alphabet.idxOf? c with
    | none => sixBits pending pads rest
    | some n =>
      match pending with
      | [] => sixBits [n] 0 rest
      | [a] => (sixBits [a, n] 0 rest).map ((4 * a + n / 16) :: ·)
      | [a, b] => (sixBits [a, b, n] 0 rest).map ((b % 16 * 16 + n / 4) :: ·)
      | _ => (sixBits [] 0 rest).map (((pending[2]?.getD 0) % 4 * 64 + n) :: ·)

def bytes (s : String) : Outcome :=
  if s.toList.all (·.toNat < 128) then
    match sixBits [] 0 s.toList with
    | some bs => .ok (.bytes bs)
    | none => .error .malformed
  else .error .malformed

/-- The value of a scalar of a type; no scalar has the type of a collection. -/
def scalar (t : Tag) (s : String) : Outcome :=
  match t with
  | .null => .ok .null
  | .bool => bool s
  | .int => int s
  | .float => float s
  | .text => .ok (.text s)
  | .binary => bytes s
  | .moment => moment s
  | _ => .error .malformed

/-! ### Messages -/

/-- A difference to universal time: days below zero, and the seconds that are more than those. -/
def difference (minutes : Int) : String :=
  let seconds := minutes % 1440 * 60
  Value.call "timedelta" (["days=" ++ toString (minutes / 1440)] ++
    (if seconds = 0 then [] else ["seconds=" ++ toString seconds]))

def faultMessage : ScalarFault → String
  | .noCharacter => "chr() arg not in range(0x110000)"
  | .farFromCharacter => "Python int too large to convert to C int"
  | .empty => "string index out of range"
  | .notTruth word => quoted word
  | .notWhole base digits =>
    "invalid literal for int() with base " ++ toString base ++ ": " ++ quoted digits
  | .tooManyDigits count =>
    "Exceeds the limit (4300 digits) for integer string conversion: value has " ++ toString count ++
      " digits; use sys.set_int_max_str_digits() to increase the limit"
  | .notReal digits => "could not convert string to float: " ++ quoted digits
  | .notMoment => "'NoneType' object has no attribute 'groupdict'"
  | .notText => "expected string or bytes-like object, got 'list'"
  | .year => "year 0 is out of range"
  | .month => "month must be in 1..12"
  | .day => "day is out of range for month"
  | .hour => "hour must be in 0..23"
  | .minute => "minute must be in 0..59"
  | .second => "second must be in 0..59"
  | .zone minutes =>
    "offset must be a timedelta strictly between -timedelta(hours=24) and " ++
      "timedelta(hours=24), not " ++
      difference minutes ++ "."

end DocAtlas.Yaml.Reading
