import DocAtlas.Decimal.Binary
import DocAtlas.Text.Blank
import DocAtlas.Text.CharSet
import DocAtlas.Text.Case
import DocAtlas.Text.Identifier

/-!
Numbers read from text. Digits of all scripts count, single underscores may stand between digits,
and blanks around the number are ignored.
-/
namespace DocAtlas.Decimal
open Text

/-- The zeros beyond ASCII; the other nine digits follow each of them. -/
def zeros : List Nat :=
  ["660 6F0 7C0 966 9E6 A66 AE6 B66 BE6 C66 CE6 D66 DE6 E50 ED0 F20 1040 1090 17E0 1810 1946",
    "19D0 1A80 1A90 1B50 1BB0 1C40 1C50 A620 A8D0 A900 A9D0 A9F0 AA50 ABF0 FF10 104A0 10D30",
    "11066 110F0 11136 111D0 112F0 11450 114D0 11650 116C0 11730 118E0 11950 11C50 11D50 11DA0",
    "16A60 16AC0 16B50 1D7CE 1D7D8 1D7E2 1D7EC 1D7F6 1E140 1E2F0 1E950 1FBF0"].flatMap fun s =>
      (s.splitToList (· == ' ')).map (hexValue ·.toList)

/-- The ASCII digit with the value of a digit of any script. -/
def plainDigit (c : Char) : Char :=
  if c.toNat < 128 then c
  else
    match zeros.find? fun z => z ≤ c.toNat && c.toNat < z + 10 with
    | some z => Char.ofNat ('0'.toNat + (c.toNat - z))
    | none => c

/-- The blanks around a number; the information separators are none. -/
def isPadding (c : Char) : Bool :=
  if c.toNat < 128 then c == ' ' || (9 ≤ c.toNat && c.toNat ≤ 13) else isBlank c

def unpad (s : List Char) : List Char :=
  ((s.dropWhile isPadding).reverse.dropWhile isPadding).reverse.map plainDigit

/-- The text without the underscores that stand between two digits; `none` if another one occurs. -/
def dropUnderscores? : List Char → Option (List Char)
  | [] => some []
  | '_' :: _ => none
  | [c] => some [c]
  | c :: '_' :: rest =>
    if isAsciiDigit c && rest.head?.any isAsciiDigit then (dropUnderscores? rest).map (c :: ·)
    else none
  | c :: rest => (dropUnderscores? rest).map (c :: ·)

def digitsValue (s : List Char) : Nat := s.foldl (fun n c => 10 * n + (c.toNat - '0'.toNat)) 0

/-- The sign and what follows it. -/
def readSign : List Char → Bool × List Char
  | '-' :: rest => (true, rest)
  | '+' :: rest => (false, rest)
  | s => (false, s)

/-- The most digits that a decimal integer may have. -/
def maxDigits : Nat := 4300

def readInt? (s : String) : Option Int := do
  let (negative, body) := readSign (unpad s.toList)
  let digits ← dropUnderscores? body
  if digits.isEmpty || !digits.all isAsciiDigit || maxDigits < digits.length then none
  else some (if negative then -(digitsValue digits : Int) else digitsValue digits)

/-- The double nearest to `n * 10 ^ e`; far outside the range no power is computed. -/
def ofDecimal (negative : Bool) (n : Nat) (e : Int) : Float :=
  let size := ((Nat.toDigits 10 n).length : Int) + e
  if n = 0 then nearest negative 0 1
  else if 320 < size then infinity negative
  else if size < -340 then nearest negative 0 1
  else if 0 ≤ e then nearest negative (n * tenTo e.toNat) 1
  else nearest negative n (tenTo (-e).toNat)

/-- Digits with an optional fraction and exponent, all of `s`. -/
def readUnsigned? (negative : Bool) (s : List Char) : Option Float := do
  let whole := s.takeWhile isAsciiDigit
  let rest := s.drop whole.length
  let (fraction, rest) := match rest with
    | '.' :: rest => (rest.takeWhile isAsciiDigit, rest.dropWhile isAsciiDigit)
    | rest => ([], rest)
  if whole.isEmpty && fraction.isEmpty then none
  else
    let n := digitsValue (whole ++ fraction)
    match rest with
    | [] => some (ofDecimal negative n (-(fraction.length : Int)))
    | c :: rest =>
      if c == 'e' || c == 'E' then
        let (down, digits) := readSign rest
        if digits.isEmpty || !digits.all isAsciiDigit then none
        else
          let power : Int := digitsValue digits
          some (ofDecimal negative n ((if down then -power else power) - fraction.length))
      else none

def readFloat? (s : String) : Option Float := do
  let (negative, body) := readSign (unpad s.toList)
  let small := String.ofList (body.map Case.lowerAscii)
  if small == "inf" || small == "infinity" then some (infinity negative)
  else if small == "nan" then some undefinedNumber
  else readUnsigned? negative (← dropUnderscores? body)

end DocAtlas.Decimal
