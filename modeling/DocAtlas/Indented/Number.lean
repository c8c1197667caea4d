import DocAtlas.Decimal.Reading
import DocAtlas.Indented.Token

/-!
Number literals: integers in four bases, floating and imaginary numbers. Single underscores may
stand between digits, and no name may follow directly but for the words that go on an expression.
-/
namespace DocAtlas.Indented.Number
open Text

/-- Groups of digits with one underscore between any two: the digits, and what follows them. -/
def digitGroups? (isDigit : Char → Bool) : Nat → List Char → Option (List Char × List Char)
  | 0, _ => none
  | fuel + 1, s =>
    let group := s.takeWhile isDigit
    if group.isEmpty then none
    else
      match s.drop group.length with
      | '_' :: rest =>
        (digitGroups? isDigit fuel rest).map fun (more, rest) => (group ++ more, rest)
      | rest => some (group, rest)

def decimals? (s : List Char) : Option (List Char × List Char) :=
  digitGroups? isAsciiDigit (s.length + 1) s

/-- Digits, or none at all. -/
def optionalDecimals? (s : List Char) : Option (List Char × List Char) :=
  if s.head?.any isAsciiDigit then decimals? s else some ([], s)

/-- The words that may follow a number directly. -/
def followers : List (List Char) :=
  ["and", "else", "for", "if", "in", "is", "or", "not"].map String.toList

/-- Whether a character can be part of a name as far as numbers are concerned. -/
def isWordByte (c : Char) : Bool :=
  isAsciiLetter c || isAsciiDigit c || c == '_' || 128 ≤ c.toNat

def endsWell (rest : List Char) : Bool :=
  !rest.head?.any isWordByte || followers.any (·.isPrefixOf rest)

def finish? (n : Number) (rest : List Char) : Option (Number × List Char) :=
  if endsWell rest then some (n, rest) else none

def valueIn (base : Nat) (digits : List Char) : Nat :=
  digits.foldl (fun n c => base * n + (hexDigit? c).getD 0) 0

/-- An integer in base 2, 8 or 16, after the letter of the base; an underscore may come first. -/
def based? (base : Nat) (s : List Char) : Option (Number × List Char) := do
  let isDigit := fun c => (hexDigit? c).any (· < base)
  let s := match s with
    | '_' :: rest => rest
    | s => s
  let (digits, rest) ← digitGroups? isDigit (s.length + 1) s
  if rest.head?.any isAsciiDigit then none else finish? (.integer (valueIn base digits)) rest

def isOneOf (small large : Char) (c : Char) : Bool := c == small || c == large

/-- The mantissa has been read: its digits, of which `places` stand after the point. -/
def scaled? (digits : List Char) (places : Nat) (power : Int) (rest : List Char) :
    Option (Number × List Char) :=
  let value := Decimal.ofDecimal false (Decimal.digitsValue digits) (power - places)
  match rest with
  | c :: more =>
    if isOneOf 'j' 'J' c then finish? (.imaginary value) more else finish? (.real value) rest
  | [] => some (.real value, [])

/-- The exponent after its letter; `none` if there are no digits. -/
def exponent? (s : List Char) : Option (Int × List Char) := do
  let (negative, digits) := Decimal.readSign s
  let (digits, rest) ← decimals? digits
  let size : Int := Decimal.digitsValue digits
  some (if negative then -size else size, rest)

/-- What follows the digits of a number without a fraction. -/
def afterWhole? (digits : List Char) (s : List Char) : Option (Number × List Char) :=
  match s with
  | c :: rest =>
    if isOneOf 'j' 'J' c then scaled? digits 0 0 s
    else if isOneOf 'e' 'E' c && rest.head?.any fun d => isAsciiDigit d || d == '+' || d == '-' then
      (exponent? rest).bind fun (power, rest) => scaled? digits 0 power rest
    else if 1 < digits.length && digits.head? == some '0' && digits.any (· != '0') then none
    else if Decimal.maxDigits < digits.length then none
    else finish? (.integer (Decimal.digitsValue digits)) s
  | [] => none

/-- The fraction after its point, and what follows. -/
def fraction? (digits : List Char) (s : List Char) : Option (Number × List Char) := do
  let (places, rest) ← optionalDecimals? s
  let all := digits ++ places
  match rest with
  | c :: more =>
    if isOneOf 'e' 'E' c && more.head?.any fun d => isAsciiDigit d || d == '+' || d == '-' then
      let (power, rest) ← exponent? more
      scaled? all places.length power rest
    else scaled? all places.length 0 rest
  | [] => none

/-- Reads a number; `s` begins with a digit, or with a point and a digit, and a line feed ends it.
-/
def read? (s : List Char) : Option (Number × List Char) :=
  match s with
  | '.' :: rest => fraction? [] rest
  | '0' :: c :: rest =>
    if isOneOf 'x' 'X' c then based? 16 rest
    else if isOneOf 'o' 'O' c then based? 8 rest
    else if isOneOf 'b' 'B' c then based? 2 rest
    else plain s
  | s => plain s
where
  plain (s : List Char) : Option (Number × List Char) := do
    let (digits, rest) ← decimals? s
    match rest with
    | '.' :: rest => fraction? digits rest
    | rest => afterWhole? digits rest

end DocAtlas.Indented.Number
