import DocAtlas.Json.Basic
import DocAtlas.Decimal.Reading
import DocAtlas.Text.CharSet

/-!
Reading of written values. Numbers with a fraction or an exponent are floating, all others integers.
-/
namespace DocAtlas.Json
open Text

def isSpace (c : Char) : Bool := c == ' ' || c == '\n' || c == '\r' || c == '\t'

def skip (s : List Char) : List Char := s.dropWhile isSpace

/-- The four hexadecimal digits of an escaped code unit. -/
def readUnit? (s : List Char) : Option (Nat × List Char) :=
  let digits := s.take 4
  if digits.length = 4 && digits.all fun c => (hexDigit? c).isSome then
    some (hexValue digits, s.drop 4)
  else none

def simpleEscape? : Char → Option Char
  | '"' => some '"'
  | '\\' => some '\\'
  | '/' => some '/'
  | 'b' => some (Char.ofNat 8)
  | 'f' => some (Char.ofNat 12)
  | 'n' => some '\n'
  | 'r' => some '\r'
  | 't' => some '\t'
  | _ => none

/-- The character of one or two escaped code units; half of a pair becomes the replacement
character. -/
def readEscapedUnit? (s : List Char) : Option (Char × List Char) := do
  let (high, rest) ← readUnit? s
  if 0xD800 ≤ high && high < 0xDC00 then
    match rest with
    | '\\' :: 'u' :: more => do
      let (low, after) ← readUnit? more
      if 0xDC00 ≤ low && low < 0xE000 then
        some (Char.ofNat (0x10000 + (high - 0xD800) * 0x400 + (low - 0xDC00)), after)
      else some (Char.ofNat 0xFFFD, rest)
    | _ => some (Char.ofNat 0xFFFD, rest)
  else if 0xDC00 ≤ high && high < 0xE000 then some (Char.ofNat 0xFFFD, rest)
  else some (Char.ofNat high, rest)

/-- The rest of a quoted text, gathered backwards. -/
def readText? : Nat → List Char → List Char → Option (String × List Char)
  | 0, _, _ => none
  | _, _, [] => none
  | _ + 1, seen, '"' :: rest => some (String.ofList seen.reverse, rest)
  | fuel + 1, seen, '\\' :: 'u' :: rest => do
    let (c, rest) ← readEscapedUnit? rest
    readText? fuel (c :: seen) rest
  | fuel + 1, seen, '\\' :: c :: rest => do
    let c ← simpleEscape? c
    readText? fuel (c :: seen) rest
  | fuel + 1, seen, c :: rest => if c.toNat < 32 then none else readText? fuel (c :: seen) rest

def isNumberPart (c : Char) : Bool :=
  isAsciiDigit c || c == '-' || c == '+' || c == '.' || c == 'e' || c == 'E'

def readNumber? (s : List Char) : Option (Json × List Char) := do
  let body := s.takeWhile isNumberPart
  let rest := s.drop body.length
  if body.any fun c => c == '.' || c == 'e' || c == 'E' then
    let (negative, digits) := Decimal.readSign body
    let x ← Decimal.readUnsigned? negative digits
    some (.float x, rest)
  else
    let (negative, digits) := Decimal.readSign body
    if digits.isEmpty || !digits.all isAsciiDigit then none
    else
      let n : Int := Decimal.digitsValue digits
      some (.int (if negative then -n else n), rest)

/-- One pending part of a value: a value, more items of a list, or more fields of an object. -/
inductive Part where
  | value
  | items (seen : List Json)
  | fields (seen : List (String × Json))

def read? : Nat → Part → List Char → Option (Json × List Char)
  | 0, _, _ => none
  | fuel + 1, .value, s =>
    match skip s with
    | '"' :: rest => do
      let (t, rest) ← readText? (rest.length + 1) [] rest
      some (.text t, rest)
    | '[' :: rest =>
      match skip rest with
      | ']' :: rest => some (.list [], rest)
      | rest => read? fuel (.items []) rest
    | '\x7b' :: rest =>
      match skip rest with
      | '\x7d' :: rest => some (.object [], rest)
      | rest => read? fuel (.fields []) rest
    | 't' :: 'r' :: 'u' :: 'e' :: rest => some (.bool true, rest)
    | 'f' :: 'a' :: 'l' :: 's' :: 'e' :: rest => some (.bool false, rest)
    | 'n' :: 'u' :: 'l' :: 'l' :: rest => some (.null, rest)
    | s => readNumber? s
  | fuel + 1, .items seen, s => do
    let (j, rest) ← read? fuel .value s
    match skip rest with
    | ',' :: rest => read? fuel (.items (j :: seen)) rest
    | ']' :: rest => some (.list (j :: seen).reverse, rest)
    | _ => none
  | fuel + 1, .fields seen, s => do
    match skip s with
    | '"' :: rest => do
      let (key, rest) ← readText? (rest.length + 1) [] rest
      match skip rest with
      | ':' :: rest => do
        let (j, rest) ← read? fuel .value rest
        match skip rest with
        | ',' :: rest => read? fuel (.fields ((key, j) :: seen)) rest
        | '\x7d' :: rest => some (.object (Keyed.ofList ((key, j) :: seen).reverse), rest)
        | _ => none
      | _ => none
    | _ => none

/-- The value that is all of `s`; each step of the reading consumes a character or opens a value. -/
def parse? (s : String) : Option Json := do
  let (j, rest) ← read? (2 * s.length + 2) .value s.toList
  if (skip rest).isEmpty then some j else none

end DocAtlas.Json
