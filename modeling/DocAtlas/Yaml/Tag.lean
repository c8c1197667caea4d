import DocAtlas.Text.Blank
import DocAtlas.Text.Identifier
import DocAtlas.Text.CharSet

/-!
Tags tell the types of nodes. A plain scalar without a tag has the type that its form tells.
-/
namespace DocAtlas.Yaml
open Text

/-- The types that a node can have; `other` ones are not known. -/
inductive Tag where
  | null
  | bool
  | int
  | float
  | text
  | binary
  | moment
  | list
  | mapping
  | set
  | orderedMapping
  | pairs
  | merge
  | default
  | other
deriving DecidableEq

namespace Tag

/-- What the tags of all common types begin with. -/
def start : String := "tag:yaml.org,2002:"

def names : List (String × Tag) :=
  [("null", null), ("bool", bool), ("int", int), ("float", float), ("str", text),
    ("binary", binary), ("timestamp", moment), ("seq", list), ("map", mapping), ("set", set),
    ("omap", orderedMapping), ("pairs", pairs), ("merge", merge), ("value", default)]

/-- The type that the full text of a tag names. -/
def ofText (s : String) : Tag :=
  match dropStart? start.toList s.toList with
  | some name => (names.lookup (String.ofList name)).getD other
  | none => other

/-! ### Forms of plain scalars -/

def nullForms : List String := ["~", "null", "Null", "NULL", ""]

def trueForms : List String := ["yes", "Yes", "YES", "true", "True", "TRUE", "on", "On", "ON"]

def falseForms : List String := ["no", "No", "NO", "false", "False", "FALSE", "off", "Off", "OFF"]

def isDigitOrLine (c : Char) : Bool := isAsciiDigit c || c == '_'

def dropSign (s : List Char) : List Char :=
  match s with
  | '+' :: rest => rest
  | '-' :: rest => rest
  | s => s

/-- Parts between 0 and 59 after colons, at least one; a further part may follow if `fraction`
holds. -/
def isSixties (s : List Char) : Bool :=
  match splitAt ':' s with
  | first :: part :: rest =>
    (first.head?.any fun c => isAsciiDigit c) && first.all isDigitOrLine &&
      (part :: rest).all isPart
  | _ => false
where
  isPart : List Char → Bool
    | [c] => isAsciiDigit c
    | [c, d] => '0' ≤ c && c ≤ '5' && isAsciiDigit d
    | _ => false

def allNonempty (p : Char → Bool) (s : List Char) : Bool := !s.isEmpty && s.all p

def isIntForm (s : List Char) : Bool :=
  match dropSign s with
  | '0' :: 'b' :: rest => allNonempty (fun c => c == '0' || c == '1' || c == '_') rest
  | '0' :: 'x' :: rest => allNonempty (fun c => (hexDigit? c).isSome || c == '_') rest
  | '0' :: rest => rest.all fun c => ('0' ≤ c && c ≤ '7') || c == '_'
  | c :: rest => isAsciiDigit c && (rest.all isDigitOrLine || isSixties (c :: rest))
  | [] => false

/-- An exponent with its sign, or nothing. -/
def isExponentForm (s : List Char) : Bool :=
  match s with
  | [] => true
  | e :: sign :: digits =>
    (e == 'e' || e == 'E') && (sign == '+' || sign == '-') && allNonempty isAsciiDigit digits
  | _ => false

def isFloatForm (s : List Char) : Bool :=
  let body := dropSign s
  let (whole, rest) := (body.takeWhile isDigitOrLine, body.dropWhile isDigitOrLine)
  let special := [".inf", ".Inf", ".INF"].contains (String.ofList body) ||
    [".nan", ".NaN", ".NAN"].contains (String.ofList s)
  let sixties := match cut? ['.'] body with
    | some (before, after) => isSixties before && after.all isDigitOrLine
    | none => false
  let plain := match rest with
    | '.' :: rest =>
      let digits := rest.takeWhile isDigitOrLine
      isExponentForm (rest.drop digits.length) &&
        (if whole.isEmpty then body.length == s.length && digits.head?.any isAsciiDigit
          else whole.head?.any isAsciiDigit)
    | _ => false
  special || sixties || plain

/-- Digits, as many as one of the counts, and what follows them. -/
def digits? (least most : Nat) (s : List Char) : Option (List Char × List Char) :=
  let found := (s.take most).takeWhile isAsciiDigit
  if least ≤ found.length then some (found, s.drop found.length) else none

def sign? (c : Char) (s : List Char) : Option (List Char) :=
  match s with
  | d :: rest => if d == c then some rest else none
  | [] => none

end Tag

/-- The parts of a date with a time, each as its digits. -/
structure MomentForm where
  year : List Char
  month : List Char
  day : List Char
  time : Option (List Char × List Char × List Char) := none
  fraction : List Char := []
  /-- A zone: its sign, hours and minutes; none of these for universal time. -/
  zone : Option (Option (Char × List Char × List Char)) := none

namespace MomentForm
open Tag

/-- The zone after a time, which must end the text. -/
def zone? (s : List Char) : Option (Option (Option (Char × List Char × List Char))) :=
  if s.isEmpty then some none
  else
    match s.dropWhile fun c => c == ' ' || c == '\t' with
    | ['Z'] => some (some none)
    | c :: rest =>
      if c == '+' || c == '-' then do
        let (hours, rest) ← digits? 1 2 rest
        if rest.isEmpty then some (some (some (c, hours, [])))
        else
          let (minutes, rest) ← digits? 2 2 (← sign? ':' rest)
          if rest.isEmpty then some (some (some (c, hours, minutes))) else none
      else none
    | [] => none

/-- The time after a date. -/
def time? (m : MomentForm) (s : List Char) : Option MomentForm := do
  let blanks := s.takeWhile fun c => c == ' ' || c == '\t'
  let rest := if blanks.isEmpty then s.drop 1 else s.drop blanks.length
  if blanks.isEmpty && !(s.head? == some 'T' || s.head? == some 't') then none
  else
    let (hour, rest) ← digits? 1 2 rest
    let (minute, rest) ← digits? 2 2 (← sign? ':' rest)
    let (second, rest) ← digits? 2 2 (← sign? ':' rest)
    let (fraction, rest) := match rest with
      | '.' :: rest => (rest.takeWhile isAsciiDigit, rest.dropWhile isAsciiDigit)
      | rest => ([], rest)
    return { m with
      time := some (hour, minute, second), fraction := fraction, zone := ← zone? rest }

/-- Reads a date, perhaps with a time. -/
def read? (s : List Char) : Option MomentForm := do
  let (year, rest) ← digits? 4 4 s
  let (month, rest) ← digits? 1 2 (← sign? '-' rest)
  let (day, rest) ← digits? 1 2 (← sign? '-' rest)
  let m : MomentForm := { year := year, month := month, day := day }
  if rest.isEmpty then some m else m.time? rest

/-- Whether a plain scalar is a date: one alone has two digits for month and day. -/
def isForm (s : List Char) : Bool :=
  match read? s with
  | some m => m.time.isSome || (m.month.length == 2 && m.day.length == 2)
  | none => false

end MomentForm

namespace Tag

/-- The type that the form of a plain scalar tells. -/
def ofForm (s : String) : Tag :=
  if nullForms.contains s then null
  else if trueForms.contains s || falseForms.contains s then bool
  else if isIntForm s.toList then int
  else if isFloatForm s.toList then float
  else if MomentForm.isForm s.toList then moment
  else if s == "<<" then merge
  else if s == "=" then default
  else text

end Tag

end DocAtlas.Yaml
