import DocAtlas.Text.Case.Table

/-!
Small and capital letters of all scripts.
-/
namespace DocAtlas.Text.Case

/-- Every `step`th code point from `first` to `last` is a capital letter; the small letters begin at
`small`. -/
structure Run where
  first : Nat
  last : Nat
  step : Nat
  small : Nat

def readRun (s : List Char) : Run :=
  let codes := s.takeWhile fun c => c != '/' && c != '>'
  let (first, last) := CharSet.readRange codes
  ⟨first, last, if s.contains '/' then 2 else 1, hexValue ((s.dropWhile (· != '>')).drop 1)⟩

def runs : Array Run :=
  (smallLetters.flatMap fun s => (s.splitToList (· == ' ')).map (readRun ·.toList)).toArray

def isAsciiUpper (c : Char) : Bool := 'A' ≤ c && c ≤ 'Z'

def isAsciiLower (c : Char) : Bool := 'a' ≤ c && c ≤ 'z'

/-- The small letter of an ASCII capital; any other character itself. -/
def lowerAscii (c : Char) : Char := if isAsciiUpper c then Char.ofNat (c.toNat + 32) else c

/-- The small form of one character; the dotted capital I has a form of two characters. -/
def lowerChar (c : Char) : List Char :=
  if c.toNat < 128 then [lowerAscii c]
  else if c.toNat == 0x130 then ['i', Char.ofNat 0x307]
  else
    match runs.find? fun r => r.first ≤ c.toNat && c.toNat ≤ r.last &&
        (c.toNat - r.first) % r.step == 0 with
    | none => [c]
    | some r => [Char.ofNat (r.small + (c.toNat - r.first))]

def isUpper (c : Char) : Bool :=
  if c.toNat < 128 then isAsciiUpper c else upperWide.contains c

/-- Small letters, and the letters that are a capital followed by a small one. -/
def isLowerOrTitle (c : Char) : Bool :=
  if c.toNat < 128 then isAsciiLower c else lowerWide.contains c

def isCased (c : Char) : Bool :=
  if c.toNat < 128 then isAsciiLower c || isAsciiUpper c else casedWide.contains c

/-- The characters that do not count when the end of a word is looked for. -/
def isSkipped (c : Char) : Bool :=
  if c.toNat < 128 then c == '\'' || c == '.' || c == ':' || c == '^' || c == Char.ofNat 96
  else skippedWide.contains c

/-- Whether a cased character comes next, others being passed over. -/
def meetsCased (s : List Char) : Bool :=
  match s.dropWhile isSkipped with
  | [] => false
  | c :: _ => isCased c

/-- The small form of `rest`, where `before` is what precedes it, last character first. -/
def lowerFrom : List Char → List Char → List Char
  | _, [] => []
  | before, c :: rest =>
    if c.toNat == 0x3A3 then
      (if meetsCased before && !meetsCased rest then Char.ofNat 0x3C2 else Char.ofNat 0x3C3) ::
        lowerFrom (c :: before) rest
    else lowerChar c ++ lowerFrom (c :: before) rest

/-- Small letters throughout; a capital sigma that ends a word takes its final form. -/
def lower (s : List Char) : List Char :=
  if s.any (·.toNat == 0x3A3) then lowerFrom [] s else s.flatMap lowerChar

/-- Upper case throughout: a capital occurs and no small letter does. -/
def isUpperText (s : List Char) : Bool := s.any isUpper && !s.any isLowerOrTitle

end DocAtlas.Text.Case

namespace DocAtlas

def lowerText (s : String) : String := String.ofList (Text.Case.lower s.toList)

end DocAtlas
