import DocAtlas.Text.Blank
import DocAtlas.Text.CharSet
import DocAtlas.Text.NormalForm.Table

/-!
The normal form of names: characters of one meaning are spelled alike, and letters are composed with
their marks. Main function: `normalForm`.
-/
namespace DocAtlas.Text.NormalForm

/-! ### Tables -/

def wordsOf (ls : List String) : List (List Char) :=
  ls.flatMap fun s => (s.splitToList (· == ' ')).map (·.toList)

/-- A letter and a mark with the character that is composed of them. -/
structure Composition where
  letter : Nat
  mark : Nat
  composed : Nat

/-- Reads `letter>composed` for the mark at hand. -/
def readCompositions (mark : Nat) : List (List Char) → List Composition
  | [] => []
  | word :: rest =>
    let first := word.takeWhile (· != '>')
    if first.length < word.length then
      ⟨hexValue first, mark, hexValue (word.drop first.length)⟩ :: readCompositions mark rest
    else readCompositions (hexValue word) rest

def composed : Array Composition := (readCompositions 0 (wordsOf compositions)).toArray

/-- The spellings that a word stands for, one code point after another. -/
def readItems (word : List Char) : List (List Nat) :=
  if word.contains '-' then
    let (first, last) := CharSet.readRange word
    (List.range (last + 1 - first)).map fun i => [first + i]
  else [(splitAt '+' word).map hexValue]

/-- Reads spellings for the code points from `next` on. -/
def readSpellings (next : Nat) : List (List Char) → List (Nat × List Nat)
  | [] => []
  | word :: rest =>
    if word.getLast? == some '>' then readSpellings (hexValue word) rest
    else
      let items := readItems word
      items.mapIdx (fun i spelling => (next + i, spelling)) ++
        readSpellings (next + items.length) rest

def spelled : Array (Nat × List Nat) := (readSpellings 0 (wordsOf spellings)).toArray

/-- Ranges of marks with the place that they take. -/
def readClasses (place : Nat) : List (List Char) → List (Nat × Nat × Nat)
  | [] => []
  | word :: rest =>
    if word.getLast? == some ':' then readClasses (hexValue word) rest
    else
      let (first, last) := CharSet.readRange word
      (first, last, place) :: readClasses place rest

def places : Array (Nat × Nat × Nat) := (readClasses 0 (wordsOf markClasses)).toArray

/-- The place of a mark after its letter; `0` for all that is no mark. -/
def place (n : Nat) : Nat :=
  match places.find? fun r => r.1 ≤ n && n ≤ r.2.1 with
  | some r => r.2.2
  | none => 0

/-! ### Syllables of Hangul -/

def leadBase : Nat := 0x1100

def vowelBase : Nat := 0x1161

def tailBase : Nat := 0x11A7

def syllableBase : Nat := 0xAC00

def vowelCount : Nat := 21

def tailCount : Nat := 28

def syllableCount : Nat := 19 * vowelCount * tailCount

def isSyllable (n : Nat) : Bool := syllableBase ≤ n && n < syllableBase + syllableCount

/-- The lead, the vowel and, if there is one, the tail of a syllable. -/
def syllableParts (n : Nat) : List Nat :=
  let i := n - syllableBase
  [leadBase + i / (vowelCount * tailCount), vowelBase + i / tailCount % vowelCount] ++
    (if i % tailCount = 0 then [] else [tailBase + i % tailCount])

/-- The syllable of a lead and a vowel, or of a syllable without a tail and a tail. -/
def syllable? (a b : Nat) : Option Nat :=
  if leadBase ≤ a && a < leadBase + 19 && vowelBase ≤ b && b < vowelBase + vowelCount then
    some (syllableBase + ((a - leadBase) * vowelCount + (b - vowelBase)) * tailCount)
  else if isSyllable a && (a - syllableBase) % tailCount = 0 && tailBase < b &&
      b < tailBase + tailCount then
    some (a + (b - tailBase))
  else none

/-! ### Spelling out and composing -/

/-- A code point spelled out; no letter carries more marks than the fuel. -/
def spellOut : Nat → Nat → List Nat
  | 0, n => [n]
  | fuel + 1, n =>
    if isSyllable n then syllableParts n
    else
      match composed.find? (·.composed == n) with
      | some c => spellOut fuel c.letter ++ [c.mark]
      | none => ((spelled.find? (·.1 == n)).map (·.2)).getD [n]

/-- Puts a mark behind the marks that take an earlier place. -/
def insertMark (n : Nat) : List Nat → List Nat
  | [] => [n]
  | m :: rest =>
    if 0 < place m && place m < place n then m :: insertMark n rest else n :: m :: rest

def arrange (s : List Nat) : List Nat := s.foldr insertMark []

def compose? (a b : Nat) : Option Nat :=
  match syllable? a b with
  | some n => some n
  | none => (composed.find? fun c => c.letter == a && c.mark == b).map (·.composed)

/-- Whether a mark still reaches its letter past the marks in between, given in reverse. -/
def reaches (between : List Nat) (n : Nat) : Bool :=
  match between with
  | [] => true
  | m :: _ => place m < place n

/-- Composes a letter with the marks that follow it, passing over those that stay. -/
def composeFrom (letter : Nat) (between : List Nat) : List Nat → List Nat
  | [] => letter :: between.reverse
  | n :: rest =>
    match if reaches between n then compose? letter n else none with
    | some c => composeFrom c between rest
    | none =>
      if place n = 0 then letter :: between.reverse ++ composeFrom n [] rest
      else composeFrom letter (n :: between) rest

def compose : List Nat → List Nat
  | [] => []
  | n :: rest => composeFrom n [] rest

/-- Characters of one meaning spelled alike, with letters and marks composed. -/
def normalForm (s : List Char) : List Char :=
  if s.all fun c => c.toNat < 128 then s
  else (compose (arrange (s.flatMap fun c => spellOut 4 c.toNat))).map Char.ofNat

end DocAtlas.Text.NormalForm
