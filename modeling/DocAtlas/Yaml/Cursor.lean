/-!
A place in a text of settings, and the characters that structure such a text.
-/
namespace DocAtlas.Yaml

/-- What is wrong with a scalar for its type. -/
inductive ScalarFault where
  /-- An escape by a number beyond those of all characters. -/
  | noCharacter
  /-- As `noCharacter`, with a number of more than 31 bits. -/
  | farFromCharacter
  | empty
  | notTruth (word : String)
  | notWhole (base : Nat) (digits : String)
  | tooManyDigits (count : Nat)
  | notReal (digits : String)
  | notMoment
  /-- A moment that is given by a mapping. -/
  | notText
  | year
  | month
  | day
  | hour
  | minute
  | second
  /-- A zone that differs from universal time by a day or more, in minutes. -/
  | zone (minutes : Int)
deriving DecidableEq

/-- Why a text of settings is not usable. -/
inductive Fault where
  | malformed
  /-- A scalar has not the form that its type demands. -/
  | scalar (fault : ScalarFault)
  /-- Nodes are nested deeper than there is room for. -/
  | tooDeep
deriving DecidableEq

/-- What stands at the end of a text. -/
def endMark : Char := Char.ofNat 0

def isBreak (c : Char) : Bool :=
  c == '\n' || c == '\r' || c.toNat == 0x85 || c.toNat == 0x2028 || c.toNat == 0x2029

/-- Whether a line ends here. -/
def isLineEnd (c : Char) : Bool := c == endMark || isBreak c

def isPad (c : Char) : Bool := c == ' ' || c == '\t'

/-- Whether a word ends here. -/
def isGap (c : Char) : Bool := isPad c || isLineEnd c

/-- The characters that a text may hold. -/
def isAllowed (c : Char) : Bool :=
  let n := c.toNat
  n == 9 || n == 10 || n == 13 || (0x20 ≤ n && n ≤ 0x7E) || n == 0x85 || (0xA0 ≤ n && n ≤ 0xD7FF) ||
    (0xE000 ≤ n && n ≤ 0xFFFD) || 0x10000 ≤ n

/-- The text that is left, and how far into the whole text, its lines, and its current line it is.
-/
structure Cursor where
  rest : List Char
  index : Nat := 0
  line : Nat := 0
  column : Nat := 0

namespace Cursor

def peekAt (c : Cursor) (n : Nat) : Char := (c.rest[n]?).getD endMark

def peek (c : Cursor) : Char := c.peekAt 0

/-- Moves past one character. -/
def next (c : Cursor) : Cursor :=
  match c.rest with
  | [] => c
  | ch :: rest =>
    if isBreak ch && !(ch == '\r' && rest.head? == some '\n') then
      ⟨rest, c.index + 1, c.line + 1, 0⟩
    else ⟨rest, c.index + 1, c.line, if ch.toNat == 0xFEFF then c.column else c.column + 1⟩

def drop : Nat → Cursor → Cursor
  | 0, c => c
  | n + 1, c => drop n c.next

/-- The characters that satisfy `p` and come next, and the place after them. -/
def takeWhile (c : Cursor) (p : Char → Bool) : List Char × Cursor :=
  let s := c.rest.takeWhile p
  (s, c.drop s.length)

def skip (c : Cursor) (p : Char → Bool) : Cursor := (c.takeWhile p).2

def skipSpaces (c : Cursor) : Cursor := c.skip (· == ' ')

/-- The end of a line as it counts in a text, and the place after it. -/
def lineBreak? (c : Cursor) : Option (Char × Cursor) :=
  match c.rest with
  | '\r' :: '\n' :: _ => some ('\n', c.drop 2)
  | ch :: _ =>
    if isBreak ch then
      some (if ch.toNat == 0x2028 || ch.toNat == 0x2029 then ch else '\n', c.next)
    else none
  | [] => none

/-- Whether a mark between documents stands here. -/
def atMark (c : Cursor) : Bool :=
  let s := c.rest.take 3
  (s == ['-', '-', '-'] || s == ['.', '.', '.']) && isGap (c.peekAt 3)

/-- Moves past blanks and a comment, which must end the line. -/
def endLine (c : Cursor) : Except Fault Cursor :=
  let c := c.skipSpaces
  let c := if c.peek == '#' then c.skip (!isBreak ·) else c
  match c.lineBreak? with
  | some (_, c) => .ok c
  | none => if c.rest.isEmpty then .ok c else .error .malformed

end Cursor

end DocAtlas.Yaml
