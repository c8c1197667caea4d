import DocAtlas.Power
import DocAtlas.Text.CharSet
import DocAtlas.Yaml.Cursor

/-!
The texts of scalars: plain, between quotes, and in blocks of lines.
-/
namespace DocAtlas.Yaml.Scalar
open Text

/-- What has been read, and the place after it. -/
abbrev Piece := List Char × Cursor

/-! ### Quoted texts -/

/-- Line ends inside a quoted text. -/
def quotedBreaks : Nat → List Char → Cursor → Except Fault Piece
  | 0, seen, c => .ok (seen, c)
  | fuel + 1, seen, c =>
    if c.atMark then .error .malformed
    else
      let c := c.skip isPad
      match c.lineBreak? with
      | some (b, c) => quotedBreaks fuel (seen ++ [b]) c
      | none => .ok (seen, c)

/-- A single line end becomes a space, further ones are kept. -/
def folded (first : Char) (more : List Char) : List Char :=
  if first != '\n' then first :: more else if more.isEmpty then [' '] else more

/-- Blanks inside a quoted text. -/
def quotedSpaces (c : Cursor) : Except Fault Piece := do
  let (blanks, c) := c.takeWhile isPad
  match c.lineBreak? with
  | some (b, c) =>
    let (more, c) ← quotedBreaks (c.rest.length + 1) [] c
    return (folded b more, c)
  | none => if c.rest.isEmpty then .error .malformed else .ok (blanks, c)

def escapes : List (Char × Nat) :=
  [('0', 0), ('a', 7), ('b', 8), ('t', 9), ('\t', 9), ('n', 10), ('v', 11), ('f', 12), ('r', 13),
    ('e', 0x1B), (' ', 0x20), ('"', 0x22), ('\\', 0x5C), ('/', 0x2F), ('N', 0x85), ('_', 0xA0),
    ('L', 0x2028), ('P', 0x2029)]

/-- The number of digits of an escape by number. -/
def escapeWidth? (c : Char) : Option Nat :=
  if c == 'x' then some 2 else if c == 'u' then some 4 else if c == 'U' then some 8 else none

/-- The character with a number; one that stands for no character becomes a replacement. -/
def numbered (n : Nat) : Except Fault Char :=
  if 0x10FFFF < n then .error (.scalar (if n < twoTo 31 then .noCharacter else .farFromCharacter))
  else if n.isValidChar then .ok (Char.ofNat n)
  else .ok (Char.ofNat 0xFFFD)

/-- An escape, read after its backslash. -/
def escaped (c : Cursor) : Except Fault Piece := do
  match escapes.lookup c.peek, escapeWidth? c.peek with
  | some n, _ => return ([Char.ofNat n], c.next)
  | none, some width =>
    let digits := c.next.rest.take width
    if digits.length < width || digits.any fun d => (hexDigit? d).isNone then .error .malformed
    else return ([← numbered (hexValue digits)], c.drop (width + 1))
  | none, none =>
    match c.lineBreak? with
    | some (_, c) => quotedBreaks (c.rest.length + 1) [] c
    | none => .error .malformed

/-- The part of a quoted text up to a blank or its last quote. -/
def quotedWord (double : Bool) : Nat → List Char → Cursor → Except Fault Piece
  | 0, seen, c => .ok (seen, c)
  | fuel + 1, seen, c => do
    let (plain, c) := c.takeWhile fun ch =>
      !(ch == '\'' || ch == '"' || ch == '\\' || isPad ch || isBreak ch)
    let seen := seen ++ plain
    let ch := c.peek
    if !double && ch == '\'' && c.peekAt 1 == '\'' then
      quotedWord double fuel (seen ++ [ch]) (c.drop 2)
    else if (double && ch == '\'') || (!double && (ch == '"' || ch == '\\')) then
      quotedWord double fuel (seen ++ [ch]) c.next
    else if double && ch == '\\' then
      let (more, c) ← escaped c.next
      quotedWord double fuel (seen ++ more) c
    else return (seen, c)

/-- A quoted text from after its first quote on. -/
def quotedFrom (quote : Char) : Nat → List Char → Cursor → Except Fault Piece
  | 0, _, _ => .error .malformed
  | fuel + 1, seen, c => do
    let (word, c) ← quotedWord (quote == '"') (c.rest.length + 1) [] c
    let seen := seen ++ word
    if c.peek == quote then return (seen, c.next)
    else
      let (blanks, c) ← quotedSpaces c
      quotedFrom quote fuel (seen ++ blanks) c

def quoted (c : Cursor) : Except Fault Piece := quotedFrom c.peek (c.rest.length + 1) [] c.next

/-! ### Plain texts -/

def isFlowMark (c : Char) : Bool := [',', '[', ']', '\x7b', '\x7d'].contains c

/-- The length of a plain word; inside brackets fewer signs belong to it. -/
def wordLength (flow : Bool) : List Char → Nat
  | [] => 0
  | ch :: rest =>
    let after := rest.head?.getD endMark
    if isGap ch || (ch == ':' && (isGap after || (flow && isFlowMark after))) ||
        (flow && (isFlowMark ch || ch == '?')) then 0
    else wordLength flow rest + 1

/-- What stands between two words of a plain text: how it counts, the place after it, and whether a
line ended. -/
structure Between where
  text : List Char
  cursor : Cursor
  newLine : Bool

/-- Line ends after the first one; `none` before a mark between documents. -/
def plainBreaks : Nat → List Char → Cursor → Option (List Char) × Cursor
  | 0, seen, c => (some seen, c)
  | fuel + 1, seen, c =>
    let c := c.skipSpaces
    match c.lineBreak? with
    | some (b, c) => if c.atMark then (none, c) else plainBreaks fuel (seen ++ [b]) c
    | none => (some seen, c)

def between (c : Cursor) : Between :=
  let (blanks, c) := c.takeWhile (· == ' ')
  match c.lineBreak? with
  | none => ⟨blanks, c, false⟩
  | some (b, c) =>
    if c.atMark then ⟨[], c, true⟩
    else
      match plainBreaks (c.rest.length + 1) [] c with
      | (some more, c) => ⟨folded b more, c, true⟩
      | (none, c) => ⟨[], c, true⟩

/-- A plain text: its words, the place after it, and whether a line ended after its last word. -/
structure Plain where
  text : List Char
  cursor : Cursor
  newLine : Bool

/-- A plain text whose lines after the first one begin at column `indent` or later, unless it stands
inside brackets. -/
def plainFrom (flow : Bool) (indent : Int) : Nat → List Char → List Char → Bool → Cursor → Plain
  | 0, seen, _, newLine, c => ⟨seen, c, newLine⟩
  | fuel + 1, seen, blanks, newLine, c =>
    let length := if c.peek == '#' then 0 else wordLength flow c.rest
    if length = 0 then ⟨seen, c, newLine⟩
    else
      let seen := seen ++ blanks ++ c.rest.take length
      let b := between (c.drop length)
      if b.text.isEmpty || b.cursor.peek == '#' || (!flow && (b.cursor.column : Int) < indent) then
        ⟨seen, b.cursor, b.newLine⟩
      else plainFrom flow indent fuel seen b.text b.newLine b.cursor

def plain (flow : Bool) (indent : Int) (c : Cursor) : Plain :=
  plainFrom flow indent (c.rest.length + 1) [] [] false c

/-! ### Blocks of lines -/

/-- What becomes of the line ends after a block. -/
inductive Chomping where
  | clip
  | strip
  | keep
deriving DecidableEq

def chomping? (c : Char) : Option Chomping :=
  if c == '+' then some .keep else if c == '-' then some .strip else none

/-- A digit that says by how much a block is indented; it is not zero. -/
def increment? (c : Cursor) : Except Fault (Option Nat × Cursor) :=
  let n := c.peek.toNat - '0'.toNat
  if '0' ≤ c.peek && c.peek ≤ '9' then
    if n = 0 then .error .malformed else .ok (some n, c.next)
  else .ok (none, c)

/-- The signs after the first sign of a block, in either order. -/
def blockHeader (c : Cursor) : Except Fault (Chomping × Option Nat × Cursor) := do
  match chomping? c.peek with
  | some chomping =>
    let (increment, c) ← increment? c.next
    return (chomping, increment, c)
  | none =>
    let (increment, c) ← increment? c
    match increment, chomping? c.peek with
    | some _, some chomping => return (chomping, increment, c.next)
    | _, _ => return (.clip, increment, c)

/-- Empty lines before a block whose indentation is not given, and the widest of them. -/
def leadingBreaks : Nat → List Char → Nat → Cursor → List Char × Nat × Cursor
  | 0, seen, width, c => (seen, width, c)
  | fuel + 1, seen, width, c =>
    let c := c.skipSpaces
    let width := max width c.column
    match c.lineBreak? with
    | some (b, c) => leadingBreaks fuel (seen ++ [b]) width c
    | none => (seen, width, c)

/-- Moves to column `indent` or the first character before it that is no space. -/
def skipIndent (indent : Nat) (c : Cursor) : Cursor :=
  c.drop (min (indent - c.column) (c.rest.takeWhile (· == ' ')).length)

/-- Empty lines inside a block. -/
def blockBreaks (indent : Nat) : Nat → List Char → Cursor → Piece
  | 0, seen, c => (seen, c)
  | fuel + 1, seen, c =>
    let c := skipIndent indent c
    match c.lineBreak? with
    | some (b, c) => blockBreaks indent fuel (seen ++ [b]) c
    | none => (seen, c)

/-- The end of the line before the next line of a block: in a folded block it becomes a space
between lines that are not indented further. -/
def joint (fold : Bool) (ending : List Char) (outer next : Bool) (breaks : List Char) : List Char :=
  if fold && ending == ['\n'] && outer && next then
    if breaks.isEmpty then [' '] else []
  else ending

/-- The lines of a block, each with the empty lines before it. -/
def blockLines (fold : Bool) (indent : Nat) :
    Nat → List Char → List Char → List Char → Cursor → List Char × List Char × List Char × Cursor
  | 0, seen, breaks, ending, c => (seen, breaks, ending, c)
  | fuel + 1, seen, breaks, ending, c =>
    if c.column = indent && !c.rest.isEmpty then
      let outer := !isPad c.peek
      let (line, c) := c.takeWhile (!isBreak ·)
      let seen := seen ++ breaks ++ line
      let (ending, c) := match c.lineBreak? with
        | some (b, c) => ([b], c)
        | none => ([], c)
      let (breaks, c) := blockBreaks indent (c.rest.length + 1) [] c
      if c.column = indent && !c.rest.isEmpty then
        blockLines fold indent fuel (seen ++ joint fold ending outer (!isPad c.peek) breaks) breaks
          ending c
      else (seen, breaks, ending, c)
    else (seen, breaks, ending, c)

/-- A block of lines from after its first sign on, in a surrounding that is indented to `parent`. -/
def block (fold : Bool) (parent : Int) (c : Cursor) : Except Fault Piece := do
  let (chomping, increment, c) ← blockHeader c
  if !(c.peek == ' ' || isLineEnd c.peek) then .error .malformed
  else
    let c ← c.endLine
    let least := (max (parent + 1) 1).toNat
    let (breaks, indent, c) := match increment with
      | some n =>
        let indent := least + n - 1
        let (breaks, c) := blockBreaks indent (c.rest.length + 1) [] c
        (breaks, indent, c)
      | none =>
        let (breaks, width, c) := leadingBreaks (c.rest.length + 1) [] 0 c
        (breaks, max least width, c)
    let (seen, breaks, ending, c) := blockLines fold indent (c.rest.length + 1) [] breaks [] c
    return match chomping with
      | .strip => (seen, c)
      | .clip => (seen ++ ending, c)
      | .keep => (seen ++ ending ++ breaks, c)

end DocAtlas.Yaml.Scalar
