import DocAtlas.Text.Identifier
import DocAtlas.Text.Utf8
import DocAtlas.Yaml.Scalar
import DocAtlas.Yaml.Token

/-!
Reading of tokens. Blocks are marked by indentation, and a key is known as such only by the colon
after it, so that tokens are inserted before it then.
-/
namespace DocAtlas.Yaml
open Text

/-- Where a token stands that may turn out to begin a key; `required` if nothing else is possible
there. -/
structure KeySpot where
  position : Nat
  required : Bool
  index : Nat
  line : Nat
  column : Nat

structure Lexer where
  cursor : Cursor
  tokens : Array Token := #[]
  /-- How many brackets are open. -/
  depth : Int := 0
  indent : Int := -1
  outer : List Int := []
  /-- Whether a key may begin here. -/
  keyAllowed : Bool := true
  spots : List (Int × KeySpot) := []

namespace Lexer

abbrev Step := Except Fault Lexer

def flow (l : Lexer) : Bool := l.depth ≠ 0

def column (l : Lexer) : Int := l.cursor.column

def add (l : Lexer) (t : Token) : Lexer := { l with tokens := l.tokens.push t }

def move (l : Lexer) (n : Nat) : Lexer := { l with cursor := l.cursor.drop n }

def allowKey (l : Lexer) (allowed : Bool) : Lexer := { l with keyAllowed := allowed }

def demand (b : Bool) : Except Fault Unit := if b then .ok () else .error .malformed

/-! ### Keys -/

def spot? (l : Lexer) : Option KeySpot := l.spots.lookup l.depth

def forget (l : Lexer) : Lexer := { l with spots := l.spots.filter (·.1 != l.depth) }

/-- Gives up the hope for a key at the current depth. -/
def dropSpot (l : Lexer) : Step := do
  demand !(l.spot?.any (·.required))
  return l.forget

/-- Remembers that a key may begin here. -/
def saveSpot (l : Lexer) : Step := do
  if l.keyAllowed then
    let l ← l.dropSpot
    let s : KeySpot := {
      position := l.tokens.size
      required := !l.flow && l.indent == l.column
      index := l.cursor.index
      line := l.cursor.line
      column := l.cursor.column }
    return { l with spots := (l.depth, s) :: l.spots }
  else return l

/-- The longest text that can be a key. -/
def maxKey : Nat := 1024

/-- A key ends on the line on which it begins. -/
def isStale (l : Lexer) (s : KeySpot) : Bool :=
  s.line != l.cursor.line || maxKey < l.cursor.index - s.index

def dropStale (l : Lexer) : Step := do
  demand !(l.spots.any fun s => l.isStale s.2 && s.2.required)
  return { l with spots := l.spots.filter fun s => !l.isStale s.2 }

/-! ### Indentation -/

def unwind (column : Int) : List Int → Lexer → Lexer
  | [], l => l
  | i :: outer, l =>
    if column < l.indent then
      unwind column outer { l.add .blockEnd with indent := i, outer := outer }
    else l

/-- Ends the blocks that are indented further than `column`. -/
def unwindTo (l : Lexer) (column : Int) : Lexer := if l.flow then l else unwind column l.outer l

/-- Begins a block at `column` if none is indented so far; its mark goes to the place `position`. -/
def openBlock (l : Lexer) (column : Int) (position : Nat) (mark : Token) : Lexer :=
  if l.indent < column then
    { l with
      indent := column
      outer := l.indent :: l.outer
      tokens := l.tokens.insertIdxIfInBounds position mark }
  else l

/-- Begins a block here, where a key or an item must be allowed. -/
def blockHere (l : Lexer) (mark : Token) : Step := do
  if l.flow then return l
  else
    demand l.keyAllowed
    return l.openBlock l.column l.tokens.size mark

/-! ### Marks -/

/-- What all marks between documents and the end have in common. -/
def endBlocks (l : Lexer) : Step := do
  let l ← (l.unwindTo (-1)).dropSpot
  return l.allowKey false

def endText (l : Lexer) : Step := do return { (← l.endBlocks).add .textEnd with spots := [] }

def documentMark (l : Lexer) (t : Token) : Step := do return ((← l.endBlocks).move 3).add t

def openBracket (l : Lexer) (t : Token) : Step := do
  let l ← l.saveSpot
  return (({ l with depth := l.depth + 1 }.allowKey true).move 1).add t

def closeBracket (l : Lexer) (t : Token) : Step := do
  let l ← l.dropSpot
  return (({ l with depth := l.depth - 1 }.allowKey false).move 1).add t

def commaMark (l : Lexer) : Step := do
  return (((← (l.allowKey true).dropSpot)).move 1).add .comma

def itemMark (l : Lexer) : Step := do
  let l ← l.blockHere .blockList
  return ((← (l.allowKey true).dropSpot).move 1).add .item

def keyMark (l : Lexer) : Step := do
  let l ← l.blockHere .blockMapping
  return ((← (l.allowKey !l.flow).dropSpot).move 1).add .key

def valueMark (l : Lexer) : Step := do
  let l ←
    match l.spot? with
    | some s =>
      let l := { l.forget with tokens := l.tokens.insertIdxIfInBounds s.position .key }
      let l := if l.flow then l else l.openBlock s.column s.position .blockMapping
      pure (l.allowKey false)
    | none =>
      let l ← l.blockHere .blockMapping
      (l.allowKey !l.flow).dropSpot
  return (l.move 1).add .value

/-! ### Directives -/

def isNameChar (c : Char) : Bool := isAsciiLetter c || isAsciiDigit c || c == '-' || c == '_'

def atWordEnd (c : Cursor) : Bool := c.peek == ' ' || isLineEnd c.peek

def number (c : Cursor) : Except Fault (Nat × Cursor) := do
  let (digits, c) := c.takeWhile isAsciiDigit
  demand !digits.isEmpty
  return (digits.foldl (fun n d => 10 * n + (d.toNat - '0'.toNat)) 0, c)

def versionDirective (c : Cursor) : Except Fault (Token × Cursor) := do
  let (major, c) ← number c.skipSpaces
  demand (c.peek == '.')
  let (minor, c) ← number c.next
  demand (atWordEnd c)
  return (.version major minor, c)

/-- The short form for the beginning of a tag: an exclamation mark, or a name between two of them.
-/
def handle (c : Cursor) : Except Fault (String × Cursor) := do
  demand (c.peek == '!')
  if c.peekAt 1 == ' ' then return ("!", c.next)
  else
    let (name, c) := c.next.takeWhile isNameChar
    demand (c.peek == '!')
    return (String.ofList ('!' :: name ++ ['!']), c.next)

def isTagChar (c : Char) : Bool :=
  isAsciiLetter c || isAsciiDigit c || "-;/?:@&=+$,_.!~*'()[]".toList.contains c

/-- Characters of a tag that are given by their bytes. -/
def escapedBytes : Nat → ByteArray → Cursor → Except Fault (ByteArray × Cursor)
  | 0, bytes, c => .ok (bytes, c)
  | fuel + 1, bytes, c => do
    if c.peek == '%' then
      let digits := c.next.rest.take 2
      demand (digits.length == 2 && digits.all fun d => (hexDigit? d).isSome)
      escapedBytes fuel (bytes.push (hexValue digits).toUInt8) (c.drop 3)
    else return (bytes, c)

def tagChars : Nat → List Char → Cursor → Except Fault (List Char × Cursor)
  | 0, seen, c => .ok (seen, c)
  | fuel + 1, seen, c => do
    let (plain, c) := c.takeWhile isTagChar
    let seen := seen ++ plain
    if c.peek == '%' then
      let (bytes, c) ← escapedBytes c.rest.length .empty c
      match Utf8.decode bytes with
      | .ok s => tagChars fuel (seen ++ s.toList) c
      | .error _ => .error .malformed
    else return (seen, c)

/-- The text of a tag, which is not empty. -/
def tagText (c : Cursor) : Except Fault (String × Cursor) := do
  let (text, c) ← tagChars (c.rest.length + 1) [] c
  demand !text.isEmpty
  return (String.ofList text, c)

def shorthandDirective (c : Cursor) : Except Fault (Token × Cursor) := do
  let (h, c) ← handle c.skipSpaces
  demand (c.peek == ' ')
  let (start, c) ← tagText c.skipSpaces
  demand (atWordEnd c)
  return (.shorthand h start, c)

def directive (l : Lexer) : Step := do
  let l ← l.endBlocks
  let (name, c) := l.cursor.next.takeWhile isNameChar
  demand (!name.isEmpty && atWordEnd c)
  let (t, c) ←
    if name == "YAML".toList then versionDirective c
    else if name == "TAG".toList then shorthandDirective c
    else pure (.otherDirective, c.skip (!isBreak ·))
  return { l.add t with cursor := ← c.endLine }

/-! ### Properties and scalars -/

/-- The name of an anchor after its sign. -/
def anchorName (c : Cursor) : Except Fault (String × Cursor) := do
  let (name, c) := c.next.takeWhile isNameChar
  demand (!name.isEmpty &&
    (isGap c.peek || ['?', ':', ',', ']', '\x7d', '%', '@', Char.ofNat 96].contains c.peek))
  return (String.ofList name, c)

def named (l : Lexer) (t : String → Token) : Step := do
  let l ← l.saveSpot
  let (name, c) ← anchorName l.cursor
  return { (l.allowKey false).add (t name) with cursor := c }

/-- A tag between angle brackets, alone, or with its short form. -/
def tagOf (c : Cursor) : Except Fault (Token × Cursor) := do
  if c.peekAt 1 == '<' then
    let (text, c) ← tagText (c.drop 2)
    demand (c.peek == '>')
    return (.tag none text, c.next)
  else if isGap (c.peekAt 1) then return (.tag none "!", c.next)
  else
    let word := c.next.rest.takeWhile fun ch => !(ch == ' ' || isBreak ch)
    let (h, c) ← if word.contains '!' then handle c else pure ("!", c.next)
    let (text, c) ← tagText c
    return (.tag (some h) text, c)

def tagMark (l : Lexer) : Step := do
  let l ← l.saveSpot
  let (t, c) ← tagOf l.cursor
  demand (atWordEnd c)
  return { (l.allowKey false).add t with cursor := c }

def blockScalar (l : Lexer) (fold : Bool) : Step := do
  let l ← (l.allowKey true).dropSpot
  let (text, c) ← Scalar.block fold l.indent l.cursor.next
  return { l.add (.scalar (String.ofList text) false) with cursor := c }

def quotedScalar (l : Lexer) : Step := do
  let l ← l.saveSpot
  let (text, c) ← Scalar.quoted l.cursor
  return { (l.allowKey false).add (.scalar (String.ofList text) false) with cursor := c }

def plainScalar (l : Lexer) : Step := do
  let l ← l.saveSpot
  let p := Scalar.plain l.flow (l.indent + 1) l.cursor
  let l := (l.allowKey p.newLine).add (.scalar (String.ofList p.text) true)
  return { l with cursor := p.cursor }

/-! ### Tokens -/

/-- Moves past blanks, comments and line ends; a key may follow a line end outside of brackets. -/
def skipBlanks : Nat → Lexer → Lexer
  | 0, l => l
  | fuel + 1, l =>
    let c := l.cursor.skipSpaces
    let c := if c.peek == '#' then c.skip (!isBreak ·) else c
    match c.lineBreak? with
    | some (_, c) => skipBlanks fuel { l with cursor := c, keyAllowed := l.keyAllowed || !l.flow }
    | none => { l with cursor := c }

/-- The signs that no plain scalar begins with. -/
def isIndicator (c : Char) : Bool := "-?:,[]\x7b\x7d#&*!|>'\"%@".toList.contains c || c.toNat == 96

def beginsPlain (l : Lexer) : Bool :=
  let ch := l.cursor.peek
  !(isGap ch || isIndicator ch) ||
    (!isGap (l.cursor.peekAt 1) && (ch == '-' || (!l.flow && (ch == '?' || ch == ':'))))

/-- Reads the next token, where blanks have been passed. -/
def token (l : Lexer) : Step :=
  let c := l.cursor
  let ch := c.peek
  let spaced := isGap (c.peekAt 1)
  if c.rest.isEmpty then l.endText
  else if ch == '%' && c.column == 0 then l.directive
  else if ch == '-' && c.column == 0 && c.atMark then l.documentMark .documentStart
  else if ch == '.' && c.column == 0 && c.atMark then l.documentMark .documentEnd
  else if ch == '[' then l.openBracket .flowList
  else if ch == '\x7b' then l.openBracket .flowMapping
  else if ch == ']' then l.closeBracket .flowListEnd
  else if ch == '\x7d' then l.closeBracket .flowMappingEnd
  else if ch == ',' then l.commaMark
  else if ch == '-' && spaced then l.itemMark
  else if ch == '?' && (l.flow || spaced) then l.keyMark
  else if ch == ':' && (l.flow || spaced) then l.valueMark
  else if ch == '*' then l.named .aliasOf
  else if ch == '&' then l.named .anchor
  else if ch == '!' then l.tagMark
  else if ch == '|' && !l.flow then l.blockScalar false
  else if ch == '>' && !l.flow then l.blockScalar true
  else if ch == '\'' || ch == '"' then l.quotedScalar
  else if l.beginsPlain then l.plainScalar
  else .error .malformed

/-- Passes blanks on at most `lines` lines, ends what has ended by then, and reads a token. -/
def step (lines : Nat) (l : Lexer) : Step := do
  let l ← (skipBlanks lines l).dropStale
  (l.unwindTo l.column).token

/-- Reads tokens up to the end of the text. Every token but the last takes a character, so that the
fuel bounds the lines that are left, too. -/
def run : Nat → Lexer → Except Fault (Array Token)
  | 0, l => .ok l.tokens
  | fuel + 1, l => do
    let l ← l.step (fuel + 1)
    if l.tokens.back? == some .textEnd then return l.tokens else run fuel l

end Lexer

/-- The tokens of a text. -/
def tokens (s : String) : Except Fault (Array Token) := do
  let s := s.toList
  if !s.all isAllowed then .error .malformed
  else
    let start : Cursor := ⟨s, 0, 0, 0⟩
    let start := if s.head?.any (·.toNat == 0xFEFF) then start.next else start
    Lexer.run (s.length + 2) { cursor := start }

end DocAtlas.Yaml
