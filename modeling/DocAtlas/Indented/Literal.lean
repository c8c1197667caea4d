import DocAtlas.Text.CharSet
import DocAtlas.Text.Case
import DocAtlas.Text.Identifier
import DocAtlas.Indented.Token

/-!
Quoted literals: where they end, and the values of their escapes. Values are lists of code points,
which need not be characters, or of bytes.
-/
namespace DocAtlas.Indented.Literal
open Text

/-- What the letters before a quote say. -/
structure Form where
  raw : Bool := false
  bytes : Bool := false
  formatted : Bool := false
  /-- Marked as a text. -/
  marked : Bool := false
  /-- Marked as a text by a small letter. -/
  shown : Bool := false

/-- Adds a letter to a form; no letter may occur twice, and only raw goes with others. -/
def Form.add? (f : Form) (c : Char) : Option Form :=
  let c' := Case.lowerAscii c
  if c' == 'b' && !f.bytes && !f.marked && !f.formatted then some { f with bytes := true }
  else if c' == 'u' && !f.bytes && !f.marked && !f.raw && !f.formatted then
    some { f with marked := true, shown := c == 'u' }
  else if c' == 'r' && !f.raw && !f.marked then some { f with raw := true }
  else if c' == 'f' && !f.formatted && !f.bytes && !f.marked then some { f with formatted := true }
  else none

/-- The form given by the letters before a quote, the quote, and what follows the letters; `none` if
no literal begins here. -/
def form? : Form → List Glyph → Option (Form × Char × List Glyph)
  | _, [] => none
  | f, g :: rest =>
    if g.char == '"' || g.char == '\'' then some (f, g.char, g :: rest)
    else (f.add? g.char).bind fun f => form? f rest

/-- Splits at an unescaped run of `size` quotes; `run` counts the quotes before this place. A short
literal ends with its line. -/
def body? (quote : Char) (size : Nat) :
    Nat → List Glyph → List Glyph → Option (List Glyph × List Glyph)
  | _, _, [] => none
  | run, seen, g :: rest =>
    if g.char == quote then
      if run + 1 = size then some ((seen.drop run).reverse, rest)
      else body? quote size (run + 1) (g :: seen) rest
    else if size = 1 && g.char == '\n' then none
    else if g.char == '\\' then
      match rest with
      | [] => none
      | e :: rest => body? quote size 0 (e :: g :: seen) rest
    else body? quote size 0 (g :: seen) rest

/-- The text between quotes, one or three of them, and what follows. -/
def between? (quote : Char) (s : List Glyph) : Option (List Glyph × List Glyph) :=
  match s with
  | a :: b :: c :: rest =>
    if a.char == quote && b.char == quote && c.char == quote then body? quote 3 0 [] rest
    else if a.char == quote && b.char == quote then some ([], c :: rest)
    else body? quote 1 0 [] (b :: c :: rest)
  | [a, b] => if a.char == quote && b.char == quote then some ([], []) else none
  | _ => none

def isOctal (c : Char) : Bool := '0' ≤ c && c ≤ '7'

def octalValue (s : List Char) : Nat := s.foldl (fun n c => 8 * n + (c.toNat - '0'.toNat)) 0

/-- The value of an escape of one character. -/
def simple? (c : Char) : Option (List Nat) :=
  match c with
  | '\n' => some []
  | '\\' | '\'' | '"' => some [c.toNat]
  | 'a' => some [7]
  | 'b' => some [8]
  | 't' => some [9]
  | 'n' => some [10]
  | 'v' => some [11]
  | 'f' => some [12]
  | 'r' => some [13]
  | _ => none

/-- Exactly `n` hexadecimal digits and what follows them. -/
def hex? (n : Nat) (s : List Char) : Option (Nat × List Char) :=
  let digits := s.take n
  if digits.length = n && digits.all fun c => (hexDigit? c).isSome then
    some (hexValue digits, s.drop n)
  else none

/-- How many digits follow the letter of a numeric escape. -/
def hexSize? (bytes : Bool) (c : Char) : Option Nat :=
  if c == 'x' then some 2
  else if bytes then none
  else if c == 'u' then some 4
  else if c == 'U' then some 8
  else none

/-- The value of the escape after a backslash, and what follows it; `none` if it is faulty. -/
def escape? (bytes : Bool) (named : List Char → Option Nat) (c : Char) (rest : List Char) :
    Option (List Nat × List Char) :=
  match simple? c with
  | some value => some (value, rest)
  | none =>
    if isOctal c then
      let digits := c :: (rest.take 2).takeWhile isOctal
      let value := octalValue digits
      some ([if bytes then value % 256 else value], rest.drop (digits.length - 1))
    else
      match hexSize? bytes c with
      | some size => do
        let (value, rest) ← hex? size rest
        if value < 0x110000 then some ([value], rest) else none
      | none =>
        if c == 'N' && !bytes then
          match rest with
          | '\x7b' :: rest =>
            let name := rest.takeWhile (· != '\x7d')
            match rest.drop name.length with
            | _ :: rest => (named name).map fun value => ([value], rest)
            | [] => none
          | _ => none
        else some (['\\'.toNat, c.toNat], rest)

/-- Reads the escapes of a text; a backslash at its end stands for itself. -/
def unescape? (bytes : Bool) (named : List Char → Option Nat) :
    Nat → List Char → Option (List Nat)
  | _, [] => some []
  | 0, _ => none
  | _ + 1, ['\\'] => some ['\\'.toNat]
  | fuel + 1, '\\' :: c :: rest => do
    let (value, rest) ← escape? bytes named c rest
    return value ++ (← unescape? bytes named fuel rest)
  | fuel + 1, c :: rest => (unescape? bytes named fuel rest).map (c.toNat :: ·)

/-- The value of the text between quotes; bytes are written in ASCII. -/
def value? (named : List Char → Option Nat) (f : Form) (s : List Char) : Option (List Nat) :=
  if f.bytes && s.any (128 ≤ ·.toNat) then none
  else if f.raw then some (s.map Char.toNat)
  else unescape? f.bytes named s.length s

end DocAtlas.Indented.Literal
