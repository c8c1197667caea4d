import DocAtlas.Text.Printable

/-!
Quoted texts as messages show them: single quotes unless only those occur, and escapes for what
cannot be printed.
-/
namespace DocAtlas.Text.Quoted

/-- The last `n` hexadecimal digits of a number. -/
def hexDigits : Nat → Nat → List Char
  | 0, _ => []
  | n + 1, v => hexDigits n (v / 16) ++ [Nat.digitChar (v % 16)]

def escape (quote c : Char) : List Char :=
  if c == '\\' then ['\\', '\\']
  else if c == quote then ['\\', c]
  else if c == '\n' then ['\\', 'n']
  else if c == '\r' then ['\\', 'r']
  else if c == '\t' then ['\\', 't']
  else if isPrintable c then [c]
  else if c.toNat < 0x100 then ['\\', 'x'] ++ hexDigits 2 c.toNat
  else if c.toNat < 0x10000 then ['\\', 'u'] ++ hexDigits 4 c.toNat
  else ['\\', 'U'] ++ hexDigits 8 c.toNat

/-- Double quotes are used if single quotes occur in the text and double ones do not. -/
def quoteFor (s : List Char) : Char := if s.contains '\'' && !s.contains '"' then '"' else '\''

def encode (s : List Char) : List Char :=
  let quote := quoteFor s
  quote :: s.flatMap (escape quote) ++ [quote]

end DocAtlas.Text.Quoted

namespace DocAtlas

def quoted (s : String) : String := String.ofList (Text.Quoted.encode s.toList)

/-- Texts in parentheses; a single one is followed by a comma. -/
def quotedTuple : List String → String
  | [one] => "(" ++ quoted one ++ ",)"
  | many => "(" ++ String.intercalate ", " (many.map quoted) ++ ")"

end DocAtlas
