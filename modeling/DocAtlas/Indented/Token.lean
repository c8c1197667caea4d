/-!
Tokens of sources whose blocks are given by indentation.
-/
namespace DocAtlas.Indented

/-- A place in a source: the number of its line, and the number of bytes before it on that line. -/
structure Spot where
  line : Nat
  column : Nat
deriving DecidableEq

/-- A character and where it stands. -/
structure Glyph where
  char : Char
  spot : Spot

/-- The place after a character. -/
def Spot.after (s : Spot) (c : Char) : Spot :=
  if c == '\n' then ⟨s.line + 1, 0⟩ else ⟨s.line, s.column + c.utf8Size⟩

/-- The characters of a text with their places, where `s` is that of the first one. -/
def Glyph.ofText (s : Spot) (text : List Char) : List Glyph :=
  (text.foldl (fun (found, s) c => (⟨c, s⟩ :: found, s.after c)) (([] : List Glyph), s)).1.reverse

inductive Number where
  | integer (value : Nat)
  | real (value : Float)
  | imaginary (value : Float)

/-- Quoted values are lists of numbers: code points, which need not be characters, or bytes. -/
inductive Token where
  | word (text : String)
  | keyword (text : String)
  | symbol (text : String)
  | number (value : Number)
  /-- A quoted text; `marked` if it is marked as a text. -/
  | text (value : List Nat) (marked : Bool)
  | bytes (value : List Nat)
  /-- Texts and fields of a formatted text follow, up to `endFormatted`. -/
  | formatted
  | endFormatted
  /-- A bracketed expression follows, then `conversion`, then perhaps a formatted text for the
  layout. -/
  | field
  | conversion (letter : Option Char)
  | lineEnd
  | indent
  | dedent
  | sourceEnd

structure Lexeme where
  token : Token
  spot : Spot

def keywords : List String :=
  ["False", "None", "True", "and", "as", "assert", "async", "await", "break", "class", "continue",
    "def", "del", "elif", "else", "except", "finally", "for", "from", "global", "if", "import",
    "in", "is", "lambda", "nonlocal", "not", "or", "pass", "raise", "return", "try", "while",
    "with", "yield"]

/-- Symbols, the longer ones first. -/
def symbols : List String :=
  ["**=", "//=", ">>=", "<<=", "...", "->", ":=", "**", "//", "<<", ">>", "<=", ">=", "==", "!=",
    "+=", "-=", "*=", "/=", "%=", "&=", "|=", "^=", "@=", "(", ")", "[", "]", "\x7b", "\x7d", "%",
    "&", "*", "+", ",", "-", ".", "/", ":", ";", "<", "=", ">", "@", "^", "|", "~"]

end DocAtlas.Indented
