import DocAtlas.Text.CharSet
import DocAtlas.Text.Identifier

/-!
The smallest pieces of sources whose blocks stand in braces: blanks and comments, words, numbers,
and what stands between quotes. Each function tells where a piece that begins at `i` ends.
-/
namespace DocAtlas.Braced
open Text

/-- The code points that separate words. -/
def isSpace (c : Char) : Bool :=
  let n := c.toNat
  (9 ≤ n && n ≤ 13) || n == 0x20 || n == 0xA0 || n == 0x1680 || (0x2000 ≤ n && n ≤ 0x200B) ||
    n == 0x2028 || n == 0x2029 || n == 0x202F || n == 0x205F || n == 0x2060 || n == 0x3000 ||
    n == 0xFEFF

/-- Letters of all scripts and whatever else is neither a blank, a control nor a sign of ASCII. -/
def isWordStart (c : Char) : Bool :=
  if c.toNat < 128 then isAsciiLetter c || c == '_' || c == '$' || c.toNat == 127 else !isSpace c

def isWordRest (c : Char) : Bool := isWordStart c || isAsciiDigit c

namespace Lexeme

/-- The first place from `i` on whose character does not satisfy `p`. -/
def skipWhile (s : Array Char) (p : Char → Bool) : Nat → Nat → Nat
  | 0, i => i
  | fuel + 1, i => if s[i]?.any p then skipWhile s p fuel (i + 1) else i

def spaces (s : Array Char) (i : Nat) : Nat := skipWhile s isSpace s.size i

def matchesAt (s : Array Char) (text : List Char) (i : Nat) : Bool :=
  match text with
  | [] => true
  | c :: rest => s[i]? == some c && matchesAt s rest (i + 1)

def startsAt (s : Array Char) (text : String) (i : Nat) : Bool := matchesAt s text.toList i

/-- The place after the first `text` from `i` on. -/
def findEnd? (s : Array Char) (text : String) : Nat → Nat → Option Nat
  | 0, _ => none
  | fuel + 1, i =>
    if startsAt s text i then some (i + text.length)
    else if i < s.size then findEnd? s text fuel (i + 1)
    else none

/-- The end of a comment. -/
def comment? (s : Array Char) (i : Nat) : Option Nat :=
  if startsAt s "//" i then some (skipWhile s (· != '\n') s.size i)
  else if startsAt s "/*" i then findEnd? s "*/" (s.size + 1) (i + 2)
  else none

/-- The place after blanks and comments. -/
def gap (s : Array Char) : Nat → Nat → Nat
  | 0, i => i
  | fuel + 1, i =>
    let j := spaces s i
    match comment? s j with
    | some k => gap s fuel k
    | none => j

def skipGap (s : Array Char) (i : Nat) : Nat := gap s (s.size + 1) i

def hexDigits (s : Array Char) (i : Nat) : Nat :=
  skipWhile s (fun c => (hexDigit? c).isSome) s.size i

/-- An escaped character after the letter `u`: four digits, or any number of them in braces. -/
def codePoint? (s : Array Char) (i : Nat) : Option Nat :=
  if s[i]? == some '\x7b' then
    let j := hexDigits s (i + 1)
    if i + 1 < j && s[j]? == some '\x7d' then some (j + 1) else none
  else if i + 4 ≤ hexDigits s i then some (i + 4)
  else none

/-- A character of a word, which may be escaped. -/
def wordChar? (s : Array Char) (p : Char → Bool) (i : Nat) : Option Nat :=
  match s[i]? with
  | some '\\' => if s[i + 1]? == some 'u' then codePoint? s (i + 2) else none
  | some c => if p c then some (i + 1) else none
  | none => none

def wordRest (s : Array Char) : Nat → Nat → Nat
  | 0, i => i
  | fuel + 1, i =>
    match wordChar? s isWordRest i with
    | some j => wordRest s fuel j
    | none => i

def word? (s : Array Char) (i : Nat) : Option Nat :=
  (wordChar? s isWordStart i).map (wordRest s s.size)

/-- Digits with single underscores between them. -/
def digits (s : Array Char) (p : Char → Bool) : Nat → Nat → Nat
  | 0, i => i
  | fuel + 1, i =>
    let j := skipWhile s p s.size i
    if i < j && s[j]? == some '_' && s[j + 1]?.any p then digits s p fuel (j + 1) else j

def decimals (s : Array Char) (i : Nat) : Nat := digits s isAsciiDigit s.size i

def isBasedDigit (base : Nat) (c : Char) : Bool := (hexDigit? c).any (· < base)

def base? (c : Char) : Option Nat :=
  if c == 'x' || c == 'X' then some 16
  else if c == 'o' || c == 'O' then some 8
  else if c == 'b' || c == 'B' then some 2
  else none

def exponent (s : Array Char) (i : Nat) : Nat :=
  if s[i]? == some 'e' || s[i]? == some 'E' then
    let j := if s[i + 1]? == some '+' || s[i + 1]? == some '-' then i + 2 else i + 1
    let k := decimals s j
    if j < k then k else i
  else i

def bigEnd (s : Array Char) (i : Nat) : Nat := if s[i]? == some 'n' then i + 1 else i

def number? (s : Array Char) (i : Nat) : Option Nat :=
  if s[i]? == some '.' then
    let j := decimals s (i + 1)
    if i + 1 < j then some (exponent s j) else none
  else if s[i]?.any isAsciiDigit then
    match if s[i]? == some '0' then s[i + 1]?.bind base? else none with
    | some base =>
      let j := digits s (isBasedDigit base) s.size (i + 2)
      if i + 2 < j then some (bigEnd s j) else some (i + 1)
    | none =>
      let j := decimals s i
      if s[j]? == some '.' then some (exponent s (decimals s (j + 1)))
      else
        let k := exponent s j
        some (if k = j then bigEnd s j else k)
  else none

def isOctal (c : Char) : Bool := '0' ≤ c && c ≤ '7'

/-- The end of an escape, given the place after its backslash. -/
def escape? (s : Array Char) (i : Nat) : Option Nat :=
  match s[i]? with
  | none => none
  | some 'x' => if i + 3 ≤ hexDigits s (i + 1) then some (i + 3) else none
  | some 'u' => codePoint? s (i + 1)
  | some '\r' => some (if s[i + 1]? == some '\n' then i + 2 else i + 1)
  | some c => some (if isOctal c then min (i + 3) (skipWhile s isOctal 3 i) else i + 1)

/-- The end of a text on one line, given the place after its first quote. -/
def quoted? (s : Array Char) (quote : Char) : Nat → Nat → Option Nat
  | 0, _ => none
  | fuel + 1, i =>
    match s[i]? with
    | none => none
    | some c =>
      if c == quote then some (i + 1)
      else if c == '\\' then (escape? s (i + 1)).bind (quoted? s quote fuel)
      else if c == '\n' || c == '\r' then none
      else quoted? s quote fuel (i + 1)

def string? (s : Array Char) (i : Nat) : Option Nat :=
  match s[i]? with
  | some c => if c == '"' || c == '\'' then quoted? s c (s.size + 1) (i + 1) else none
  | none => none

/-- The end of a regular expression without its flags; slashes between square brackets do not end
it. -/
def regexBody? (s : Array Char) : Nat → Bool → Nat → Option Nat
  | 0, _, _ => none
  | fuel + 1, bracketed, i =>
    match s[i]? with
    | none => none
    | some c =>
      if c == '\n' then none
      else if c == '\\' then
        if s[i + 1]?.any (· != '\n') then regexBody? s fuel bracketed (i + 2) else none
      else if bracketed then regexBody? s fuel (c != ']') (i + 1)
      else if c == '/' then some (i + 1)
      else regexBody? s fuel (c == '[') (i + 1)

def isSmallLetter (c : Char) : Bool := 'a' ≤ c && c ≤ 'z'

def regex? (s : Array Char) (i : Nat) : Option Nat :=
  if s[i]? == some '/' && s[i + 1]?.any (fun c => c != '/' && c != '*') then
    (regexBody? s (s.size + 1) false (i + 1)).map (skipWhile s isSmallLetter s.size)
  else none

/-- The end of a plain part of a template: after its last quote, or after the opening of a
substitution. The flag tells which of them. -/
def templatePart? (s : Array Char) : Nat → Nat → Option (Bool × Nat)
  | 0, _ => none
  | fuel + 1, i =>
    match s[i]? with
    | none => none
    | some c =>
      if c.toNat == 96 then some (true, i + 1)
      else if c == '$' && s[i + 1]? == some '\x7b' then some (false, i + 2)
      else if c == '\\' then (escape? s (i + 1)).bind (templatePart? s fuel)
      else templatePart? s fuel (i + 1)

/-! ### Semicolons that may be left out -/

/-- The signs that go on an expression on the next line. -/
def goesOn (c : Char) : Bool :=
  c.toNat == 96 ||
    [',', '.', ':', ';', '*', '%', '>', '<', '=', '[', '(', '?', '^', '|', '&', '/'].contains c

def isLetter (c : Option Char) : Bool := c.any isAsciiLetter

/-- Whether the word at `i` is one of the operators that are words. -/
def isWordOperator (s : Array Char) (i : Nat) : Bool :=
  (startsAt s "in" i && !isLetter s[i + 2]?) || (startsAt s "instanceof" i && !isLetter s[i + 10]?)

/-- Whether a new line that begins at `i` begins a new statement. -/
def opensStatement (s : Array Char) (i : Nat) : Bool :=
  match s[i]? with
  | none => true
  | some c =>
    if goesOn c then false
    else if c == '+' || c == '-' then s[i + 1]? == some c
    else if c == '!' then s[i + 1]? != some '='
    else !isWordOperator s i

/-- Whether a statement may end at `i` without a semicolon: before a closing brace, at the end, and
before a line that begins a new one. -/
def mayEnd (s : Array Char) (i : Nat) : Bool :=
  let j := skipWhile s (fun c => isSpace c && c != '\n') s.size i
  match s[j]? with
  | none => true
  | some c =>
    if c == '\x7d' then true
    else if c == '\n' then opensStatement s (skipGap s (j + 1))
    else false

/-- The place where a statement that has been read up to `i` ends without a semicolon; comments on
its line belong to it. -/
def autoEnd? (s : Array Char) : Nat → Nat → Option Nat
  | 0, _ => none
  | fuel + 1, i =>
    if mayEnd s i then some i else (comment? s (spaces s i)).bind (autoEnd? s fuel)

/-- The place where a statement that has been read up to `i` ends. -/
def statementEnd? (s : Array Char) : Nat → Nat → Option Nat
  | 0, _ => none
  | fuel + 1, i =>
    if mayEnd s i then some i
    else
      let j := spaces s i
      if s[j]? == some ';' then some (j + 1) else (comment? s j).bind (statementEnd? s fuel)

end Lexeme

end DocAtlas.Braced
