import DocAtlas.Braced.Parser.Type

/-!
Reading of elements of markup.
-/
namespace DocAtlas.Braced.Parser
open Reader

variable (self : Reach)

/-- The end of a word that may hold hyphens. -/
def hyphened? (s : Array Char) (i : Nat) : Option Nat :=
  (Lexeme.word? s i).map (Lexeme.skipWhile s (fun c => isWordRest c || c == '-') s.size)

/-- The name of an element: with dots, or with a colon. -/
def elementName : Reader Tree := do
  let i ← start
  let first ← leaf .identifier hyphened?
  if ← sign? ":" then node .other i [first, ← leaf .identifier hyphened?]
  else if ← sees "." then
    let parts ← upTo (return !(← sees ".")) (do
      sign "."
      return [← name .identifier])
    node .other i (first :: parts)
  else return first

/-- The end of a text between quotes without escapes. -/
def attributeText? (s : Array Char) (i : Nat) : Option Nat :=
  match s[i]? with
  | some c =>
    if c == '"' || c == '\'' then
      let j := Lexeme.skipWhile s (· != c) s.size (i + 1)
      if j < s.size then some (j + 1) else none
    else none
  | none => none

/-- Expressions in braces, which may be missing or spread out. -/
def embedded : Reader Tree := do
  let i ← start
  sign "\x7b"
  if ← sign? "\x7d" then node .other i []
  else
    discard (sign? "...")
    let e ← self (.expressions {})
    sign "\x7d"
    node .other i [e]

def attributeValue : Reader Tree := do
  match ← next? with
  | some '\x7b' => embedded self
  | some '<' => self .element
  | _ => leaf .string attributeText?

def markAttribute : Reader Tree := do
  let i ← start
  if ← sees "\x7b" then embedded self
  else
    let n ← leaf .propertyName hyphened?
    discard (if ← sign? ":" then (do discard (leaf .propertyName hyphened?)) else pure ())
    if ← sign? "=" then node .other i [n, ← attributeValue self] else return n

/-- Moves past plain text. -/
def plainText : Reader Unit := fun s i =>
  let isPlain (c : Char) : Bool := !(['<', '>', '\x7b', '\x7d'].contains c)
  some ((), Lexeme.skipWhile s.chars isPlain s.chars.size i)

/-- What stands inside an element, up to its closing mark. -/
def content : Reader (List Tree) := upTo (do plainText; sees "</") (do
  if ← sees "\x7b" then return [← embedded self] else return [← self .element])

def element : Reader Tree := do
  let i ← start
  sign "<"
  if ← sign? ">" then
    let inner ← content self
    sign "</"
    sign ">"
    node .other i inner
  else
    let n ← elementName
    let types ← if (← typed) && (← sees "<") then pure [← typeArguments self] else pure []
    let attributes ← upTo (return (← sees ">") || (← sees "/>")) (return [← markAttribute self])
    if ← sign? "/>" then node .other i (n :: types ++ attributes)
    else
      sign ">"
      let inner ← content self
      sign "</"
      let closing ← elementName
      sign ">"
      node .other i (n :: types ++ attributes ++ inner ++ [closing])

end DocAtlas.Braced.Parser
