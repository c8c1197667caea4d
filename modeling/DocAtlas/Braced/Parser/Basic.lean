import DocAtlas.Braced.Lexeme
import DocAtlas.Braced.Tree

/-!
Reading of sources from left to right. A reader gives up or yields a tree and moves on; what a
reader may call in turn is given by a `Goal`.
-/
namespace DocAtlas.Braced

/-- A source, and which parts of the language may occur in it: types, and elements of markup. -/
structure Source where
  chars : Array Char
  typed : Bool
  markup : Bool

/-- The state is the place after what has been read. -/
abbrev Reader (α : Type) : Type := ReaderT Source (StateT Nat Option) α

/-- How an expression may go on. -/
structure Mode where
  /-- A new line may end it. -/
  breaks : Bool := false
  /-- It may be a pattern instead. -/
  cover : Bool := false
  /-- Functions in it may say what they return. -/
  arrows : Bool := true

inductive Goal where
  /-- One expression. -/
  | expression (m : Mode)
  /-- Expressions with commas. -/
  | expressions (m : Mode)
  | operand (m : Mode)
  /-- What `new` stands before: an operand that is not called. -/
  | constructed (m : Mode)
  /-- What a class can extend: an expression without signs before it or between its parts. -/
  | parent
  | binding
  | block
  | statement
  | declaration
  | classBody
  | type
  /-- A type without a condition. -/
  | simpleType
  /-- A type without signs between its parts. -/
  | baseType
  | element

abbrev Reach : Type := Goal → Reader Tree

namespace Reader

def source : Reader Source := fun s i => some (s, i)

def place : Reader Nat := fun _ i => some (i, i)

def moveTo (i : Nat) : Reader Unit := fun _ _ => some ((), i)

/-- Where the next piece begins. -/
def start : Reader Nat := fun s i => some (Lexeme.skipGap s.chars i, i)

/-- The next character after blanks and comments. -/
def next? : Reader (Option Char) := fun s i => some (s.chars[Lexeme.skipGap s.chars i]?, i)

def check (b : Bool) : Reader Unit := if b then pure () else failure

def given {α : Type} (a : Option α) : Reader α := fun _ i => a.map (·, i)

def typed : Reader Bool := return (← source).typed

/-- Whether `text` comes next. -/
def sees (text : String) : Reader Bool := fun s i =>
  some (Lexeme.startsAt s.chars text (Lexeme.skipGap s.chars i), i)

/-- Moves past `text` if it comes next. -/
def sign? (text : String) : Reader Bool := fun s i =>
  let j := Lexeme.skipGap s.chars i
  if Lexeme.startsAt s.chars text j then some (true, j + text.length) else some (false, i)

def sign (text : String) : Reader Unit := do check (← sign? text)

/-- The word that comes next. -/
def nextWord? : Reader (Option String) := fun s i =>
  let j := Lexeme.skipGap s.chars i
  match Lexeme.word? s.chars j with
  | some k => some (some (String.ofList (s.chars.extract j k).toList), i)
  | none => some (none, i)

def seesWord (text : String) : Reader Bool := return (← nextWord?) == some text

def seesAnyWord : Reader Bool := return (← nextWord?).isSome

/-- Moves past the next word. -/
def skipWord : Reader Unit := fun s i =>
  (Lexeme.word? s.chars (Lexeme.skipGap s.chars i)).map fun k => ((), k)

def word? (text : String) : Reader Bool := do
  if ← seesWord text then
    skipWord
    return true
  else return false

def word (text : String) : Reader Unit := do check (← word? text)

/-- The result of a reader without moving on; `none` if it gives up. -/
def ahead {α : Type} (r : Reader α) : Reader (Option α) := fun s i =>
  match r s i with
  | some (a, _) => some (some a, i)
  | none => some (none, i)

/-- The result of a reader, which moves on unless it gives up. -/
def attempt {α : Type} (r : Reader α) : Reader (Option α) := fun s i =>
  match r s i with
  | some (a, j) => some (some a, j)
  | none => some (none, i)

/-- The first reader that does not give up. -/
def orElse {α : Type} (a b : Reader α) : Reader α := fun s i =>
  match a s i with
  | some r => some r
  | none => b s i

/-- A node that begins at `i` and ends here. -/
def node (kind : Kind) (i : Nat) (children : List Tree) : Reader Tree :=
  return .node kind .plain i (← place) children

/-- A node without children, read by a function that tells where it ends. -/
def leaf (kind : Kind) (f : Array Char → Nat → Option Nat) : Reader Tree := fun s i =>
  let j := Lexeme.skipGap s.chars i
  (f s.chars j).map fun k => (.node kind .plain j k [], k)

def name (kind : Kind) : Reader Tree := leaf kind Lexeme.word?

def string : Reader Tree := leaf .string Lexeme.string?

/-- Repeats a step until it has no further state; it cannot take more steps than there are
characters. -/
def iterate {σ : Type} (step : σ → Reader (σ × Bool)) (s : σ) : Reader σ :=
  fun src i => run (src.chars.size + 1) s src i
where
  run : Nat → σ → Reader σ
    | 0, s => pure s
    | fuel + 1, s => do
      let (s, more) ← step s
      if more then run fuel s else pure s

/-- Trees read until `done` holds. -/
def upTo (done : Reader Bool) (item : Reader (List Tree)) : Reader (List Tree) := do
  let found ← iterate (fun found => do
    if ← done then return (found, false) else return ((← item).reverse ++ found, true)) []
  return found.reverse

/-- Items with commas between them up to a closing sign, which is passed. Items may be left out if
`holes` holds; a comma may follow the last one. -/
def commaList (closing : String) (holes : Bool) (item : Reader Tree) : Reader (List Tree) := do
  let found ← iterate (fun found => do
    if ← sign? closing then return (found, false)
    else if ← (if holes then sees "," else pure false) then
      sign ","
      return (found, true)
    else
      let found := (← item) :: found
      if ← sign? "," then return (found, true)
      else
        sign closing
        return (found, false)) []
  return found.reverse

/-- At least one item, with commas between them. -/
def someCommas (item : Reader Tree) : Reader (List Tree) := do
  let found ← iterate (fun found => do
    let found := (← item) :: found
    return (found, ← sign? ",")) []
  return found.reverse

/-- The end of a statement. -/
def semicolon : Reader Unit := fun s i =>
  (Lexeme.statementEnd? s.chars (s.chars.size + 1) i).map fun j => ((), j)

/-- Takes the comments on the line of a declaration if they end it. -/
def optionalEnd : Reader Unit := fun s i =>
  some ((), (Lexeme.autoEnd? s.chars (s.chars.size + 1) i).getD i)

/-- Whether an expression goes on here; a new line may end it. -/
def goesOn (m : Mode) : Reader Bool := fun s i =>
  some (!m.breaks || (Lexeme.autoEnd? s.chars (s.chars.size + 1) i).isNone, i)

/-- Whether the next piece stands on the same line. -/
def onLine : Reader Bool := fun s i =>
  some (!(s.chars.extract i (Lexeme.skipGap s.chars i)).contains '\n', i)

end Reader

end DocAtlas.Braced
