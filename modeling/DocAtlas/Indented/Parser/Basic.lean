import DocAtlas.Indented.Syntax

/-!
Reading of lexemes one after the other. A reader gives up or yields a value and moves on; what a
reader may call in turn is given by a `Goal`.
-/
namespace DocAtlas.Indented

/-- A reader of lexemes; the state is the index of the next one. -/
abbrev Reader (α : Type) : Type := ReaderT (Array Lexeme) (StateT Nat Option) α

/-- What can be read at some place. -/
inductive Goal : Type → Type 1 where
  | expression : Goal Term
  /-- An expression that may be given a name. -/
  | named : Goal Term
  | disjunction : Goal Term
  | inversion : Goal Term
  /-- An expression without comparisons. -/
  | sum : Goal Term
  | factor : Goal Term
  | yielding : Goal Term
  | pattern : Goal Node
  | block : Goal (List Statement)
  | statement : Goal (List Statement)
  /-- What follows the word `if`. -/
  | branch : Goal Statement

/-- A way to reach any goal. -/
abbrev Reach : Type 1 := {α : Type} → Goal α → Reader α

namespace Reader

/-- The lexeme `k` places ahead. -/
def ahead (k : Nat) : Reader (Option Lexeme) := fun lexemes i => some (lexemes[i + k]?, i)

def token? (k : Nat) : Reader (Option Token) := return (← ahead k).map Lexeme.token

def spot : Reader Spot := return ((← ahead 0).map Lexeme.spot).getD ⟨0, 0⟩

def skip : Reader Unit := fun _ i => some ((), i + 1)

def isSymbol (s : String) : Option Token → Bool
  | some (.symbol t) => s == t
  | _ => false

def isKeyword (s : String) : Option Token → Bool
  | some (.keyword t) => s == t
  | _ => false

def isWord (s : String) : Option Token → Bool
  | some (.word t) => s == t
  | _ => false

/-- Moves past the next lexeme if it satisfies `p`. -/
def take (p : Option Token → Bool) : Reader Bool := do
  if p (← token? 0) then
    skip
    return true
  else return false

def check (b : Bool) : Reader Unit := if b then pure () else failure

def symbol? (s : String) : Reader Bool := take (isSymbol s)

def keyword? (s : String) : Reader Bool := take (isKeyword s)

def symbol (s : String) : Reader Unit := do check (← symbol? s)

def keyword (s : String) : Reader Unit := do check (← keyword? s)

def seesSymbol (s : String) : Reader Bool := return isSymbol s (← token? 0)

def seesKeyword (s : String) : Reader Bool := return isKeyword s (← token? 0)

def word : Reader String := do
  match ← token? 0 with
  | some (.word text) => skip; return text
  | _ => failure

def lineEnd : Reader Unit := do
  match ← token? 0 with
  | some .lineEnd => skip
  | _ => failure

/-- Repeats a step until it has no further state; it cannot take more steps than there are lexemes.
-/
def iterate {σ : Type} (step : σ → Reader (σ × Bool)) (s : σ) : Reader σ :=
  fun lexemes i => run lexemes.size s lexemes i
where
  run : Nat → σ → Reader σ
    | 0, s => pure s
    | fuel + 1, s => do
      let (s, more) ← step s
      if more then run fuel s else pure s

/-- Items read as long as `more` holds, at least one. -/
def many {α : Type} (item : Reader α) (more : Reader Bool) : Reader (List α) := do
  let found ← iterate (fun found => do
    let found := (← item) :: found
    return (found, ← more)) []
  return found.reverse

/-- Items with commas between them; a comma may follow the last one if `starts` does not hold after
it. The answer says whether there is such a comma. -/
def commaList {α : Type} (item : Reader α) (starts : Reader Bool) : Reader (List α × Bool) := do
  let (found, final) ← iterate (fun (found, _) => do
    let found := (← item) :: found
    if ← symbol? "," then
      if ← starts then return ((found, false), true) else return ((found, true), false)
    else return ((found, false), false)) ([], false)
  return (found.reverse, final)

end Reader

end DocAtlas.Indented
