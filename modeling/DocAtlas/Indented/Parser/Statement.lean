import DocAtlas.Indented.Parser.Pattern

/-!
Reading of statements, and of whole sources.
-/
namespace DocAtlas.Indented.Parser
open Reader

variable (self : Reach)

/-! ### Simple statements -/

def yieldOrItems : Reader Term := do
  if ← seesKeyword "yield" then self .yielding else starredExpressions self

def augmentations : List String :=
  ["+=", "-=", "*=", "@=", "/=", "%=", "&=", "|=", "^=", "<<=", ">>=", "**=", "//="]

def seesAugmentation : Reader Bool := do
  match ← token? 0 with
  | some (.symbol s) => return augmentations.contains s
  | _ => return false

/-- The values after equals signs; all but the last are targets too. -/
def assigned (first : Term) : Reader Statement := do
  let values ← many (do symbol "="; yieldOrItems self) (seesSymbol "=")
  let targets := first :: values.dropLast
  check (targets.all Term.isTarget)
  return .assign targets (values.getLast?.getD first)

/-- An expression, or an assignment to it. -/
def expressionStatement : Reader Statement := do
  if ← seesKeyword "yield" then return .expression (← self .yielding)
  else
    let t ← starredExpressions self
    if ← seesSymbol "=" then assigned self t
    else if ← symbol? ":" then
      check t.isPlace
      let type ← self .expression
      let value ← if ← symbol? "=" then some <$> yieldOrItems self else pure none
      return .annotate t type value
    else if ← seesAugmentation then
      check t.isPlace
      skip
      return .other [.term t, .term (← yieldOrItems self)]
    else return .expression t

def dottedName : Reader String :=
  return String.intercalate "." (← many word (symbol? "."))

def renamed (name : Reader String) : Reader Alias := do
  let name ← name
  if ← keyword? "as" then return ⟨name, some (← word)⟩ else return ⟨name, none⟩

def importModules : Reader Statement :=
  return .importModules (← many (renamed dottedName) (symbol? ","))

def seesWord : Reader Bool := do
  match ← token? 0 with
  | some (.word _) => return true
  | _ => return false

/-- The names after the word `import`; a comma at the end needs parentheses. -/
def importedNames : Reader (List Alias) := do
  if ← symbol? "*" then return [⟨"*", none⟩]
  else if ← symbol? "(" then
    let (names, _) ← commaList (renamed word) seesWord
    symbol ")"
    return names
  else many (renamed word) (symbol? ",")

/-- The number of dots, some of which may be written as an ellipsis. -/
def dots : Reader Nat :=
  iterate (fun n => do
    if ← symbol? "." then return (n + 1, true)
    else if ← symbol? "..." then return (n + 3, true)
    else return (n, false)) 0

def importNames : Reader Statement := do
  let level ← dots
  let source ← if 0 < level && (← seesKeyword "import") then pure "" else dottedName
  keyword "import"
  return .importNames level source (← importedNames)

def terms : List Term → Statement := fun ts => .other (Node.terms ts)

def delete : Reader Statement := do
  let (targets, _) ← commaList (self .sum) seesExpression
  check (targets.all Term.isDeletable)
  return terms targets

def raise : Reader Statement := do
  if ← seesExpression then
    let what ← self .expression
    if ← keyword? "from" then return terms [what, ← self .expression] else return terms [what]
  else return terms []

def assertion : Reader Statement := do
  let test ← self .expression
  if ← symbol? "," then return terms [test, ← self .expression] else return terms [test]

def declared : Reader Statement := do
  discard (many word (symbol? ","))
  return terms []

def returned : Reader Statement := do
  if ← seesItem then return terms [← starredExpressions self] else return terms []

def simpleStatement : Reader Statement := do
  match ← token? 0 with
  | some (.keyword k) =>
    match k with
    | "pass" | "break" | "continue" => skip; return terms []
    | "return" => skip; returned self
    | "raise" => skip; raise self
    | "global" | "nonlocal" => skip; declared
    | "del" => skip; delete self
    | "assert" => skip; assertion self
    | "import" => skip; importModules
    | "from" => skip; importNames
    | _ => expressionStatement self
  | _ => expressionStatement self

def seesLineEnd : Reader Bool := do
  match ← token? 0 with
  | some .lineEnd => return true
  | _ => return false

/-- Simple statements on one line. -/
def simpleStatements : Reader (List Statement) := do
  let found ← many (simpleStatement self) (do
    if ← symbol? ";" then return !(← seesLineEnd) else return false)
  lineEnd
  return found

/-! ### Compound statements -/

def seesDedent : Reader Bool := do
  match ← token? 0 with
  | some .dedent => return true
  | _ => return false

def indented {α : Type} (item : Reader (List α)) : Reader (List α) := do
  match ← token? 0 with
  | some .indent =>
    skip
    let found ← many item (return !(← seesDedent))
    skip
    return found.flatten
  | _ => failure

/-- The statements after a colon, on the same line or indented below it. -/
def block : Reader (List Statement) := do
  if ← seesLineEnd then
    lineEnd
    indented (self .statement)
  else simpleStatements self

def colonBlock : Reader (List Node) := do
  symbol ":"
  return Node.statements (← self .block)

/-- The block of a word, if the word comes next. -/
def optionalBlock (word : String) : Reader (List Node) := do
  if ← keyword? word then colonBlock self else return []

def branch : Reader Statement := do
  let test ← self .named
  let body ← colonBlock self
  let otherwise ←
    if ← keyword? "elif" then pure [Node.statement (← self .branch)]
    else optionalBlock self "else"
  return .other (.term test :: body ++ otherwise)

def whileLoop : Reader Statement := do
  let test ← self .named
  let body ← colonBlock self
  return .other (.term test :: body ++ (← optionalBlock self "else"))

def forLoop : Reader Statement := do
  let target ← targets self
  keyword "in"
  let source ← starredExpressions self
  let body ← colonBlock self
  return .other (.term target :: .term source :: body ++ (← optionalBlock self "else"))

/-- A context and the target that it is bound to. -/
def contextItem : Reader Node := do
  let context ← self .expression
  if ← keyword? "as" then
    let target ← starredOr self (self .sum)
    check target.isTarget
    return .group [.term context, .term target]
  else return .group [.term context]

/-- Contexts in parentheses, up to the colon. -/
def bracketedContexts : Reader (List Node) := do
  symbol "("
  let (items, _) ← commaList (contextItem self) seesExpression
  symbol ")"
  symbol ":"
  return items

/-- Contexts up to the colon; parentheses around them all belong to the statement if they can. -/
def contexts : Reader (List Node) := fun lexemes i =>
  match bracketedContexts self lexemes i with
  | some found => some found
  | none => (do
      let items ← many (contextItem self) (symbol? ",")
      symbol ":"
      return items) lexemes i

def withStatement : Reader Statement := do
  let items ← contexts self
  return .other (items ++ Node.statements (← self .block))

/-- A handler after the word `except`. -/
def handler : Reader Node := do
  if ← seesSymbol ":" then return .group (← colonBlock self)
  else
    let type ← self .expression
    if ← keyword? "as" then discard word
    return .group (.term type :: (← colonBlock self))

/-- Handlers, which are all starred or none. -/
def handlers : Reader (List Node) := do
  let starred := isSymbol "*" (← token? 1)
  many (do
    keyword "except"
    if starred then
      symbol "*"
      check !(← seesSymbol ":")
    handler self) (seesKeyword "except")

def tryStatement : Reader Statement := do
  let body ← colonBlock self
  if ← seesKeyword "except" then
    let hs ← handlers self
    let otherwise ← optionalBlock self "else"
    let finally_ ← optionalBlock self "finally"
    return .other (body ++ hs ++ otherwise ++ finally_)
  else
    keyword "finally"
    return .other (body ++ (← colonBlock self))

def function (decorators : List Term) : Reader Statement := do
  let name ← word
  symbol "("
  let s ← signature self true ")"
  symbol ")"
  let returns ← if ← symbol? "->" then some <$> self .expression else pure none
  symbol ":"
  return .function name s (← self .block) decorators returns

def type (decorators : List Term) : Reader Statement := do
  let name ← word
  let (bases, keywords) ← if ← symbol? "(" then arguments self else pure ([], [])
  symbol ":"
  return .type name bases keywords (← self .block) decorators

def decorator : Reader Term := do
  symbol "@"
  let t ← self .named
  lineEnd
  return t

/-- A function or a class, after its decorators. -/
def definition (decorators : List Term) : Reader Statement := do
  if ← keyword? "class" then type self decorators
  else
    discard (keyword? "async")
    keyword "def"
    function self decorators

/-! ### Matching -/

/-- The value of a match statement; a comma makes it a tuple. -/
def subject : Reader Term := do
  let (items, final) ← starredNamed self
  match items, final with
  | [item], false =>
    check !item.isStarred
    return item
  | items, _ => return .tuple items

def case : Reader Node := do
  check (← take (isWord "case"))
  let p ← openSequence self
  let guard ← if ← keyword? "if" then some <$> self .named else pure none
  return .group (p :: Node.optional guard ++ (← colonBlock self))

def matchStatement : Reader Statement := do
  check (← take (isWord "match"))
  let value ← subject self
  symbol ":"
  lineEnd
  return .other (.term value :: (← indented (do return [← case self])))

/-- The word `match` is a name unless a match statement can be read. -/
def matchOrSimple : Reader (List Statement) := fun lexemes i =>
  match matchStatement self lexemes i with
  | some (s, i) => some ([s], i)
  | none => simpleStatements self lexemes i

def asyncStatement : Reader Statement := do
  match ← token? 1 with
  | some (.keyword "with") => skip; skip; withStatement self
  | some (.keyword "for") => skip; skip; forLoop self
  | _ => definition self []

def statement : Reader (List Statement) := do
  match ← token? 0 with
  | some (.keyword k) =>
    match k with
    | "if" => skip; return [← self .branch]
    | "while" => skip; return [← whileLoop self]
    | "for" => skip; return [← forLoop self]
    | "with" => skip; return [← withStatement self]
    | "try" => skip; return [← tryStatement self]
    | "class" | "def" => return [← definition self []]
    | "async" => return [← asyncStatement self]
    | _ => simpleStatements self
  | some (.symbol "@") => return [← definition self (← many (decorator self) (seesSymbol "@"))]
  | some (.word "match") => matchOrSimple self
  | _ => simpleStatements self

/-! ### Sources -/

/-- Reads a goal, where `self` reads the goals within. -/
def read (self : Reach) : {α : Type} → Goal α → Reader α
  | _, .expression => expression self
  | _, .named => named self
  | _, .disjunction => disjunction self
  | _, .inversion => inversion self
  | _, .sum => sum self
  | _, .factor => factor self
  | _, .yielding => yielding self
  | _, .pattern => pattern self
  | _, .block => block self
  | _, .statement => statement self
  | _, .branch => branch self

/-- Reads a goal in which others are nested less than `n` deep. -/
def reach : Nat → Reach
  | 0, _, _ => failure
  | n + 1, _, g => read (reach n) g

def seesEnd : Reader Bool := do
  match ← token? 0 with
  | some .sourceEnd => return true
  | _ => return false

/-- The statements of a source. A goal is at most a few levels above the next lexeme that it passes.
-/
def source : Reader (List Statement) := fun lexemes i =>
  (do
    let found ← iterate (fun found => do
      if ← seesEnd then return (found, false)
      else return ((← reach (12 * lexemes.size + 12) .statement) :: found, true)) []
    check (← seesEnd)
    return found.reverse.flatten) lexemes i

end DocAtlas.Indented.Parser

namespace DocAtlas.Indented

/-- The statements that a source consists of, if it has no fault. -/
def statements? (lexemes : Array Lexeme) : Option (List Statement) :=
  (Parser.source lexemes 0).map Prod.fst

end DocAtlas.Indented
