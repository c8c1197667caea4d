import DocAtlas.Braced.Parser.Expression
import DocAtlas.Braced.Parser.Markup

/-!
Reading of statements, and of whole sources.
-/
namespace DocAtlas.Braced.Parser
open Reader

variable (self : Reach)

def block : Reader Tree := do
  let i ← start
  sign "\x7b"
  node .other i (← upTo (sign? "\x7d") (return [← self .statement]))

def bracketedExpression : Reader Tree := do
  let i ← start
  sign "("
  let e ← self (.expressions {})
  sign ")"
  node .parenthesized i [e]

def expressionStatement : Reader Tree := do
  let i ← start
  let e ← self (.expressions { breaks := true })
  semicolon
  node .other i [e]

/-! ### Declarations -/

/-- A name or pattern with its type and its value. -/
def declarator (m : Mode) : Reader Tree := do
  let i ← start
  let target ← self .binding
  let type ←
    if ← typed then do
      discard (if (← goesOn m) then sign? "!" else pure false)
      if ← sees ":" then pure [← typeAnnotation self] else pure []
    else pure []
  if (← goesOn m) && (← sees "=") then
    sign "="
    node .variableDeclarator i (target.as .name :: type ++ [(← self (.expression m)).as .value])
  else node .variableDeclarator i (target.as .name :: type)

def isDeclarationWord (w : Option String) : Bool :=
  w == some "let" || w == some "const" || w == some "var"

def variableList (m : Mode) : Reader (List Tree) := do
  check (isDeclarationWord (← nextWord?))
  skipWord
  someCommas (declarator self m)

def variableDeclaration : Reader Tree := do
  let i ← start
  let ds ← variableList self { breaks := true }
  semicolon
  node .other i ds

/-- A function with its name; without a body it only tells its signature. -/
def functionDeclaration : Reader Tree := do
  let i ← start
  let h ← functionHeading self
  check !h.name.isEmpty
  if ← sees "\x7b" then
    let b ← self .block
    optionalEnd
    node (if h.generator then .generatorDeclaration else .functionDeclaration) i
      (h.name ++ h.signature ++ [b.as .body])
  else
    check (← typed)
    semicolon
    node .other i (h.name ++ h.signature)

def classDeclaration (decorated : List Tree) : Reader Tree := do
  let i ← start
  let abstract ← if ← typed then word? "abstract" else pure false
  word "class"
  check (← seesClassName)
  let parts ← classRest self
  optionalEnd
  node (if abstract then .abstractClass else .classDeclaration) i (decorated ++ parts)

def interfaceDeclaration : Reader Tree := do
  let i ← start
  word "interface"
  let n ← name .typeIdentifier
  let types ← if ← sees "<" then pure [← typeParameters self] else pure []
  let above ← if ← word? "extends" then someCommas (self .type) else pure []
  let b ← objectType self
  optionalEnd
  node .other i (n :: types ++ above ++ [b])

def typeAlias : Reader Tree := do
  let i ← start
  word "type"
  let n ← name .typeIdentifier
  let types ← if ← sees "<" then pure [← typeParameters self] else pure []
  sign "="
  let t ← self .type
  semicolon
  node .other i (n :: types ++ [t])

def enumMember : Reader Tree := do
  let i ← start
  let n ← propertyName self
  if ← sign? "=" then node .other i [n, ← self (.expression {})] else return n

def enumDeclaration : Reader Tree := do
  let i ← start
  discard (word? "const")
  word "enum"
  let n ← name .identifier
  sign "\x7b"
  let ms ← commaList "\x7d" false (enumMember self)
  optionalEnd
  node .other i (n :: ms)

/-- A dotted name, as identifiers. -/
def dottedName : Reader (List Tree) := do
  let first ← name .identifier
  let parts ← upTo (return !(← sees ".")) (do
    sign "."
    return [← name .identifier])
  return first :: parts

def namespaceDeclaration : Reader Tree := do
  let i ← start
  check ((← seesWord "namespace") || (← seesWord "module"))
  skipWord
  check (← goesOn { breaks := true })
  let n ← if ← seesAnyWord then dottedName else pure [← string]
  if ← sees "\x7b" then
    let b ← self .block
    optionalEnd
    node .other i (n ++ [b])
  else
    semicolon
    node .other i n

def ambientDeclaration : Reader Tree := do
  let i ← start
  word "declare"
  if ← seesWord "global" then
    skipWord
    let b ← self .block
    optionalEnd
    node .other i [b]
  else
    let d ← self .declaration
    node .other i [d]

/-- What can be exported as a declaration. -/
def declaration : Reader Tree := do
  match ← nextWord? with
  | some "function" | some "async" => functionDeclaration self
  | some "class" => classDeclaration self []
  | some "let" | some "var" => variableDeclaration self
  | some "const" =>
    if ← typed then orElse (enumDeclaration self) (variableDeclaration self)
    else variableDeclaration self
  | some w =>
    check (← typed)
    match w with
    | "abstract" => classDeclaration self []
    | "interface" => interfaceDeclaration self
    | "type" => typeAlias self
    | "enum" => enumDeclaration self
    | "namespace" | "module" => namespaceDeclaration self
    | "declare" => ambientDeclaration self
    | _ => failure
  | none => failure

/-! ### Imports and exports -/

/-- The module that names come from. -/
def origin : Reader Tree := do
  word "from"
  return (← string).as .source

def nameOrString : Reader Tree := orElse string (name .identifier)

def typeWord : Reader Tree := do
  if ← seesWord "type" then name .typeMark
  else
    check (← seesWord "typeof")
    name .other

/-- A name that is imported or exported, and what it is called here. -/
def specifier : Reader Tree := do
  let i ← start
  orElse (do
    check (← typed)
    let mark ← typeWord
    node .importSpecifier i (mark :: (← renamed))) (do node .importSpecifier i (← renamed))
where
  renamed : Reader (List Tree) := do
    let n ← nameOrString
    let localName ← if ← word? "as" then pure [(← nameOrString).as .localName] else pure []
    check ((← sees ",") || (← sees "\x7d"))
    return n.as .name :: localName

def specifiers : Reader Tree := do
  let i ← start
  sign "\x7b"
  node .namedImports i (← commaList "\x7d" false specifier)

def namespaceImport : Reader Tree := do
  let i ← start
  sign "*"
  word "as"
  node .namespaceImport i [← name .identifier]

def importClause : Reader Tree := do
  let i ← start
  let several : Reader Tree := do if ← sees "*" then namespaceImport else specifiers
  if ← seesAnyWord then
    let n ← name .identifier
    let others ← if ← sign? "," then pure [← several] else pure []
    node .importClause i (n :: others)
  else node .importClause i [← several]

/-- Another name for what a name or a module stands for. -/
def importAlias : Reader (List Tree) := do
  check (← typed)
  let n ← name .identifier
  sign "="
  orElse (do
    word "require"
    sign "("
    let s ← string
    sign ")"
    return [n, s]) (return n :: (← dottedName))

def imported : Reader (List Tree) :=
  orElse (return [(← string).as .source]) <| orElse importAlias <| orElse (do
    check (← typed)
    let mark ← typeWord
    let c ← importClause
    return [mark, c, ← origin]) (do
      let c ← importClause
      return [c, ← origin])

def importStatement : Reader Tree := do
  let i ← start
  word "import"
  let parts ← imported
  semicolon
  node .importStatement i parts

/-- What follows the word `export`. -/
def exported : Reader (List Tree) := do
  match ← next? with
  | some '*' =>
    sign "*"
    let n ← if ← word? "as" then pure [← nameOrString] else pure []
    let source ← origin
    semicolon
    return n ++ [source]
  | some '\x7b' =>
    let c ← specifiers
    let source ← if ← seesWord "from" then pure [← origin] else pure []
    semicolon
    return c :: source
  | some '=' =>
    check (← typed)
    sign "="
    let e ← self (.expression { breaks := true })
    semicolon
    return [e]
  | _ =>
    if ← word? "default" then
      orElse (return [(← self .declaration).as .declaration]) (do
        let e ← self (.expression { breaks := true })
        semicolon
        return [e.as .value])
    else if (← typed) && (← seesWord "as") then
      skipWord
      word "namespace"
      let n ← name .identifier
      semicolon
      return [n]
    else if (← typed) && (← seesWord "import") then
      skipWord
      let n ← importAlias
      semicolon
      return n
    else orElse (return [(← self .declaration).as .declaration]) (do
      check (← typed)
      word "type"
      let c ← specifiers
      let source ← if ← seesWord "from" then pure [← origin] else pure []
      semicolon
      return c :: source)

def exportStatement (i : Nat) (decorated : List Tree) : Reader Tree := do
  word "export"
  node .exportStatement i (decorated ++ (← exported self))

/-- An export or a class, with decorators before it. -/
def decoratedStatement : Reader Tree := do
  let i ← start
  let ds ← decorators self
  if ← seesWord "export" then exportStatement self i ds else classDeclaration self ds

/-! ### Control flow -/

def ifStatement : Reader Tree := do
  let i ← start
  word "if"
  let c ← bracketedExpression self
  let yes ← self .statement
  let no ← if ← word? "else" then pure [← self .statement] else pure []
  node .other i (c :: yes :: no)

def whileLoop : Reader Tree := do
  let i ← start
  skipWord
  let c ← bracketedExpression self
  node .other i [c, ← self .statement]

def doLoop : Reader Tree := do
  let i ← start
  word "do"
  let b ← self .statement
  word "while"
  let c ← bracketedExpression self
  discard (attempt semicolon)
  node .other i [b, c]

/-- The heading of a loop over the keys or members of something. -/
def memberLoopHeading : Reader (List Tree) := do
  let target ←
    if isDeclarationWord (← nextWord?) then do
      skipWord
      self .binding
    else do
      let t ← self (.operand { cover := true })
      if t.kind = .parenthesized then pure t else given t.pattern?
  let value ← if ← sees "=" then do sign "="; pure [← self (.operand {})] else pure []
  check ((← seesWord "in") || (← seesWord "of"))
  skipWord
  let e ← self (.expressions {})
  sign ")"
  return target :: value ++ [e]

/-- An expression that may be missing, up to a sign. -/
def optionalExpression (closing : String) : Reader (List Tree) := do
  if ← sign? closing then return []
  else
    let e ← self (.expressions {})
    sign closing
    return [e]

def countingLoopHeading : Reader (List Tree) := do
  let first ←
    if isDeclarationWord (← nextWord?) then do
      let ds ← variableList self {}
      sign ";"
      pure ds
    else optionalExpression self ";"
  let middle ← optionalExpression self ";"
  return first ++ middle ++ (← optionalExpression self ")")

def forLoop : Reader Tree := do
  let i ← start
  word "for"
  discard (word? "await")
  sign "("
  let heading ← orElse (memberLoopHeading self) (countingLoopHeading self)
  node .other i (heading ++ [← self .statement])

/-- The parts of a case up to the next one. -/
def caseStatements : Reader (List Tree) :=
  upTo (return (← sees "\x7d") || (← seesWord "case") || (← seesWord "default"))
    (return [← self .statement])

def switchCase : Reader Tree := do
  let i ← start
  let value ←
    if ← word? "case" then pure [← self (.expressions {})]
    else do
      word "default"
      pure []
  sign ":"
  node .other i (value ++ (← caseStatements self))

def switchStatement : Reader Tree := do
  let i ← start
  word "switch"
  let e ← bracketedExpression self
  sign "\x7b"
  let cases ← upTo (sign? "\x7d") (return [← switchCase self])
  node .other i (e :: cases)

def tryStatement : Reader Tree := do
  let i ← start
  word "try"
  let b ← self .block
  let caught ←
    if ← word? "catch" then do
      let target ←
        if ← sign? "(" then do
          let p ← self .binding
          let type ←
            if (← typed) && (← sees ":") then pure [← typeAnnotation self] else pure []
          sign ")"
          pure (p :: type)
        else pure []
      pure (target ++ [← self .block])
    else pure []
  let last ← if ← word? "finally" then pure [← self .block] else pure []
  node .other i (b :: caught ++ last)

/-- A word with a label. -/
def jump : Reader Tree := do
  let i ← start
  skipWord
  if (← goesOn { breaks := true }) && (← seesAnyWord) then skipWord
  semicolon
  node .other i []

/-- A word with a value. -/
def valueStatement (optional : Bool) : Reader Tree := do
  let i ← start
  skipWord
  let value ←
    if optional && ((← sees ";") || !(← goesOn { breaks := true })) then pure []
    else pure [← self (.expressions { breaks := true })]
  semicolon
  node .other i value

def debuggerStatement : Reader Tree := do
  let i ← start
  skipWord
  semicolon
  node .other i []

/-! ### Statements -/

def labelled : Reader Tree := do
  let i ← start
  skipWord
  sign ":"
  node .other i [← self .statement]

/-- Whether a function or class comes next that has a name. -/
def seesNamed : Reader Bool :=
  return (← ahead (do
    if ← word? "class" then check (← seesClassName)
    else
      discard (word? "async")
      word "function"
      discard (sign? "*")
      check (← seesAnyWord))).isSome

def namedOrExpression : Reader Tree := do
  if ← seesNamed then self .declaration else expressionStatement self

/-- A statement that begins with the word `w`. -/
def wordStatement (w : String) : Reader Tree := do
  match w with
  | "if" => ifStatement self
  | "for" => forLoop self
  | "while" | "with" => whileLoop self
  | "do" => doLoop self
  | "try" => tryStatement self
  | "switch" => switchStatement self
  | "break" | "continue" => jump
  | "return" => valueStatement self true
  | "throw" => valueStatement self false
  | "debugger" => debuggerStatement
  | "import" => orElse importStatement (expressionStatement self)
  | "export" =>
    let i ← start
    exportStatement self i []
  | "function" | "class" | "async" => namedOrExpression self
  | "var" | "const" => self .declaration
  | _ =>
    orElse (labelled self) <| orElse (self .declaration) (expressionStatement self)

def statement : Reader Tree := do
  match ← next? with
  | some ';' =>
    let i ← start
    sign ";"
    node .other i []
  | some '\x7b' =>
    orElse (do
      let b ← self .block
      optionalEnd
      return b) (do
        check (← seesObject)
        expressionStatement self)
  | some '@' => orElse (decoratedStatement self) (expressionStatement self)
  | _ =>
    match ← nextWord? with
    | some w => wordStatement self w
    | none => expressionStatement self

/-! ### Sources -/

/-- Reads a goal, where `self` reads the goals within. -/
def read (self : Reach) : Reach
  | .expression m => expression self m
  | .expressions m => expressions self m
  | .operand m => operand self m
  | .constructed m => constructed self m
  | .parent => parent self
  | .binding => binding self
  | .block => block self
  | .statement => statement self
  | .declaration => declaration self
  | .classBody => classBody self
  | .type => type self
  | .simpleType => simpleType self
  | .baseType => baseType self
  | .element => element self

/-- Reads a goal in which others are nested less than `n` deep. -/
def reach : Nat → Reach
  | 0, _ => failure
  | n + 1, g => read (reach n) g

/-- A comment between statements. -/
def comment? : Reader (Option Tree) := fun s i =>
  let j := Lexeme.spaces s.chars i
  match Lexeme.comment? s.chars j with
  | some k => some (some (.node .comment .plain j k []), k)
  | none => some (none, j)

/-- The line for the system that a source may begin with. -/
def hashBang : Reader (List Tree) := fun s i =>
  let j := Lexeme.spaces s.chars i
  if Lexeme.startsAt s.chars "#!" j then
    let k := Lexeme.skipWhile s.chars (· != '\n') s.chars.size j
    some ([.node .hashBang .plain j k []], k)
  else some ([], i)

/-- Whether only blanks are left. -/
def seesEnd : Reader Bool := fun s i => some (Lexeme.spaces s.chars i == s.chars.size, i)

/-- The statements of a source and the comments between them, up to the end or the first statement
with a fault. A goal is at most a few levels above the next character that it passes. -/
def program : Reader (List Tree) := do
  let size := (← source).chars.size
  let first ← hashBang
  let rest ← iterate (fun found => do
    if ← seesEnd then return (found, false)
    else
      match ← comment? with
      | some c => return (c :: found, true)
      | none =>
        match ← attempt (reach (8 * size + 8) .statement) with
        | some t => return (t :: found, true)
        | none => return (found, false)) []
  return first ++ rest.reverse

end DocAtlas.Braced.Parser

namespace DocAtlas.Braced

/-- The line that a place is on. -/
def lineOf (chars : Array Char) (i : Nat) : Nat :=
  ((chars.extract 0 i).filter (· == '\n')).size + 1

/-- The statements that a source consists of, or the line of the first one with a fault. -/
def statements (source : Source) : Except Nat (List Tree) :=
  match Parser.program source 0 with
  | none => .error 1
  | some (found, i) =>
    if Lexeme.spaces source.chars i == source.chars.size then .ok found
    else .error (lineOf source.chars (Lexeme.spaces source.chars i))

end DocAtlas.Braced
