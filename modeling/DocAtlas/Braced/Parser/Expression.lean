import DocAtlas.Braced.Parser.Class

/-!
Reading of expressions.
-/
namespace DocAtlas.Braced.Parser
open Reader

variable (self : Reach)

/-- The words that are no names where an expression begins. -/
def expressionWords : List String :=
  ["function", "class", "new", "typeof", "void", "delete", "yield", "await", "this", "super",
    "true", "false", "null", "undefined", "import"]

/-- The words that are no names where a statement begins. -/
def statementWords : List String :=
  ["if", "for", "while", "do", "try", "with", "break", "continue", "return", "throw", "switch",
    "debugger", "function", "class", "import", "export", "var", "let", "const"]

/-- Whether an object may begin here where a block would, too. -/
def seesObject : Reader Bool :=
  return (← ahead (do
    sign "\x7b"
    check !((← nextWord?).any statementWords.contains))).isSome

/-! ### What stands between brackets -/

def spread : Reader Tree := do
  let i ← start
  sign "..."
  node .spread i [← self (.expression { cover := true })]

/-- An expression, or several that are spread out. -/
def item (m : Mode) : Reader Tree := do
  if ← sees "..." then spread self else self (.expression m)

def arguments : Reader Tree := do
  let i ← start
  sign "("
  node .other i (← commaList ")" true (item self {}))

def array : Reader Tree := do
  let i ← start
  sign "["
  node .array i (← commaList "]" true (item self { cover := true }))

def parenthesized : Reader Tree := do
  let i ← start
  sign "("
  let e ← self (.expressions {})
  let type ← if (← typed) && (← sees ":") then pure [← typeAnnotation self] else pure []
  sign ")"
  node .parenthesized i (e :: type)

def pair : Reader Tree := do
  let i ← start
  let key ← propertyName self
  sign ":"
  node .pair i [key.as .key, (← self (.expression { cover := true })).as .value]

def shorthand : Reader Tree := do
  let i ← start
  let n ← name .shorthand
  if (← sees "=") && !(← sees "=>") then
    sign "="
    node .shorthandDefault i [n, ← self (.expression {})]
  else return n

def objectItem : Reader Tree := do
  if ← sees "..." then spread self
  else orElse (method self) (orElse (pair self) (shorthand self))

def object : Reader Tree := do
  let i ← start
  sign "\x7b"
  node .object i (← commaList "\x7d" true (objectItem self))

/-- A template whose substitutions are expressions. -/
def template : Reader Tree := do
  let i ← start
  sign (String.ofList [Char.ofNat 96])
  let es ← upTo templateType.closed (do
    let j ← place
    let e ← self (.expressions {})
    sign "\x7d"
    return [← node .other j [e]])
  node .other i es

/-! ### Functions and classes -/

/-- A function up to its body: whether it yields several values, its name, its signature. -/
structure FunctionHeading where
  generator : Bool
  name : List Tree
  signature : List Tree

def functionHeading : Reader FunctionHeading := do
  discard (word? "async")
  word "function"
  let generator ← sign? "*"
  let n ← if ← seesAnyWord then pure [(← name .identifier).as .name] else pure []
  return ⟨generator, n, ← callSignature self⟩

def functionExpression : Reader Tree := do
  let i ← start
  let h ← functionHeading self
  let b ← self .block
  node .other i (h.name ++ h.signature ++ [b.as .body])

def classExpression : Reader Tree := do
  let i ← start
  let ds ← decorators self
  word "class"
  node .other i (ds ++ (← classRest self))

/-- The name of the only parameter of a function without brackets. -/
def soleParameter : Reader Tree := do
  match ← nextWord? with
  | some w =>
    check !(expressionWords.contains w)
    name .identifier
  | none => failure

/-- Parameters and body of a function that is written with an arrow. -/
def arrowRest (m : Mode) (i : Nat) : Reader Tree := do
  let heading ←
    if (← sees "(") || (← sees "<") then do
      let types ← if (← typed) && (← sees "<") then pure [← typeParameters self] else pure []
      let ps ← parameters self
      let result ←
        if (← typed) && m.arrows && (← sees ":") then pure [← returnAnnotation self] else pure []
      pure (types ++ ps :: result)
    else pure [← soleParameter]
  sign "=>"
  let b ←
    if ← sees "\x7b" then orElse (self .block) (do
      check (← seesObject)
      self (.expression m))
    else self (.expression m)
  node .other i (heading ++ [b])

def arrow (m : Mode) : Reader Tree := do
  let i ← start
  orElse (do
    word "async"
    check (← goesOn m)
    arrowRest self m i) (arrowRest self m i)

/-! ### Operands -/

def newExpression (m : Mode) : Reader Tree := do
  let i ← start
  word "new"
  if ← sees "." then
    sign "."
    word "target"
    node .other i []
  else
    let t ← self (.constructed m)
    let types ←
      if (← typed) && (← sees "<") then pure (← attempt (typeArguments self)).toList else pure []
    let args ←
      if (← goesOn m) && (← sees "(") then pure [← arguments self] else pure []
    node .other i (t :: types ++ args)

/-- `import`, where its meaning is that of a function or an object. -/
def importWord : Reader Tree := do
  let t ← name .other
  check ((← sees "(") || (← sees "."))
  return t

def yieldExpression (m : Mode) : Reader Tree := do
  let i ← start
  word "yield"
  if ← goesOn m then
    if ← sign? "*" then node .other i [← self (.expression m)]
    else node .other i (← attempt (self (.expression m))).toList
  else node .other i []

def awaitExpression (m : Mode) : Reader Tree := do
  let i ← start
  word "await"
  node .other i [← self (.operand m)]

/-- A type before the value that it is said of. -/
def assertion (m : Mode) : Reader Tree := do
  let i ← start
  sign "<"
  let t ← self .type
  sign ">"
  node .other i [t, ← self (.operand m)]

def wordOperand (m : Mode) (w : String) : Reader Tree := do
  match w with
  | "function" => functionExpression self
  | "class" => classExpression self
  | "new" => newExpression self m
  | "import" => importWord
  | "this" | "super" | "true" | "false" | "null" | "undefined" => name .other
  | "async" => orElse (functionExpression self) (name .identifier)
  | _ => name .identifier

/-- The beginning of an operand. -/
def primary (m : Mode) : Reader Tree := do
  match ← next? with
  | some '(' => parenthesized self
  | some '[' => array self
  | some '\x7b' => object self
  | some '"' | some '\'' => string
  | some '/' => leaf .other Lexeme.regex?
  | some '<' => if (← source).markup then self .element else failure
  | some '@' => classExpression self
  | some '#' => privateName
  | some c =>
    if c.toNat = 96 then template self
    else if Text.isAsciiDigit c || c == '.' then number
    else match ← nextWord? with
      | some w => wordOperand self m w
      | none => failure
  | none => failure

/-- Whether an operand can begin here. -/
def seesOperand : Reader Bool := do
  match ← next? with
  | some c =>
    return (← seesAnyWord) || Text.isAsciiDigit c ||
      ['(', '[', '\x7b', '"', '\'', '/', '<', '@', '#', '+', '-', '!', '~',
        Char.ofNat 96].contains c
  | none => return false

/-! ### What goes on after an operand -/

/-- Which ends an operand may have. -/
structure Ends where
  /-- It may be called. -/
  calls : Bool := true
  /-- Arguments for its types may stand alone. -/
  instances : Bool := true

def memberOf (t : Tree) : Reader Tree := do
  let p ← if ← sees "#" then privateName else name .propertyName
  node .member t.first [t.as .object, p.as .property]

def indexOf (t : Tree) : Reader Tree := do
  sign "["
  let e ← self (.expressions {})
  sign "]"
  node .subscript t.first [t.as .object, e.as .index]

def callOf (t : Tree) : Reader Tree := do
  let args ← if ← sees "(" then arguments self else template self
  node .call t.first [t.as .function, args.as .arguments]

def seesTemplate : Reader Bool := sees (String.ofList [Char.ofNat 96])

/-- A call with arguments for types, or those arguments alone. -/
def typedCallOf (ends : Ends) (t : Tree) : Reader Tree := do
  let args ← typeArguments self
  if (← sees "(") || (← seesTemplate) then
    let call ← callOf self t
    return .node .call .plain t.first call.last (call.children ++ [args])
  else
    check (ends.instances && !(← seesOperand))
    node .other t.first [t, args]

/-- Whether `?.` comes next, rather than a condition before a number. -/
def seesOptional : Reader Bool := fun s i =>
  let j := Lexeme.skipGap s.chars i
  some (Lexeme.startsAt s.chars "?." j && !s.chars[j + 2]?.any Text.isAsciiDigit, i)

/-- What stands after `?.`. -/
def optionalOf (ends : Ends) (t : Tree) : Reader Tree := do
  sign "?."
  if ← sees "[" then indexOf self t
  else if ← sees "(" then
    check ends.calls
    callOf self t
  else if ← seesTemplate then callOf self t
  else if (← typed) && (← sees "<") then typedCallOf self ends t
  else memberOf t

/-- One more part of an operand, if there is one. -/
def suffix? (m : Mode) (ends : Ends) (t : Tree) : Reader (Option Tree) := do
  if !(← goesOn m) then return none
  else
    match ← next? with
    | some '.' =>
      if ← sees "..." then return none
      else
        sign "."
        return some (← memberOf t)
    | some '?' => if ← seesOptional then return some (← optionalOf self ends t) else return none
    | some '[' => return some (← indexOf self t)
    | some '(' => if ends.calls then return some (← callOf self t) else return none
    | some '!' =>
      if (← typed) && !(← sees "!=") then
        sign "!"
        return some (← node .nonNull t.first [t])
      else return none
    | some '<' =>
      if (← typed) && ends.calls then attempt (typedCallOf self ends t) else return none
    | some c =>
      if (← sees "++") || (← sees "--") then
        sign (if c = '+' then "++" else "--")
        return some (← node .other t.first [t])
      else if ← seesTemplate then return some (← callOf self t)
      else return none
    | none => return none

def suffixed (m : Mode) (ends : Ends) (t : Tree) : Reader Tree := iterate (fun t => do
  match ← suffix? self m ends t with
  | some longer => return (longer, true)
  | none => return (t, false)) t

def simpleOperand (m : Mode) (ends : Ends) : Reader Tree := do
  suffixed self m ends (← primary self m)

/-- What `new` stands before. -/
def constructed (m : Mode) : Reader Tree :=
  simpleOperand self m { calls := false, instances := false }

/-- What a class can extend. -/
def parent : Reader Tree := simpleOperand self {} { instances := false }

/-! ### Assignments -/

def changes : List String :=
  ["+=", "-=", "*=", "/=", "%=", "^=", "&=", "|=", ">>=", ">>>=", "<<=", "**=", "&&=", "||=", "??="]

/-- An operand with the value that is assigned to it, if there is one. -/
def assigned (m : Mode) (t : Tree) : Reader Tree := do
  if !(← goesOn m) then
    check (m.cover || !t.needsPattern)
    return t
  else if (← sees "=") && !(← sees "==") && !(← sees "=>") then
    let target ← if t.kind = .parenthesized then pure t else given t.pattern?
    sign "="
    node .assignment t.first [target, ← self (.expression { m with cover := false })]
  else
    check (m.cover || !t.needsPattern)
    match ← changes.findM? sees with
    | some op =>
      check (t.isPlace || t.kind = .parenthesized)
      sign op
      node .other t.first [t, ← self (.expression { m with cover := false })]
    | none => return t

def signs : List String := ["++", "--", "+", "-", "!", "~"]

def signWords : List String := ["typeof", "void", "delete"]

def signed (m : Mode) (move : Reader Unit) : Reader Tree := do
  let i ← start
  move
  node .other i [← self (.operand m)]

def operand (m : Mode) : Reader Tree := orElse (arrow self m) do
  match ← signs.findM? sees, ← nextWord? with
  | some op, _ => signed self m (sign op)
  | none, some "yield" => yieldExpression self m
  | none, some "await" => awaitExpression self m
  | none, some w =>
    if signWords.contains w then signed self m skipWord
    else assigned self m (← simpleOperand self m {})
  | none, none =>
    if (← typed) && !(← source).markup && (← sees "<") then assertion self m
    else assigned self m (← simpleOperand self m {})

/-! ### Expressions -/

/-- The signs between operands; a longer one stands before those that it begins with. -/
def operators : List String :=
  [">>>", "===", "!==", "**", "&&", "||", "??", ">>", "<<", "<=", ">=", "==", "!=", "&", "^", "|",
    "+", "-", "*", "/", "%", "<", ">"]

/-- The two outcomes of a condition. A function in the first one does not say what it returns if the
second one would be missing then. -/
def conditional (m : Mode) (t : Tree) : Reader Tree := do
  sign "?"
  let outcomes (arrows : Bool) : Reader (List Tree) := do
    let yes ← self (.expression { arrows := arrows })
    sign ":"
    return [yes, ← self (.expression m)]
  node .other t.first (t :: (← orElse (outcomes true) (outcomes false)))

def typedOf (t : Tree) : Reader Tree := do
  skipWord
  if ← seesWord "const" then
    skipWord
    node .other t.first [t]
  else node .other t.first [t, ← self .type]

/-- One more part of an expression, if there is one. -/
def rest? (m : Mode) (t : Tree) : Reader (Option Tree) := do
  if !(← goesOn m) then return none
  else
    match ← operators.findM? sees with
    | some op =>
      sign op
      return some (← node .other t.first [t, ← self (.operand m)])
    | none =>
      if ← sees "?" then return some (← conditional self m t)
      else
        match ← nextWord? with
        | some w =>
          if w == "in" || w == "instanceof" then
            skipWord
            return some (← node .other t.first [t, ← self (.operand m)])
          else if (← typed) && (w == "as" || w == "satisfies") then
            return some (← typedOf self t)
          else return none
        | none => return none

def expression (m : Mode) : Reader Tree := do
  let t ← self (.operand m)
  iterate (fun t => do
    match ← rest? self m t with
    | some longer => return (longer, true)
    | none => return (t, false)) t

/-- Expressions with commas between them. -/
def expressions (m : Mode) : Reader Tree := do
  let i ← start
  match ← someCommas (self (.expression m)) with
  | [one] => return one
  | several => node .other i several

end DocAtlas.Braced.Parser
