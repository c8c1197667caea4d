import DocAtlas.Braced.Parser.Basic

/-!
Reading of types.
-/
namespace DocAtlas.Braced.Parser
open Reader

variable (self : Reach)

/-- The types that are words of the language. -/
def plainTypes : List String :=
  ["any", "number", "boolean", "string", "symbol", "void", "unknown", "never", "object", "this",
    "null", "undefined", "true", "false"]

/-! ### Parameters of types, and arguments for them -/

def typeAnnotation : Reader Tree := do
  let i ← start
  sign ":"
  node .other i [← self .type]

def typeParameter : Reader Tree := do
  let i ← start
  if ← seesWord "const" then discard (attempt (do skipWord; check (← seesAnyWord)))
  let n ← name .typeIdentifier
  let bound ←
    if ← word? "extends" then pure [← self .type]
    else if ← sign? ":" then pure [← self .type]
    else pure []
  let default ← if ← sign? "=" then pure [← self .type] else pure []
  node .other i (n :: bound ++ default)

def typeParameters : Reader Tree := do
  let i ← start
  sign "<"
  let ps ← commaList ">" false (typeParameter self)
  check !ps.isEmpty
  node .other i ps

def typeArguments : Reader Tree := do
  let i ← start
  sign "<"
  let ts ← commaList ">" false (self .type)
  check !ts.isEmpty
  node .other i ts

/-! ### Names of properties -/

def computedName : Reader Tree := do
  let i ← start
  sign "["
  let e ← self (.expression {})
  sign "]"
  node .other i [e]

/-- A name with a number sign. -/
def privateName : Reader Tree := leaf .other fun s i =>
  if s[i]? == some '#' then Lexeme.word? s (i + 1) else none

def number : Reader Tree := leaf .other Lexeme.number?

def propertyName : Reader Tree := do
  match ← next? with
  | some '[' => computedName self
  | some '#' => privateName
  | some '"' | some '\'' => string
  | some c =>
    if Text.isAsciiDigit c || c == '.' then number else name .propertyName
  | none => failure

/-- Whether a name of a property begins here. -/
def seesProperty : Reader Bool := do
  match ← next? with
  | some c =>
    return c == '[' || c == '#' || c == '"' || c == '\'' || Text.isAsciiDigit c || (← seesAnyWord)
  | none => return false

/-! ### Signatures -/

def decorator : Reader Tree := do
  let i ← start
  sign "@"
  if (← typed) && (← sees "(") then
    sign "("
    let e ← self (.expression {})
    sign ")"
    node .other i [e]
  else
    let base ← name .identifier
    let parts ← upTo (return !(← sees ".")) (do
      sign "."
      return [← name .propertyName])
    let types ← if (← typed) && (← sees "<") then pure [← typeArguments self] else pure []
    let args ←
      if (← onLine) && (← sees "(") then do
        sign "("
        commaList ")" true (self (.expression {}))
      else pure []
    node .other i (base :: parts ++ types ++ args)

def decorators : Reader (List Tree) := upTo (return !(← sees "@")) (return [← decorator self])

def isAccess (w : String) : Bool := w == "public" || w == "private" || w == "protected"

/-- The words that may stand before a parameter, up to the parameter itself. -/
def parameterWords : Reader (List Tree) := upTo (done) (do
  let w ← nextWord?
  let t ← name (if w.any isAccess then .accessibility else .other)
  return [t])
where
  done : Reader Bool := do
    match ← nextWord? with
    | some w =>
      if isAccess w || w == "override" || w == "readonly" then
        let after ← ahead (do skipWord; return (← seesAnyWord) || (← sees "\x7b") || (← sees "["))
        return after != some true
      else return true
    | none => return true

/-- A parameter with its decorators, words, type and default. -/
def parameter : Reader Tree := do
  let i ← start
  if ← typed then
    let ds ← decorators self
    let ws ← parameterWords
    let p ← self .binding
    discard (sign? "?")
    let type ← if ← sees ":" then pure [← typeAnnotation self] else pure []
    let default ←
      if (← sees "=") && !(← sees "=>") then do
        sign "="
        pure [← self (.expression {})]
      else pure []
    node .other i (ds ++ ws ++ [p] ++ type ++ default)
  else
    let p ← self .binding
    if (← sees "=") && !(← sees "=>") then
      sign "="
      node .other i [p, ← self (.expression {})]
    else return p

def parameters : Reader Tree := do
  let i ← start
  sign "("
  let ps ← commaList ")" false (parameter self)
  node .other i ps

/-- What a type predicate says of a parameter or of the object itself. -/
def predicate : Reader (List Tree) := do
  let n ← name .identifier
  check (← onLine)
  word "is"
  return [n, ← self .type]

/-- What a function returns: a type, or what it says of its parameters. -/
def returned : Reader (List Tree) :=
  orElse assertion (orElse (predicate self) (return [← self .type]))
where
  assertion : Reader (List Tree) := do
    word "asserts"
    check (← onLine)
    orElse (predicate self) (return [← name .identifier])

def returnAnnotation : Reader Tree := do
  let i ← start
  sign ":"
  node .other i (← returned self)

/-- Type parameters, parameters and the type that is returned. -/
def callSignature : Reader (List Tree) := do
  let types ← if (← typed) && (← sees "<") then pure [← typeParameters self] else pure []
  let ps ← parameters self
  let result ←
    if (← typed) && (← sees ":") then pure [(← returnAnnotation self).as .returnType] else pure []
  return types ++ [ps.as .parameters] ++ result

/-! ### Types of objects -/

/-- Words that may stand before a property, if a property follows them. -/
def memberWords (words : List String) : Reader (List Tree) := upTo (done) (do
  let w ← nextWord?
  return [← name (if w.any isAccess then .accessibility else .other)])
where
  done : Reader Bool := do
    match ← nextWord? with
    | some w =>
      if words.contains w then
        let after ← ahead (do skipWord; return (← seesProperty) || (← sees "*"))
        return after != some true
      else return true
    | none => return true

/-- The name of an index, or of the keys that a mapped type goes through, in square brackets. -/
def indexKey : Reader (List Tree) := do
  sign "["
  let n ← name .identifier
  if ← sign? ":" then
    let t ← self .type
    sign "]"
    return [n, t]
  else
    word "in"
    let t ← self .type
    let renamed ← if ← word? "as" then pure [← self .type] else pure []
    sign "]"
    return n.ofKind .typeIdentifier :: t :: renamed

/-- An index signature or a mapped type; signs may stand before the words that they add or remove.
-/
def indexSignature : Reader Tree := do
  let i ← start
  if (← sign? "+") || (← sign? "-") then word "readonly"
  else discard (attempt (do word "readonly"; check (← sees "[")))
  let k ← indexKey self
  let signed ← orElse (do sign "-"; return true) (orElse (do sign "+"; return true) (return false))
  let optional ← sign? "?"
  check (optional || !signed)
  let type ← if ← sees ":" then pure [← typeAnnotation self] else pure []
  check (!type.isEmpty || optional || k.length != 2)
  node .other i (k ++ type)

def typeMember : Reader Tree := do
  let i ← start
  if (← sees "(") || (← sees "<") then node .other i (← callSignature self)
  else
    match ← attempt (do
      discard (word? "abstract")
      word "new"
      check ((← sees "(") || (← sees "<"))
      callSignature self) with
    | some s => node .other i s
    | none =>
      orElse (indexSignature self) do
        let ws ← memberWords ["public", "private", "protected", "static", "override", "readonly",
          "async", "get", "set"]
        discard (sign? "*")
        let n ← propertyName self
        discard (sign? "?")
        if (← sees "(") || (← sees "<") then node .other i (ws ++ n :: (← callSignature self))
        else
          let type ← if ← sees ":" then pure [← typeAnnotation self] else pure []
          node .other i (ws ++ n :: type)

/-- What ends a member of an object type: a sign, a new line, or the closing brace. -/
def typeMemberEnd : Reader Unit := do
  if (← sign? ",") || (← sign? ";") then pure ()
  else check ((← sees "\x7d") || !(← onLine))

def objectType : Reader Tree := do
  let i ← start
  sign "\x7b"
  let ms ← upTo (sign? "\x7d") (do
    if (← sign? ",") || (← sign? ";") then return []
    else
      let m ← typeMember self
      typeMemberEnd
      return [m])
  node .other i ms

/-! ### Types -/

/-- A member of a tuple, which may be named, optional, or stand for several. -/
def tupleMember : Reader Tree := do
  let i ← start
  discard (sign? "...")
  match ← attempt (do
    let n ← name .identifier
    discard (sign? "?")
    return [n, ← typeAnnotation self]) with
  | some found => node .other i found
  | none =>
    let t ← self .type
    discard (sign? "?")
    node .other i [t]

/-- A dotted name whose last part names a type, with its arguments. -/
def namedType : Reader Tree := do
  let i ← start
  let first ← name .typeIdentifier
  let parts ← upTo (return !(← sees ".")) (do
    sign "."
    return [← name .typeIdentifier])
  let names := match parts.getLast? with
    | some last =>
      (first :: parts.dropLast).mapIdx (fun k t =>
        t.ofKind (if k = 0 then .identifier else .propertyName)) ++ [last]
    | none => [first]
  let args ←
    if (← onLine) && (← sees "<") && !(← sees "<<") then pure [← typeArguments self] else pure []
  node .other i (names ++ args)

/-- What stands after `typeof`: a dotted name, perhaps with indices and arguments. -/
def typeQuery : Reader Tree := do
  let i ← start
  word "typeof"
  let base ←
    if ← seesWord "import" then do
      skipWord
      sign "("
      let s ← string
      sign ")"
      pure s
    else name .identifier
  let parts ← upTo (return !((← onLine) && ((← sees ".") || (← sees "[")))) (do
    if ← sign? "." then return [← orElse (name .propertyName) privateName]
    else
      sign "["
      let t ← self .type
      sign "]"
      return [t])
  let args ← if (← onLine) && (← sees "<") then pure [← typeArguments self] else pure []
  node .other i (base :: parts ++ args)

/-- A template whose substitutions are types. -/
def templateType : Reader Tree := do
  let i ← start
  sign (String.ofList [Char.ofNat 96])
  let ts ← upTo closed (do
    let t ← self .type
    sign "\x7d"
    return [t])
  node .other i ts
where
  /-- Moves past a plain part; whether it is the last one. -/
  closed : Reader Bool := fun s i => Lexeme.templatePart? s.chars (s.chars.size + 1) i

def importedType : Reader Tree := do
  let i ← start
  word "import"
  sign "("
  let s ← string
  sign ")"
  let parts ← upTo (return !(← sees ".")) (do
    sign "."
    return [← name .typeIdentifier])
  let args ← if ← sees "<" then pure [← typeArguments self] else pure []
  node .other i (s :: parts ++ args)

def functionType : Reader Tree := do
  let i ← start
  let ps ← if ← sees "<" then pure [← typeParameters self] else pure []
  let p ← parameters self
  sign "=>"
  node .other i (ps ++ p :: (← returned self))

def constructorType : Reader Tree := do
  let i ← start
  discard (attempt (do word "abstract"; check (← seesWord "new")))
  word "new"
  let ps ← if ← sees "<" then pure [← typeParameters self] else pure []
  let p ← parameters self
  sign "=>"
  node .other i (ps ++ [p, ← self .type])

/-- A word before a type, if a type follows it. -/
def prefixed (text : String) (t : Reader Tree) : Reader Tree := do
  let i ← start
  word text
  node .other i [← t]

def startsType : Reader Bool := do
  match ← next? with
  | some c =>
    return (← seesAnyWord) || Text.isAsciiDigit c ||
      ['(', '[', '\x7b', '\'', '"', '-', '<', '?', Char.ofNat 96].contains c
  | none => return false

/-- Whether the word that comes next stands before a type. -/
def seesPrefix : Reader Bool :=
  return (← ahead (do
    skipWord
    return (← startsType) && !(← seesWord "extends") && !(← sees "<") &&
      !(← sees "?"))) == some true

def inferredType : Reader Tree := do
  let i ← start
  word "infer"
  let n ← name .typeIdentifier
  let bound ← if ← word? "extends" then pure [← self .simpleType] else pure []
  node .other i (n :: bound)

/-- A type that begins with the word `w`. -/
def wordType (w : String) : Reader Tree := do
  if (w == "keyof" || w == "readonly") && (← seesPrefix) then prefixed w (self .baseType)
  else if w == "typeof" then typeQuery self
  else if w == "unique" && (← seesPrefix) then prefixed w (name .other)
  else if w == "infer" && (← seesPrefix) then inferredType self
  else if w == "import" then importedType self
  else if w == "new" || (w == "abstract" && (← seesPrefix)) then constructorType self
  else if plainTypes.contains w && (← ahead (do skipWord; check !(← sees "."))).isSome then
    name .other
  else namedType self

/-- A type in round brackets, or a function type. -/
def roundType : Reader Tree := orElse (functionType self) do
  let i ← start
  sign "("
  let t ← self .type
  sign ")"
  node .parenthesized i [t]

def tupleType : Reader Tree := do
  let i ← start
  sign "["
  node .other i (← commaList "]" false (tupleMember self))

def negativeNumber : Reader Tree := do
  let i ← start
  sign "-"
  node .other i [← number]

def plainType : Reader Tree := do
  match ← next? with
  | some '(' | some '<' => roundType self
  | some '[' => tupleType self
  | some '\x7b' => objectType self
  | some '"' | some '\'' => string
  | some '-' => negativeNumber
  | some c =>
    if c.toNat = 96 then templateType self
    else if Text.isAsciiDigit c then number
    else match ← nextWord? with
      | some w => wordType self w
      | none => failure
  | none => failure

/-- Square brackets after a type make an array of it, or look a property of it up. -/
def bracketed (t : Tree) : Reader Tree := iterate (fun t => do
  if (← onLine) && (← sees "[") then
    sign "["
    if ← sign? "]" then return (← node .other t.first [t], true)
    else
      let key ← self .type
      sign "]"
      return (← node .other t.first [t, key], true)
  else return (t, false)) t

def baseType : Reader Tree := do bracketed self (← plainType self)

/-- Types with a sign between them, which may also stand before the first one. -/
def joined (mark : String) (t : Reader Tree) : Reader Tree := do
  let i ← start
  discard (sign? mark)
  let ts ← iterate (fun found => do
    let found := (← t) :: found
    return (found, ← sign? mark)) []
  match ts with
  | [one] => return one
  | _ => node .other i ts.reverse

def simpleType : Reader Tree := joined "|" (joined "&" (self .baseType))

/-- A type that depends on whether another one extends a third. -/
def condition (t : Tree) : Reader Tree := do
  word "extends"
  let bound ← self .simpleType
  sign "?"
  let yes ← self .type
  sign ":"
  node .other t.first [t, bound, yes, ← self .type]

def type : Reader Tree := do
  let t ← self .simpleType
  if ← seesWord "extends" then orElse (condition self t) (return t) else return t

end DocAtlas.Braced.Parser
