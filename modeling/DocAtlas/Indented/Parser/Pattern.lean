import DocAtlas.Indented.Parser.Expression

/-!
Reading of the patterns that values are matched against. Names that a pattern binds are no terms,
so patterns are kept as groups of the terms and patterns in them.
-/
namespace DocAtlas.Indented.Parser
open Reader

variable (self : Reach)

/-- A name that a pattern binds. -/
def captured : Reader Unit := do
  let name ← word
  check (name != "_")
  check !(← seesSymbol ".")
  check !(← seesSymbol "(")
  check !(← seesSymbol "=")

def real? : Option Token → Option Number
  | some (.number (.imaginary _)) => none
  | some (.number n) => some n
  | _ => none

def imaginary? : Option Token → Option Number
  | some (.number (.imaginary x)) => some (.imaginary x)
  | _ => none

def anyNumber? (t : Option Token) : Option Number := real? t <|> imaginary? t

def numberFrom (f : Option Token → Option Number) : Reader Term := do
  match f (← token? 0) with
  | some n => skip; return .constant (.number n)
  | none => failure

def signed (f : Option Token → Option Number) : Reader Term := do
  if ← symbol? "-" then return .unary .minus (← numberFrom f) else numberFrom f

/-- A number with a sign, or the sum or difference of a real and an imaginary one. -/
def signedNumber : Reader Term := do
  let first ← token? 0
  let second ← token? 1
  let isReal := (real? (if isSymbol "-" first then second else first)).isSome
  let left ← signed anyNumber?
  if ← symbol? "+" then
    check isReal
    return .binary .add left (← numberFrom imaginary?)
  else if ← symbol? "-" then
    check isReal
    return .binary .sub left (← numberFrom imaginary?)
  else return left

def seesNumber : Reader Bool := do
  match ← token? 0 with
  | some (.number _) => return true
  | t => return isSymbol "-" t

/-- A name and attributes of it. -/
def dotted : Reader Term := do
  let at_ ← spot
  let id ← word
  iterate (fun t => do
    if ← symbol? "." then return (.attribute at_ t (← word), true) else return (t, false))
    (.name at_ id)

def maybeStar : Reader Node := do
  if ← symbol? "*" then
    if ← take (isWord "_") then return .group []
    else
      captured
      return .group []
  else self .pattern

/-- Whether a pattern or a starred one comes next. -/
def seesPattern : Reader Bool := do
  match ← token? 0 with
  | some (.word _) | some (.number _) | some (.text ..) | some (.bytes _) | some .formatted =>
    return true
  | some (.keyword k) => return (constantOf? k).isSome
  | some (.symbol s) => return ["(", "[", "\x7b", "-", "*"].contains s
  | _ => return false

/-- The patterns of a sequence; without brackets around it a comma makes one. -/
def openSequence : Reader Node := do
  let starred ← seesSymbol "*"
  match ← commaList (maybeStar self) seesPattern with
  | ([p], false) =>
    check !starred
    return p
  | (ps, _) => return .group ps

/-- A key of a mapping pattern: a literal or a dotted name. -/
def key : Reader Term := do
  if ← seesNumber then signedNumber
  else
    match ← token? 0 with
    | some (.word _) =>
      let t ← dotted
      match t with
      | .attribute .. => return t
      | _ => failure
    | some (.keyword k) =>
      match constantOf? k with
      | some c => skip; return .constant c
      | none => failure
    | t => if isText t then texts (bracketed self) else failure

/-- The entries of a mapping pattern; the rest of the mapping may be bound last. -/
def mapping : Reader Node := do
  if ← symbol? "\x7d" then return .group []
  else
    let (keys, values, _) ← iterate (fun (keys, values, _) => do
      if ← symbol? "**" then
        captured
        discard (symbol? ",")
        return ((keys, values, true), false)
      else
        let k ← key self
        symbol ":"
        let v ← self .pattern
        let more ← symbol? ","
        let more := more && !(← seesSymbol "\x7d")
        return ((k :: keys, v :: values, false), more)) (([] : List Term), ([] : List Node), false)
    symbol "\x7d"
    return .group (Node.terms keys.reverse ++ values.reverse)

/-- The patterns of a class pattern, those for named attributes last. -/
def classArguments (type : Term) : Reader Node := do
  if ← symbol? ")" then return .group [.term type]
  else
    let (found, _) ← iterate (fun (found, named) => do
      let isNamed := isSymbol "=" (← token? 1)
      check (isNamed || !named)
      if isNamed then
        discard word
        symbol "="
      let p ← self .pattern
      let more ← symbol? ","
      let more := more && !(← seesSymbol ")")
      return ((p :: found, isNamed), more)) (([] : List Node), false)
    symbol ")"
    return .group (.term type :: found.reverse)

/-- A name binds, a dotted name is a value, and either may be a class with patterns for its
attributes. -/
def namePattern : Reader Node := do
  if ← take (isWord "_") then return .group []
  else
    let t ← dotted
    if ← symbol? "(" then classArguments self t
    else
      check !(← seesSymbol "=")
      match t with
      | .attribute .. => return .group [.term t]
      | _ => return .group []

def closedPattern : Reader Node := do
  if ← seesNumber then return .group [.term (← signedNumber)]
  else
    match ← token? 0 with
    | some (.word _) => namePattern self
    | some (.keyword k) =>
      check (constantOf? k).isSome
      skip
      return .group []
    | some (.symbol "(") =>
      skip
      if ← symbol? ")" then return .group []
      else
        let p ← openSequence self
        symbol ")"
        return p
    | some (.symbol "[") =>
      skip
      if ← symbol? "]" then return .group []
      else
        let (ps, _) ← commaList (maybeStar self) seesPattern
        symbol "]"
        return .group ps
    | some (.symbol "\x7b") =>
      skip
      mapping self
    | t => if isText t then return .group [.term (← texts (bracketed self))] else failure

def pattern : Reader Node := do
  let alternatives ← many (closedPattern self) (symbol? "|")
  let p := match alternatives with
    | [p] => p
    | ps => .group ps
  if ← keyword? "as" then
    captured
    return .group [p]
  else return p

end DocAtlas.Indented.Parser
