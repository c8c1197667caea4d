import DocAtlas.Indented.Parser.Target

/-!
Reading of expressions, from atoms to conditionals.
-/
namespace DocAtlas.Indented.Parser
open Reader

variable (self : Reach)

/-! ### What can begin an expression -/

def startingKeywords : List String :=
  ["None", "True", "False", "lambda", "not", "await"]

def startingSymbols : List String := ["(", "[", "\x7b", "+", "-", "~", "..."]

def startsExpression : Option Token → Bool
  | some (.word _) | some (.number _) | some (.text ..) | some (.bytes _) | some .formatted => true
  | some (.keyword k) => startingKeywords.contains k
  | some (.symbol s) => startingSymbols.contains s
  | _ => false

def seesExpression : Reader Bool := return startsExpression (← token? 0)

/-- Whether an expression or a starred one comes next. -/
def seesItem : Reader Bool := return startsExpression (← token? 0) || isSymbol "*" (← token? 0)

/-- Whether a name is given to an expression here. -/
def seesNaming : Reader Bool := do
  match ← token? 0, ← token? 1 with
  | some (.word _), some (.symbol ":=") => return true
  | _, _ => return false

/-! ### Sequences -/

/-- One item, unless a comma makes it a tuple. -/
def tupleUnlessSingle : List Term × Bool → Term
  | ([t], false) => t
  | (ts, _) => .tuple ts

def starredOr (item : Reader Term) : Reader Term := do
  if ← symbol? "*" then return .starred (← self .sum) else item

/-- Expressions with commas, some of them starred. -/
def starredExpressions : Reader Term :=
  return tupleUnlessSingle (← commaList (starredOr self (self .expression)) seesItem)

/-- As `starredExpressions` with names, in brackets. -/
def starredNamed : Reader (List Term × Bool) :=
  commaList (starredOr self (self .named)) seesItem

def yielding : Reader Term := do
  keyword "yield"
  if ← keyword? "from" then return .yieldedFrom (← self .expression)
  else if ← seesItem then return .yielded (some (← starredExpressions self))
  else return .yielded none

/-- Targets of a loop. -/
def targets : Reader Term := do
  let t := tupleUnlessSingle (← commaList (starredOr self (self .sum)) seesItem)
  check t.isTarget
  return t

/-! ### Comprehensions -/

def seesClause : Reader Bool := do
  let first ← token? 0
  return isKeyword "for" first || (isKeyword "async" first && isKeyword "for" (← token? 1))

def clause : Reader Term := do
  let isAsync ← keyword? "async"
  keyword "for"
  let target ← targets self
  keyword "in"
  let source ← self .disjunction
  let conditions ←
    if ← seesKeyword "if" then
      many (do keyword "if"; self .disjunction) (seesKeyword "if")
    else pure []
  return .clause isAsync target source conditions

def clauses : Reader (List Term) := many (clause self) seesClause

/-! ### Parameters -/

/-- Parameters read so far. -/
structure Parameters where
  positionalOnly : List Parameter := []
  /-- Backwards. -/
  positional : List Parameter := []
  slashed : Bool := false
  starred : Bool := false
  rest : Option Parameter := none
  /-- Backwards. -/
  namedOnly : List Parameter := []
  namedRest : Option Parameter := none

def Parameters.signature (p : Parameters) : Signature :=
  .mk p.positionalOnly p.positional.reverse p.rest p.namedOnly.reverse p.namedRest

/-- Whether a parameter given by position has a default; then so have all later ones. -/
def Parameters.hasDefault (p : Parameters) : Bool :=
  (p.positionalOnly ++ p.positional).any fun q => q.default.isSome

/-- A star without a name needs parameters given by name after it. -/
def Parameters.complete (p : Parameters) : Bool :=
  !p.starred || p.rest.isSome || !p.namedOnly.isEmpty

/-- The type after a colon, in signatures that have types. -/
def typed? (typed : Bool) (type : Reader Term) : Reader (Option Term) := do
  if typed && (← seesSymbol ":") then
    skip
    return some (← type)
  else return none

def plainParameter (typed : Bool) : Reader Parameter := do
  let name ← word
  let type ← typed? typed (self .expression)
  let default ← if ← symbol? "=" then some <$> self .expression else pure none
  return .mk name type default

def parameter (typed : Bool) (p : Parameters) : Reader Parameters := do
  check p.namedRest.isNone
  if ← symbol? "/" then
    check (!p.slashed && !p.starred && !p.positional.isEmpty)
    return { p with positionalOnly := p.positional.reverse, positional := [], slashed := true }
  else if ← symbol? "**" then
    check p.complete
    let name ← word
    let type ← typed? typed (self .expression)
    return { p with namedRest := some (.mk name type none) }
  else if ← symbol? "*" then
    check (!p.starred)
    if ← seesSymbol "," then return { p with starred := true }
    else
      let name ← word
      let type ← typed? typed (starredOr self (self .expression))
      return { p with starred := true, rest := some (.mk name type none) }
  else
    let q ← plainParameter self typed
    if p.starred then return { p with namedOnly := q :: p.namedOnly }
    else
      check (q.default.isSome || !p.hasDefault)
      return { p with positional := q :: p.positional }

/-- Parameters up to a closing symbol, which is not passed. -/
def signature (typed : Bool) (closing : String) : Reader Signature := do
  if ← seesSymbol closing then return (Parameters.signature {})
  else
    let p ← iterate (fun p => do
      let p ← parameter self typed p
      if ← symbol? "," then return (p, !(← seesSymbol closing))
      else
        check (← seesSymbol closing)
        return (p, false)) {}
    check p.complete
    return p.signature

def lambda : Reader Term := do
  let s ← signature self false ":"
  symbol ":"
  return .lambda s (← self .expression)

/-! ### Arguments -/

/-- Arguments read so far, backwards. -/
structure Arguments where
  positional : List Term := []
  keywords : List Term := []
  /-- A mapping of named arguments has been given. -/
  mapped : Bool := false

def Arguments.results (a : Arguments) : List Term × List Term :=
  (a.positional.reverse, a.keywords.reverse)

/-- One argument. After a named one no plain one may follow, after a mapping no starred one. -/
def argument (a : Arguments) : Reader Arguments := do
  if ← symbol? "**" then
    let value ← self .expression
    return { a with keywords := .keyword none value :: a.keywords, mapped := true }
  else if ← symbol? "*" then
    check (!a.mapped)
    return { a with positional := .starred (← self .expression) :: a.positional }
  else if isSymbol "=" (← token? 1) then
    let name ← word
    symbol "="
    return { a with keywords := .keyword (some name) (← self .expression) :: a.keywords }
  else
    check a.keywords.isEmpty
    return { a with positional := (← self .named) :: a.positional }

/-- More arguments, if any, and the closing bracket. -/
def argumentsFrom (a : Arguments) : Reader (List Term × List Term) := do
  let a ← iterate (fun a => do
    if ← symbol? "," then
      if ← seesSymbol ")" then return (a, false) else return (← argument self a, true)
    else return (a, false)) a
  symbol ")"
  return a.results

/-- Arguments up to a closing bracket, which is passed. -/
def arguments : Reader (List Term × List Term) := do
  if ← symbol? ")" then return ([], []) else argumentsFrom self (← argument self {})

/-- The arguments of a call; a generator may be the only one without brackets of its own. -/
def callArguments : Reader (List Term × List Term) := do
  if ← symbol? ")" then return ([], [])
  else
    let a ← argument self {}
    match a.positional, ← seesClause with
    | [item], true =>
      check !item.isStarred
      let cs ← clauses self
      symbol ")"
      return ([.comprehension .generator item cs], [])
    | _, _ => argumentsFrom self a

/-! ### Subscripts -/

def optionalBound : Reader (Option Term) := do
  if ← seesExpression then return some (← self .expression) else return none

/-- What follows the first colon of a slice. -/
def sliceRest (lower : Option Term) : Reader Term := do
  let upper ← optionalBound self
  let step ← if ← symbol? ":" then optionalBound self else pure none
  return .slice lower upper step

def subscriptItem : Reader Term := do
  if ← symbol? "*" then return .starred (← self .expression)
  else if ← symbol? ":" then sliceRest self none
  else
    let naming ← seesNaming
    let t ← self .named
    if !naming && (← seesSymbol ":") then
      skip
      sliceRest self (some t)
    else return t

/-- A starred item makes a tuple even if it stands alone. -/
def subscriptItems : List Term × Bool → Term
  | ([.starred t], _) => .tuple [.starred t]
  | found => tupleUnlessSingle found

def seesSubscript : Reader Bool := return (← seesItem) || (← seesSymbol ":")

def subscript : Reader Term := do
  let found ← commaList (subscriptItem self) seesSubscript
  symbol "]"
  return subscriptItems found

/-! ### Atoms -/

/-- Texts that stand side by side, gathered backwards. -/
structure Pieces where
  done : List Term := []
  pending : List Nat := []
  bytes : Bool := false
  text : Bool := false
  formatted : Bool := false

def Pieces.addText (p : Pieces) (value : List Nat) : Pieces :=
  { p with pending := p.pending ++ value }

def Pieces.flush (p : Pieces) : Pieces :=
  if p.pending.isEmpty then p
  else { p with done := .constant (.text p.pending false) :: p.done, pending := [] }

def Pieces.terms (p : Pieces) : List Term := p.flush.done.reverse

/-- The bracketed expression of a field stands in a group. -/
def field (atom : Reader Term) (layout : Reader Term) : Reader Term := do
  let value ← atom
  match ← token? 0 with
  | some (.conversion letter) =>
    skip
    match ← token? 0 with
    | some .formatted => return .field value letter (some (← layout))
    | _ => return .field value letter none
  | _ => failure

/-- The pieces of a formatted text up to its end; fields may have layouts `depth` levels deep. -/
def formattedPieces (atom : Reader Term) : Nat → Pieces → Reader Pieces
  | 0, _ => failure
  | depth + 1, p => do
    skip
    let p ← iterate (fun p => do
      match ← token? 0 with
      | some (.text value _) => skip; return (p.addText value, true)
      | some .field =>
        skip
        let t ← field atom (do
          return .formatted (← formattedPieces atom depth {}).terms)
        return ({ p.flush with done := t :: p.flush.done }, true)
      | _ => return (p, false)) p
    match ← token? 0 with
    | some .endFormatted => skip; return p
    | _ => failure

/-- Fields may stand in the layouts of fields, but no deeper. -/
def formattedDepth : Nat := 4

def isText : Option Token → Bool
  | some (.text ..) | some (.bytes _) | some .formatted => true
  | _ => false

/-- Texts side by side are one text; bytes and texts do not mix. -/
def texts (atom : Reader Term) : Reader Term := do
  let marked := match ← token? 0 with
    | some (.text _ marked) => marked
    | _ => false
  let p ← iterate (fun (p : Pieces) => do
    match ← token? 0 with
    | some (.text value _) => skip; return ({ p.addText value with text := true }, true)
    | some (.bytes value) => skip; return ({ p.addText value with bytes := true }, true)
    | some .formatted =>
      let p ← formattedPieces atom formattedDepth p
      return ({ p with text := true, formatted := true }, true)
    | _ => return (p, false)) {}
  check !(p.bytes && p.text)
  if p.bytes then return .constant (.bytes p.pending)
  else if p.formatted then return .formatted p.terms
  else return .constant (.text p.pending marked)

/-- What follows an opening parenthesis. -/
def group : Reader Term := do
  if ← symbol? ")" then return .tuple []
  else if ← seesKeyword "yield" then
    let t ← self .yielding
    symbol ")"
    return t
  else
    let first ← starredOr self (self .named)
    if !first.isStarred && (← seesClause) then
      let cs ← clauses self
      symbol ")"
      return .comprehension .generator first cs
    else if ← symbol? "," then
      let rest ← if ← seesItem then Prod.fst <$> starredNamed self else pure []
      symbol ")"
      return .tuple (first :: rest)
    else
      check !first.isStarred
      symbol ")"
      return first

/-- What follows an opening square bracket. -/
def list : Reader Term := do
  if ← symbol? "]" then return .list []
  else
    let (items, final) ← starredNamed self
    match items, final with
    | [item], false =>
      if ← seesClause then
        check !item.isStarred
        let cs ← clauses self
        symbol "]"
        return .comprehension .list item cs
      else
        symbol "]"
        return .list [item]
    | items, _ =>
      symbol "]"
      return .list items

def entry : Reader Term := do
  if ← symbol? "**" then return .entry none (← self .sum)
  else
    let key ← self .expression
    symbol ":"
    return .entry (some key) (← self .expression)

def seesEntry : Reader Bool := return (← seesExpression) || (← seesSymbol "**")

/-- The entries of a dictionary and its closing brace, or the clauses that give them. -/
def dictFrom (first : Term) : Reader Term := do
  match first with
  | .entry (some key) value =>
    if ← seesClause then
      let cs ← clauses self
      symbol "\x7d"
      return .dictComprehension key value cs
  | _ => pure ()
  let rest ←
    if ← symbol? "," then
      if ← seesEntry then Prod.fst <$> commaList (entry self) seesEntry else pure []
    else pure []
  symbol "\x7d"
  return .dict (first :: rest)

/-- The items of a set and its closing brace, or the clauses that give them. -/
def setFrom (first : Term) : Reader Term := do
  if !first.isStarred && (← seesClause) then
    let cs ← clauses self
    symbol "\x7d"
    return .comprehension .set first cs
  else
    let rest ←
      if ← symbol? "," then
        if ← seesItem then Prod.fst <$> starredNamed self else pure []
      else pure []
    symbol "\x7d"
    return .set (first :: rest)

/-- What follows an opening brace. -/
def braced : Reader Term := do
  if ← symbol? "\x7d" then return .dict []
  else if ← seesSymbol "**" then dictFrom self (← entry self)
  else
    let naming ← seesNaming
    let first ← starredOr self (self .named)
    if !naming && !first.isStarred && (← seesSymbol ":") then
      skip
      dictFrom self (.entry (some first) (← self .expression))
    else setFrom self first

/-- Brackets and what they hold. -/
def bracketed : Reader Term := do
  if ← symbol? "(" then group self
  else if ← symbol? "[" then list self
  else if ← symbol? "\x7b" then braced self
  else failure

def constantOf? : String → Option Constant
  | "None" => some .none
  | "True" => some .true
  | "False" => some .false
  | _ => none

def atom : Reader Term := do
  match ← token? 0 with
  | some (.word id) =>
    let at_ ← spot
    skip
    return .name at_ id
  | some (.number n) => skip; return .constant (.number n)
  | some (.keyword k) =>
    match constantOf? k with
    | some c => skip; return .constant c
    | none => failure
  | some (.symbol "...") => skip; return .constant .ellipsis
  | some (.symbol _) => bracketed self
  | t => if isText t then texts (bracketed self) else failure

/-! ### Operators -/

/-- Attributes, calls and subscripts; an attribute stands where its expression begins. -/
def primary : Reader Term := do
  let at_ ← spot
  iterate (fun t => do
    if ← symbol? "." then return (.attribute at_ t (← word), true)
    else if ← symbol? "(" then
      let (args, keywords) ← callArguments self
      return (.call t args keywords, true)
    else if ← symbol? "[" then return (.subscript t (← subscript self), true)
    else return (t, false)) (← atom self)

def power : Reader Term := do
  let base ← if ← keyword? "await" then Term.awaited <$> primary self else primary self
  if ← symbol? "**" then return .binary .power base (← self .factor) else return base

def signOf? : Option Token → Option UnaryOp
  | some (.symbol "+") => some .plus
  | some (.symbol "-") => some .minus
  | some (.symbol "~") => some .invert
  | _ => none

def factor : Reader Term := do
  match signOf? (← token? 0) with
  | some op => skip; return .unary op (← self .factor)
  | none => power self

/-- Binary operators, the weakest first; each level groups to the left. -/
def operatorLevels : List (List (String × BinaryOp)) :=
  [[("|", .bitOr)], [("^", .bitXor)], [("&", .bitAnd)],
    [("<<", .shiftLeft), (">>", .shiftRight)], [("+", .add), ("-", .sub)],
    [("*", .mul), ("/", .div), ("//", .floorDiv), ("%", .mod), ("@", .matMul)]]

def operatorOf? (ops : List (String × BinaryOp)) : Option Token → Option BinaryOp
  | some (.symbol s) => ops.lookup s
  | _ => none

def operators : List (List (String × BinaryOp)) → Reader Term
  | [] => factor self
  | ops :: tighter => do
    iterate (fun left => do
      match operatorOf? ops (← token? 0) with
      | some op => skip; return (.binary op left (← operators tighter), true)
      | none => return (left, false)) (← operators tighter)

def sum : Reader Term := operators self operatorLevels

def comparatorOf? : Option Token → Option Token → Option (Comparator × Nat)
  | some (.symbol s), _ =>
    [("==", Comparator.equal), ("!=", .notEqual), ("<", .less), ("<=", .lessEqual),
      (">", .greater), (">=", .greaterEqual)].lookup s |>.map (·, 1)
  | some (.keyword "in"), _ => some (.in, 1)
  | some (.keyword "not"), some (.keyword "in") => some (.notIn, 2)
  | some (.keyword "is"), some (.keyword "not") => some (.isNot, 2)
  | some (.keyword "is"), _ => some (.is, 1)
  | _, _ => none

def comparison : Reader Term := do
  let left ← self .sum
  let (ops, operands) ← iterate (fun (ops, operands) => do
    match comparatorOf? (← token? 0) (← token? 1) with
    | some (op, size) =>
      skip
      if size = 2 then skip
      return ((op :: ops, (← self .sum) :: operands), true)
    | none => return ((ops, operands), false)) ([], [])
  if ops.isEmpty then return left else return .comparison left ops.reverse operands.reverse

def inversion : Reader Term := do
  if ← keyword? "not" then return .unary .not (← self .inversion) else comparison self

/-- Operands joined by a word; a single one stands for itself. -/
def joined (op : BooleanOp) (between : String) (operand : Reader Term) : Reader Term := do
  match ← many operand (keyword? between) with
  | [t] => return t
  | ts => return .boolean op ts

def conjunction : Reader Term := joined .and "and" (self .inversion)

def disjunction : Reader Term := joined .or "or" (conjunction self)

def expression : Reader Term := do
  if ← keyword? "lambda" then lambda self
  else
    let body ← self .disjunction
    if ← keyword? "if" then
      let test ← self .disjunction
      keyword "else"
      return .conditional test body (← self .expression)
    else return body

def named : Reader Term := do
  if ← seesNaming then
    let at_ ← spot
    let id ← word
    symbol ":="
    return .named (.name at_ id) (← self .expression)
  else self .expression

end DocAtlas.Indented.Parser
