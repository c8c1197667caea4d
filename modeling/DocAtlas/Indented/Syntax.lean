import DocAtlas.Indented.Token

/-!
The syntax of sources whose blocks are given by indentation: the terms that expressions are made
of, and the statements. Statements that are only searched for terms are kept as their parts.
-/
namespace DocAtlas.Indented

inductive Constant where
  | none
  | true
  | false
  | ellipsis
  | number (value : Number)
  /-- A text by its code points; `marked` if it is marked as a text. -/
  | text (value : List Nat) (marked : Bool)
  | bytes (value : List Nat)

inductive BinaryOp where
  | add | sub | mul | matMul | div | mod | floorDiv | power | shiftLeft | shiftRight
  | bitOr | bitXor | bitAnd
deriving DecidableEq

inductive UnaryOp where
  | invert | not | plus | minus
deriving DecidableEq

inductive BooleanOp where
  | and | or
deriving DecidableEq

inductive Comparator where
  | equal | notEqual | less | lessEqual | greater | greaterEqual | is | isNot | in | notIn
deriving DecidableEq

/-- What a comprehension builds. -/
inductive Collection where
  | list | set | generator
deriving DecidableEq

mutual

inductive Parameter where
  | mk (name : String) (typed : Option Term) (default : Option Term)

/-- The parameters of a function: those given by position only, by position or name, all further
ones, those given by name only, and all further named ones. -/
inductive Signature where
  | mk (positionalOnly positional : List Parameter) (rest : Option Parameter)
      (namedOnly : List Parameter) (namedRest : Option Parameter)

inductive Term where
  | name (spot : Spot) (id : String)
  | constant (value : Constant)
  | attribute (spot : Spot) (value : Term) (attr : String)
  | subscript (value index : Term)
  | slice (lower upper step : Option Term)
  | call (function : Term) (arguments keywords : List Term)
  /-- A named argument; without a name, a mapping of them. -/
  | keyword (name : Option String) (value : Term)
  | starred (value : Term)
  | boolean (op : BooleanOp) (operands : List Term)
  | binary (op : BinaryOp) (left right : Term)
  | unary (op : UnaryOp) (operand : Term)
  | comparison (left : Term) (ops : List Comparator) (operands : List Term)
  | conditional (test body otherwise : Term)
  | lambda (signature : Signature) (body : Term)
  | named (target value : Term)
  | awaited (value : Term)
  | yielded (value : Option Term)
  | yieldedFrom (value : Term)
  | tuple (items : List Term)
  | list (items : List Term)
  | set (items : List Term)
  | dict (entries : List Term)
  /-- An entry of a dictionary; without a key, all entries of another one. -/
  | entry (key : Option Term) (value : Term)
  | comprehension (kind : Collection) (item : Term) (clauses : List Term)
  | dictComprehension (key value : Term) (clauses : List Term)
  | clause (isAsync : Bool) (target source : Term) (conditions : List Term)
  | formatted (pieces : List Term)
  | field (value : Term) (conversion : Option Char) (layout : Option Term)

end

instance : Inhabited Term := ⟨.constant .none⟩

def Parameter.name : Parameter → String
  | mk name _ _ => name

def Parameter.typed : Parameter → Option Term
  | mk _ typed _ => typed

def Parameter.default : Parameter → Option Term
  | mk _ _ default => default

def Signature.positionalOnly : Signature → List Parameter
  | mk only _ _ _ _ => only

def Signature.positional : Signature → List Parameter
  | mk _ positional _ _ _ => positional

def Signature.rest : Signature → Option Parameter
  | mk _ _ rest _ _ => rest

def Signature.namedOnly : Signature → List Parameter
  | mk _ _ _ named _ => named

def Signature.namedRest : Signature → Option Parameter
  | mk _ _ _ _ rest => rest

/-- An imported name and the name that it is bound to, if that is another one. -/
structure Alias where
  name : String
  bound : Option String := none

mutual

inductive Statement where
  | function (name : String) (signature : Signature) (body : List Statement)
      (decorators : List Term) (returns : Option Term)
  | type (name : String) (bases keywords : List Term) (body : List Statement)
      (decorators : List Term)
  | importModules (names : List Alias)
  /-- Names from the module `source`, which is sought `level - 1` packages up if `level` is not
  zero. -/
  | importNames (level : Nat) (source : String) (names : List Alias)
  | assign (targets : List Term) (value : Term)
  | annotate (target typed : Term) (value : Option Term)
  | expression (value : Term)
  | other (parts : List Node)

/-- A node of the syntax tree; a group stands for one that is only searched. -/
inductive Node where
  | term (t : Term)
  | parameter (p : Parameter)
  | signature (s : Signature)
  | statement (s : Statement)
  | group (parts : List Node)

end

namespace Node

def terms (ts : List Term) : List Node := ts.map .term

def optional (t : Option Term) : List Node := terms t.toList

def statements (ss : List Statement) : List Node := ss.map .statement

def parameters (ps : List Parameter) : List Node := ps.map .parameter

end Node

def Parameter.children (p : Parameter) : List Node := Node.optional p.typed

/-- The parameters; the defaults of those given by name only stand before the further named ones,
all other defaults stand last. -/
def Signature.children (s : Signature) : List Node :=
  Node.parameters s.positionalOnly ++ Node.parameters s.positional ++
    Node.parameters s.rest.toList ++ Node.parameters s.namedOnly ++
    Node.terms (s.namedOnly.filterMap Parameter.default) ++ Node.parameters s.namedRest.toList ++
    Node.terms ((s.positionalOnly ++ s.positional).filterMap Parameter.default)

def Term.entryKey : Term → List Term
  | .entry (some key) _ => [key]
  | _ => []

def Term.entryValue : Term → Term
  | .entry _ value => value
  | t => t

/-- The children of a node; those of a dictionary are all keys, then all values. -/
def Term.children : Term → List Node
  | .name .. | .constant _ => []
  | .attribute _ value _ => [.term value]
  | .subscript value index => [.term value, .term index]
  | .slice lower upper step => Node.optional lower ++ Node.optional upper ++ Node.optional step
  | .call function arguments keywords =>
    .term function :: Node.terms arguments ++ Node.terms keywords
  | .keyword _ value => [.term value]
  | .starred value => [.term value]
  | .boolean _ operands => Node.terms operands
  | .binary _ left right => [.term left, .term right]
  | .unary _ operand => [.term operand]
  | .comparison left _ operands => .term left :: Node.terms operands
  | .conditional test body otherwise => [.term test, .term body, .term otherwise]
  | .lambda signature body => [.signature signature, .term body]
  | .named target value => [.term target, .term value]
  | .awaited value => [.term value]
  | .yielded value => Node.optional value
  | .yieldedFrom value => [.term value]
  | .tuple items | .list items | .set items => Node.terms items
  | .dict entries => Node.terms (entries.flatMap entryKey) ++ Node.terms (entries.map entryValue)
  | .entry key value => Node.optional key ++ [.term value]
  | .comprehension _ item clauses => .term item :: Node.terms clauses
  | .dictComprehension key value clauses => .term key :: .term value :: Node.terms clauses
  | .clause _ target source conditions => .term target :: .term source :: Node.terms conditions
  | .formatted pieces => Node.terms pieces
  | .field value _ layout => .term value :: Node.optional layout

def Statement.children : Statement → List Node
  | .function _ signature body decorators returns =>
    .signature signature :: Node.statements body ++ Node.terms decorators ++ Node.optional returns
  | .type _ bases keywords body decorators =>
    Node.terms bases ++ Node.terms keywords ++ Node.statements body ++ Node.terms decorators
  | .importModules _ | .importNames .. => []
  | .assign targets value => Node.terms targets ++ [.term value]
  | .annotate target typed value => .term target :: .term typed :: Node.optional value
  | .expression value => [.term value]
  | .other parts => parts

def Node.children : Node → List Node
  | .term t => t.children
  | .parameter p => p.children
  | .signature s => s.children
  | .statement s => s.children
  | .group parts => parts

end DocAtlas.Indented
