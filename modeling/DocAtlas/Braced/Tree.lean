/-!
Syntax trees of sources whose blocks stand in braces. Only the kinds of nodes that tell something
about components are told apart; all others are of the kind `other`.
-/
namespace DocAtlas.Braced

inductive Kind where
  | comment
  | hashBang
  | exportStatement
  | importStatement
  | importClause
  | namespaceImport
  | namedImports
  | importSpecifier
  /-- Marks an import as one of types only. -/
  | typeMark
  | classDeclaration
  | abstractClass
  | heritage
  | extendsClause
  | implementsClause
  | method
  | accessibility
  | functionDeclaration
  | generatorDeclaration
  | variableDeclarator
  | identifier
  | typeIdentifier
  | propertyName
  | string
  | call
  | member
  | subscript
  | parenthesized
  | nonNull
  | object
  | array
  | pair
  | spread
  /-- A name that is both key and value. -/
  | shorthand
  /-- A name with a default, which only a pattern may hold. -/
  | shorthandDefault
  | assignment
  | objectPattern
  | arrayPattern
  | pairPattern
  | shorthandPattern
  | other
deriving DecidableEq

/-- What a node is to its parent. -/
inductive Role where
  | plain
  | name
  | localName
  | body
  | declaration
  | source
  | value
  | function
  | arguments
  | key
  | object
  | property
  | index
  | parameters
  | returnType
deriving DecidableEq

/-- A node with the places of its first character and after its last one. -/
inductive Tree where
  | node (kind : Kind) (role : Role) (first last : Nat) (children : List Tree)

namespace Tree

def kind : Tree → Kind
  | node k _ _ _ _ => k

def role : Tree → Role
  | node _ r _ _ _ => r

def first : Tree → Nat
  | node _ _ i _ _ => i

def last : Tree → Nat
  | node _ _ _ j _ => j

def children : Tree → List Tree
  | node _ _ _ _ cs => cs

/-- The same node in another role. -/
def as (t : Tree) (role : Role) : Tree := node t.kind role t.first t.last t.children

def ofKind (t : Tree) (kind : Kind) : Tree := node kind t.role t.first t.last t.children

def child? (t : Tree) (role : Role) : Option Tree := t.children.find? fun c => c.role = role

/-- Children that are no comments. -/
def parts (t : Tree) : List Tree :=
  t.children.filter fun c => c.kind ≠ .comment ∧ c.kind ≠ .typeMark

/-- A node and all below it, parents first, from left to right. -/
def walk : Tree → List Tree
  | node k r i j cs => node k r i j cs :: (cs.attach.flatMap fun ⟨c, _⟩ => c.walk)

def text (source : Array Char) (t : Tree) : String :=
  String.ofList (source.extract t.first t.last).toList

/-- Whether an object or array can only be a pattern. -/
def needsPattern : Tree → Bool
  | node k _ _ _ cs =>
    k = .shorthandDefault ||
      ((k = .object || k = .array || k = .pair || k = .spread) &&
        cs.attach.any fun ⟨c, _⟩ => c.needsPattern)

/-- Whether a node can be assigned to as it is. -/
def isPlace (t : Tree) : Bool :=
  t.kind = .identifier || t.kind = .member || t.kind = .subscript || t.kind = .nonNull

/-- The pattern that an expression stands for on the left of an assignment. -/
def pattern? : Tree → Option Tree
  | node .object r i j cs => do
    return node .objectPattern r i j (← cs.attach.mapM fun ⟨c, _⟩ => c.pattern?)
  | node .array r i j cs => do
    return node .arrayPattern r i j (← cs.attach.mapM fun ⟨c, _⟩ => c.pattern?)
  | node .pair r i j [key, value] => do
    return node .pairPattern r i j [key, (← value.pattern?).as .value]
  | node .spread r i j cs => do
    return node .other r i j (← cs.attach.mapM fun ⟨c, _⟩ => c.pattern?)
  | node .shorthand r i j cs => some (node .shorthandPattern r i j cs)
  | node .shorthandDefault r i j (name :: cs) =>
    some (node .other r i j (name.ofKind .shorthandPattern :: cs))
  | node .assignment r i j cs => some (node .other r i j cs)
  | t => if t.isPlace then some t else none

end Tree

end DocAtlas.Braced
