import DocAtlas.Yaml.Lexer
import DocAtlas.Yaml.Tag

/-!
The nodes of a text of settings, read from its tokens. They are numbered, since a node can be named
again, also inside of itself.
-/
namespace DocAtlas.Yaml

/-- A node; those that a list or a mapping consists of are given by their numbers. -/
inductive Node where
  | scalar (tag : Tag) (text : String)
  | list (tag : Tag) (items : List Nat)
  | mapping (tag : Tag) (entries : List (Nat × Nat))

namespace Node

def tag : Node → Tag
  | .scalar t _ => t
  | .list t _ => t
  | .mapping t _ => t

def retag (t : Tag) : Node → Node
  | .scalar _ s => .scalar t s
  | .list _ items => .list t items
  | .mapping _ entries => .mapping t entries

end Node

/-- What is known when part of the tokens has been read. -/
structure Progress where
  next : Nat := 0
  /-- The nodes by their numbers; those that are not complete are empty. -/
  nodes : Array Node := #[]
  /-- The numbers of nodes by the names of their anchors. -/
  anchors : List (String × Nat) := []
  /-- The short forms for the beginnings of tags. -/
  shorthands : List (String × String) := []

abbrev NodeReader (α : Type) : Type := ReaderT (Array Token) (StateT Progress (Except Fault)) α

namespace NodeReader

def fail {α : Type} : NodeReader α := throw .malformed

def demand (b : Bool) : NodeReader Unit := if b then pure () else fail

def peek : NodeReader Token := do
  return ((← read)[(← get).next]?).getD .textEnd

def skip : NodeReader Unit := modify fun p => { p with next := p.next + 1 }

def sees (ts : List Token) : NodeReader Bool := return ts.contains (← peek)

/-- Moves past a token if it comes next. -/
def take? (t : Token) : NodeReader Bool := do
  if (← peek) = t then
    skip
    return true
  else return false

/-- Items up to the one that is none. -/
def many {α : Type} (item? : Bool → NodeReader (Option α)) : NodeReader (List α) := do
  let size := (← read).size
  go (size + 1) true
where
  go : Nat → Bool → NodeReader (List α)
    | 0, _ => fail
    | fuel + 1, first => do
      match ← item? first with
      | some a => return a :: (← go fuel false)
      | none => return []

/-! ### Properties -/

def anchor? : NodeReader (Option String) := do
  match ← peek with
  | .anchor name =>
    skip
    return some name
  | _ => return none

/-- The tag that comes next, in full. -/
def tag? : NodeReader (Option String) := do
  match ← peek with
  | .tag handle rest =>
    skip
    match handle with
    | none => return some rest
    | some h =>
      match (← get).shorthands.lookup h with
      | some start => return some (start ++ rest)
      | none => fail
  | _ => return none

/-- Anchor and tag in either order. -/
def properties : NodeReader (Option String × Option String) := do
  match ← anchor? with
  | some a => return (some a, ← tag?)
  | none =>
    match ← tag? with
    | some t => return (← anchor?, some t)
    | none => return (none, none)

/-- The tag that stands for none. -/
def openTag : String := "!"

def tagOr (tag : Option String) (usual : Tag) : Tag :=
  match tag with
  | some t => if t == openTag then usual else Tag.ofText t
  | none => usual

/-- The type of a scalar: the form of a plain one without a tag tells it. -/
def scalarTag (tag : Option String) (text : String) (plain : Bool) : Tag :=
  tagOr tag (if plain || tag.isSome then Tag.ofForm text else .text)

/-! ### Numbers -/

def emptyNode : Node := .scalar .null ""

/-- A node under a number of its own, which it has from its beginning on. -/
def numbered (n : NodeReader Node) : NodeReader Nat := do
  let k := (← get).nodes.size
  modify fun p => { p with nodes := p.nodes.push emptyNode }
  let made ← n
  modify fun p => { p with nodes := p.nodes.setIfInBounds k made }
  return k

/-- As `numbered`; the node can be named from its beginning on. -/
def anchored (name : String) (n : NodeReader Node) : NodeReader Nat :=
  numbered do
    modify fun p => { p with anchors := (name, p.nodes.size - 1) :: p.anchors }
    n

def empty : NodeReader Nat := numbered (return emptyNode)

/-! ### Nodes -/

/-- Where a node stands: whether it may be a block, and whether that may be a list without
indentation. -/
structure Setting where
  block : Bool
  flat : Bool

variable (self : Setting → NodeReader Nat)

def blockNode : NodeReader Nat := self ⟨true, false⟩

def flatNode : NodeReader Nat := self ⟨true, true⟩

def flowNode : NodeReader Nat := self ⟨false, false⟩

/-- A node that is missing before any of the tokens `ends`. -/
def nodeOrEmpty (ends : List Token) (n : NodeReader Nat) : NodeReader Nat := do
  if ← sees ends then empty else n

def blockItem? (ends : List Token) : NodeReader (Option Nat) := do
  if ← take? .item then return some (← nodeOrEmpty ends (blockNode self)) else return none

def blockItems : NodeReader (List Nat) := do
  let items ← many fun _ => blockItem? self [.item, .blockEnd]
  demand (← take? .blockEnd)
  return items

/-- The items of a list that is not indented further than the mapping around it. -/
def flatItems : NodeReader (List Nat) :=
  many fun _ => blockItem? self [.item, .key, .value, .blockEnd]

/-- A value after its mark, which may be missing with it. -/
def valueNode (ends : List Token) (n : NodeReader Nat) : NodeReader Nat := do
  if ← take? .value then nodeOrEmpty ends n else empty

def blockPair? : NodeReader (Option (Nat × Nat)) := do
  let ends : List Token := [.key, .value, .blockEnd]
  if ← take? .key then
    let k ← nodeOrEmpty ends (flatNode self)
    return some (k, ← valueNode ends (flatNode self))
  else return none

def blockPairs : NodeReader (List (Nat × Nat)) := do
  let entries ← many fun _ => blockPair? self
  demand (← take? .blockEnd)
  return entries

/-- An item of a list in brackets; a key makes it a mapping of its own. -/
def flowItem? (first : Bool) : NodeReader (Option Nat) := do
  if ← take? .flowListEnd then return none
  else
    demand (first || (← take? .comma))
    if ← take? .key then
      let ends : List Token := [.comma, .flowListEnd]
      return some (← numbered do
        let k ← nodeOrEmpty (.value :: ends) (flowNode self)
        return .mapping .mapping [(k, ← valueNode ends (flowNode self))])
    else if ← take? .flowListEnd then return none
    else return some (← flowNode self)

def flowPair? (first : Bool) : NodeReader (Option (Nat × Nat)) := do
  if ← take? .flowMappingEnd then return none
  else
    demand (first || (← take? .comma))
    if ← take? .key then
      let ends : List Token := [.comma, .flowMappingEnd]
      let k ← nodeOrEmpty (.value :: ends) (flowNode self)
      return some (k, ← valueNode ends (flowNode self))
    else if ← take? .flowMappingEnd then return none
    else return some (← flowNode self, ← empty)

/-- What a node consists of, after its properties; without any of them it cannot be missing. -/
def content (s : Setting) (named : Bool) (tag : Option String) : NodeReader Node := do
  match ← peek with
  | .item =>
    if s.flat then return .list (tagOr tag .list) (← flatItems self) else missing
  | .scalar text plain =>
    skip
    return .scalar (scalarTag tag text plain) text
  | .flowList =>
    skip
    return .list (tagOr tag .list) (← many (flowItem? self))
  | .flowMapping =>
    skip
    return .mapping (tagOr tag .mapping) (← many (flowPair? self))
  | .blockList =>
    if s.block then
      skip
      return .list (tagOr tag .list) (← blockItems self)
    else missing
  | .blockMapping =>
    if s.block then
      skip
      return .mapping (tagOr tag .mapping) (← blockPairs self)
    else missing
  | _ => missing
where
  missing : NodeReader Node :=
    if named || tag.isSome then return .scalar (scalarTag tag "" true) "" else fail

/-- A node; no two of them have the same anchor. -/
def node (s : Setting) : NodeReader Nat := do
  match ← peek with
  | .aliasOf name =>
    skip
    match (← get).anchors.lookup name with
    | some k => return k
    | none => fail
  | _ =>
    let (anchor, tag) ← properties
    match anchor with
    | some name =>
      demand ((← get).anchors.lookup name).isNone
      anchored name (content self s true tag)
    | none => numbered (content self s false tag)

/-- Nodes nested less than `n` deep. -/
def reach : Nat → Setting → NodeReader Nat
  | 0, _ => throw .tooDeep
  | n + 1, s => node (reach n) s

/-! ### Documents -/

/-- The directives before a document; at most one tells a version, which begins with 1. -/
def directives : NodeReader Unit := do
  let found : List Token ← many fun _ => do
    match ← peek with
    | .version major minor =>
      skip
      demand (major = 1)
      return some (.version major minor)
    | .shorthand h start =>
      skip
      return some (.shorthand h start)
    | .otherDirective =>
      skip
      return some .otherDirective
    | _ => return none
  let short := found.filterMap fun
    | .shorthand h start => some (h, start)
    | _ => none
  let versions := found.filter fun
    | .version _ _ => true
    | _ => false
  demand (versions.length ≤ 1 && (short.map Prod.fst).eraseDups.length = short.length)
  modify fun p => { p with shorthands := short ++ standard }
where
  standard : List (String × String) := [("!", "!"), ("!!", Tag.start)]

def seesDirective : NodeReader Bool := do
  match ← peek with
  | .version _ _ | .shorthand _ _ | .otherDirective => return true
  | _ => return false

/-- The marks after a document. -/
def documentEnds : NodeReader Bool := do
  let found ← many fun _ => do
    if ← take? .documentEnd then return some () else return none
  return !found.isEmpty

/-- A document after its mark, which may be empty. -/
def markedDocument (n : NodeReader Nat) : NodeReader Nat := do
  directives
  demand (← take? .documentStart)
  if (← seesDirective) || (← sees [.documentStart, .documentEnd, .textEnd]) then empty
  else n

/-- The only document of a text; `none` if there is none. Each node within another one takes two
calls more. -/
def document (room : Nat) : NodeReader (Option Nat) := do
  let n := blockNode (reach (room / 2))
  if ← sees [.textEnd] then return none
  else
    let marked := (← seesDirective) || (← sees [.documentStart])
    let found ←
      if marked then markedDocument n
      else do
        directives
        n
    discard documentEnds
    demand (← sees [.textEnd])
    return some found

end NodeReader

/-- The number of the node that a text consists of, with all nodes; `none` if it has none. Calls
may be nested `room` deep. -/
def node? (room : Nat) (s : String) : Except Fault (Option Nat × Array Node) := do
  let ts ← tokens s
  let (found, p) ← (NodeReader.document room ts).run {}
  return (found, p.nodes)

end DocAtlas.Yaml
