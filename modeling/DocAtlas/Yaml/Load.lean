import DocAtlas.Yaml.Node
import DocAtlas.Yaml.Reading

/-!
The value of a text of settings. A node that consists of others is begun before any of these, so it
can be one of them.
-/
namespace DocAtlas.Yaml

/-- What a number stands for; what this consists of is given by numbers again. -/
inductive Object where
  | plain (v : Value)
  | list (items : List Nat)
  | pair (first second : Nat)
  | set (keys : List Value)
  | mapping (entries : List (Value × Nat))

/-- What has been made of the nodes so far. -/
structure Making where
  nodes : Array Node
  /-- The objects of the nodes that have been begun, by the numbers of these, and pairs under further
  numbers. An object is an empty list until it is filled. -/
  objects : Array (Option Object)
  /-- The nodes whose objects are to be filled, in this order. -/
  pending : List Nat := []

abbrev Maker (α : Type) : Type := StateT Making (Except Fault) α

namespace Maker

def node? (k : Nat) : Maker (Option Node) := return (← get).nodes[k]?

def tagOf (k : Nat) : Maker Tag := return ((← node? k).map Node.tag).getD .other

def entriesOf (k : Nat) : Maker (List (Nat × Nat)) := do
  match ← node? k with
  | some (.mapping _ entries) => return entries
  | _ => return []

def setNode (k : Nat) (n : Node) : Maker Unit :=
  modify fun m => { m with nodes := m.nodes.setIfInBounds k n }

def setEntries (k : Nat) (entries : List (Nat × Nat)) : Maker Unit := do
  setNode k (.mapping (← tagOf k) entries)

def object? (k : Nat) : Maker (Option Object) := return ((← get).objects[k]?).join

def setObject (k : Nat) (o : Object) : Maker Unit :=
  modify fun m => { m with objects := m.objects.setIfInBounds k (some o) }

/-- An object under a number that no node has. -/
def further (o : Object) : Maker Nat := do
  let k := (← get).objects.size
  modify fun m => { m with objects := m.objects.push (some o) }
  return k

/-! ### Merging -/

/-- The default key of a mapping counts as a text among the other keys. -/
def settleKey (k : Nat) : Maker Unit := do
  match ← node? k with
  | some n => if n.tag = .default then setNode k (n.retag .text)
  | none => return

variable (flatten : Nat → Maker Unit)

def flattened (k : Nat) : Maker (List (Nat × Nat)) := do
  match ← node? k with
  | some (.mapping _ _) =>
    flatten k
    entriesOf k
  | _ => throw .malformed

/-- The entries that a value under a merge key stands for: those of a mapping, or of several of
which the first one counts most. -/
def mergedFrom (k : Nat) : Maker (List (Nat × Nat)) := do
  match ← node? k with
  | some (.list _ items) => return (← items.mapM (flattened flatten)).reverse.flatten
  | _ => flattened flatten k

/-- What an entry with a merge key stands for, which is taken out of the mapping `k`. A mapping that
is merged into itself has none of these entries left when it comes to the next one. -/
def mergeEntry (k : Nat) (entry : Nat × Nat) : Maker (List (Nat × Nat)) := do
  let entries ← entriesOf k
  if entries.contains entry then
    setEntries k (entries.erase entry)
    mergedFrom flatten entry.2
  else return []

/-- Replaces the merge keys of a mapping by what they stand for; this comes first, so that own
entries override it. -/
def flattenIn : Nat → Nat → Maker Unit
  | 0, _ => throw .tooDeep
  | room + 1, k => do
    let merges ← (← entriesOf k).filterM fun entry => return (← tagOf entry.1) = .merge
    let found ← merges.mapM (mergeEntry (flattenIn room) k)
    let own ← entriesOf k
    own.forM fun entry => settleKey entry.1
    setEntries k (found.flatten ++ own)

/-! ### Objects -/

/-- The text of a node for a scalar; a mapping has that of its default entry. -/
def textIn : Nat → Nat → Maker String
  | 0, _ => throw .tooDeep
  | room + 1, k => do
    match ← node? k with
    | some (.scalar _ s) => return s
    | some (.mapping _ entries) =>
      match ← entries.findM? fun entry => return (← tagOf entry.1) = .default with
      | some entry => textIn room entry.2
      | none => throw .malformed
    | _ => throw .malformed

/-- The value of a node with the tag of a scalar. -/
def scalar (room : Nat) (t : Tag) (k : Nat) : Maker Value := do
  let s ← textIn room k
  match t, ← node? k with
  | .moment, some (.mapping _ _) => Reading.unfit .notText
  | _, _ => Reading.scalar t s

/-- Begins the object of a node, unless this has been done. -/
def start (room : Nat) (k : Nat) : Maker Unit := do
  match ← object? k, ← tagOf k with
  | some _, _ => return
  | none, .merge | none, .default | none, .other => throw .malformed
  | none, .list | none, .mapping | none, .set | none, .orderedMapping | none, .pairs =>
    setObject k (.list [])
    modify fun m => { m with pending := m.pending ++ [k] }
  | none, t => setObject k (.plain (← scalar room t k))

/-- The entries of a mapping. Values that consist of others cannot be keys. -/
def entries (room : Nat) (k : Nat) : Maker (List (Value × Nat)) := do
  flattenIn room k
  (← entriesOf k).foldlM entry []
where
  entry (found : List (Value × Nat)) : Nat × Nat → Maker (List (Value × Nat))
    | (key, value) => do
      start room key
      match ← object? key with
      | some (.plain v) =>
        start room value
        return Value.put found v value
      | _ => throw .malformed

/-- A pair, which is written as a mapping with one entry. -/
def pair (room : Nat) (k : Nat) : Maker Nat := do
  match ← entriesOf k with
  | [(first, second)] =>
    start room first
    start room second
    further (.pair first second)
  | _ => throw .malformed

/-- What the object of a node consists of. -/
def content (room : Nat) (k : Nat) : Maker Object := do
  match ← node? k with
  | some (.list .list items) =>
    items.forM (start room)
    return .list items
  | some (.list .orderedMapping items) | some (.list .pairs items) =>
    return .list (← items.mapM (pair room))
  | some (.mapping .mapping _) => return .mapping (← entries room k)
  | some (.mapping .set _) => return .set ((← entries room k).map Prod.fst)
  | _ => throw .malformed

/-- Fills up to `n` objects, and those that are begun meanwhile after them. -/
def fill (room : Nat) : Nat → Maker Unit
  | 0 => return
  | n + 1 => do
    match (← get).pending with
    | [] => return
    | k :: rest =>
      modify fun m => { m with pending := rest }
      setObject k (← content room k)
      fill room n

end Maker

/-! ### Values -/

/-- The value of an object, given those of the numbers in it. -/
def Object.value (inner : Nat → Value) : Object → Value
  | .plain v => v
  | .list items => .list (items.map inner)
  | .pair a b => .pair (inner a) (inner b)
  | .set keys => .set keys
  | .mapping entries => .mapping (entries.map fun (key, k) => (key, inner k))

/-- An object as it is seen from within itself. -/
def Object.enclosing : Object → Value
  | .plain v => v
  | .list _ => .enclosing .list
  | .pair _ _ => .enclosing .pair
  | .set keys => .set keys
  | .mapping _ => .enclosing .mapping

namespace Making

def objectAt (m : Making) (k : Nat) : Object := ((m.objects[k]?).join).getD (.plain .null)

/-- The value of a number that is seen from within the objects `above`. There are no more of these
than objects at all, so `n` counts the ones that can still be added to them. -/
def valueWithin (m : Making) : Nat → List Nat → Nat → Value
  | 0, _, k => (m.objectAt k).enclosing
  | n + 1, above, k =>
    if above.contains k then (m.objectAt k).enclosing
    else (m.objectAt k).value (valueWithin m n (k :: above))

/-- The value of a number. Within its first `free` levels, what contains itself is written out. -/
def value (m : Making) : Nat → Nat → Value
  | 0, k => m.valueWithin m.objects.size [] k
  | free + 1, k => (m.objectAt k).value (m.value free)

end Making

/-- How deep settings are looked up before a value is taken as a whole: an item of a list that an
entry of a section holds. -/
def lookupDepth : Nat := 3

/-- The value that a text stands for; a text without a node stands for nothing. Calls may be nested
`room` deep. -/
def load (room : Nat) (s : String) : Except Fault Value := do
  match ← node? room s with
  | (none, _) => return .null
  | (some k, nodes) =>
    let making : Maker Unit := do
      Maker.start room k
      Maker.fill room nodes.size
    let (_, m) ← making.run { nodes := nodes, objects := Array.replicate nodes.size none }
    return m.value lookupDepth k

end DocAtlas.Yaml
