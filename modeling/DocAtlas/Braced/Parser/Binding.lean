import DocAtlas.Braced.Parser.Type

/-!
Reading of the patterns that declare names.
-/
namespace DocAtlas.Braced.Parser
open Reader

variable (self : Reach)

/-- A pattern with a default if one follows. -/
def withDefault : Reader Tree := do
  let i ← start
  let p ← self .binding
  if (← sees "=") && !(← sees "=>") then
    sign "="
    node .other i [p, ← self (.expression {})]
  else return p

def restBinding : Reader Tree := do
  let i ← start
  sign "..."
  node .other i [← self .binding]

/-- A pattern that a key is matched with. -/
def keyedBinding : Reader Tree := do
  let i ← start
  let key ← propertyName self
  sign ":"
  node .pairPattern i [key.as .key, (← withDefault self).as .value]

/-- A name that is both key and pattern. -/
def plainBinding : Reader Tree := do
  let i ← start
  let n ← name .shorthandPattern
  if ← sign? "=" then node .other i [n, ← self (.expression {})] else return n

def fieldBinding : Reader Tree := do
  if ← sees "..." then restBinding self else orElse (keyedBinding self) (plainBinding self)

def binding : Reader Tree := do
  let i ← start
  match ← next? with
  | some '\x7b' =>
    sign "\x7b"
    node .objectPattern i (← commaList "\x7d" true (fieldBinding self))
  | some '[' =>
    sign "["
    node .arrayPattern i (← commaList "]" true (withDefault self))
  | some '.' => restBinding self
  | _ => name .identifier

end DocAtlas.Braced.Parser
