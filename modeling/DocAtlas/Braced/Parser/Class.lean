import DocAtlas.Braced.Parser.Binding

/-!
Reading of classes and their members.
-/
namespace DocAtlas.Braced.Parser
open Reader

variable (self : Reach)

/-! ### Members -/

/-- Words that may stand before a member, each no lower in rank than the one before it. A word
counts if a name follows it. -/
def modifiers (rank? : String → Option Nat) : Reader (List Tree) := do
  let (_, found) ← iterate (fun (least, found) => do
    match (← nextWord?).bind fun w => (rank? w).map (w, ·) with
    | some (w, rank) =>
      let named ← ahead (do skipWord; return (← seesProperty) || (← sees "*"))
      if least ≤ rank && named == some true then
        let t ← name (if isAccess w then .accessibility else .other)
        return ((rank, t :: found), true)
      else return ((least, found), false)
    | none => return ((least, found), false)) (0, [])
  return found.reverse

def methodRank? : String → Option Nat
  | "static" => some 1
  | "async" => some 4
  | "get" | "set" => some 5
  | _ => none

def typedMethodRank? (w : String) : Option Nat :=
  if isAccess w || w == "declare" then some 0
  else if w == "abstract" then some 1
  else if w == "override" then some 2
  else if w == "readonly" then some 3
  else methodRank? w

def fieldRank? (w : String) : Option Nat := if w == "static" then some 1 else none

def typedFieldRank? (w : String) : Option Nat :=
  if w == "accessor" then some 4
  else (typedMethodRank? w).filter (· ≤ 3)

/-- Name and signature of a method. -/
def methodHeading : Reader (List Tree) := do
  discard (sign? "*")
  let n ← propertyName self
  discard (if ← typed then sign? "?" else pure false)
  return n.as .name :: (← callSignature self)

def method : Reader Tree := do
  let i ← start
  let ds ← decorators self
  let ws ← modifiers (if ← typed then typedMethodRank? else methodRank?)
  let heading ← methodHeading self
  let b ← self .block
  node .method i (ds ++ ws ++ heading ++ [b.as .body])

def initial : Reader (List Tree) := do
  if ← sign? "=" then return [← self (.expression { breaks := true })] else return []

def field : Reader Tree := do
  let i ← start
  let ds ← decorators self
  let ws ← modifiers fieldRank?
  let n ← propertyName self
  let value ← initial self
  semicolon
  node .other i (ds ++ ws ++ n :: value)

def staticBlock : Reader Tree := do
  let i ← start
  word "static"
  node .other i [← self .block]

def member : Reader Tree :=
  orElse (staticBlock self) <| orElse (do
    let m ← method self
    discard (sign? ";")
    return m) (field self)

/-- What ends a member that has no body. -/
def typedEnd : Reader Unit := do
  if ← sign? "," then pure () else semicolon

/-- A method without a body. -/
def methodSignature : Reader Tree := do
  let i ← start
  let ws ← modifiers typedMethodRank?
  let heading ← methodHeading self
  typedEnd
  node .other i (ws ++ heading)

def typedField : Reader Tree := do
  let i ← start
  let ds ← decorators self
  let ws ← modifiers typedFieldRank?
  let n ← propertyName self
  discard (orElse (sign "?") (orElse (sign "!") (pure ())))
  let type ← if ← sees ":" then pure [← typeAnnotation self] else pure []
  let value ← initial self
  typedEnd
  node .other i (ds ++ ws ++ n :: type ++ value)

def typedIndex : Reader Tree := do
  let i ← start
  let ws ← modifiers (fun w => (typedFieldRank? w).filter fun _ => w != "readonly")
  let t ← indexSignature self
  typedEnd
  node .other i (ws ++ [t])

def typedMember : Reader Tree := do
  if ← sees "@" then decorator self
  else
    orElse (staticBlock self) <| orElse (do
      let m ← method self
      discard (sign? ";")
      return m) <| orElse (methodSignature self) <| orElse (typedIndex self) (typedField self)

def classBody : Reader Tree := do
  let i ← start
  sign "\x7b"
  let members ← upTo (sign? "\x7d") (do
    if (← typed) && (← sees ";") then
      sign ";"
      return []
    else return [← if ← typed then typedMember self else member self])
  node .other i members

/-! ### Headings -/

/-- The class that another one extends, with arguments for its types. -/
def extendsClause : Reader Tree := do
  let i ← start
  word "extends"
  let parents ← someCommas (do
    let j ← start
    let value ← self .parent
    let args ← if ← sees "<" then pure [← typeArguments self] else pure []
    node .other j (value :: args))
  match parents with
  | .node _ _ _ _ (value :: args) :: others =>
    node .extendsClause i (value.as .value :: args ++ others)
  | _ => failure

def implementsClause : Reader Tree := do
  let i ← start
  word "implements"
  node .implementsClause i (← someCommas (self .type))

def heritage : Reader (List Tree) := do
  let i ← start
  if ← typed then
    let parents ← if ← seesWord "extends" then pure [← extendsClause self] else pure []
    let interfaces ← if ← seesWord "implements" then pure [← implementsClause self] else pure []
    if parents.isEmpty && interfaces.isEmpty then return []
    else return [← node .heritage i (parents ++ interfaces)]
  else if ← word? "extends" then
    return [← node .heritage i [← self (.expression {})]]
  else return []

/-- Whether the name of a class comes next. -/
def seesClassName : Reader Bool := do
  match ← nextWord? with
  | some w => return w != "extends" && !((← typed) && w == "implements")
  | none => return false

/-- A class after its first word. -/
def classRest : Reader (List Tree) := do
  let n ← if ← seesClassName then pure [(← name .identifier).as .name] else pure []
  let types ← if (← typed) && (← sees "<") then pure [← typeParameters self] else pure []
  let above ← heritage self
  let b ← self .classBody
  return n ++ types ++ above ++ [b.as .body]

end DocAtlas.Braced.Parser
