/-!
The tokens of a text of settings.
-/
namespace DocAtlas.Yaml

inductive Token where
  | version (major minor : Nat)
  /-- A short form for the beginning of tags. -/
  | shorthand (handle start : String)
  | otherDirective
  | documentStart
  | documentEnd
  | textEnd
  | blockList
  | blockMapping
  | blockEnd
  | flowList
  | flowListEnd
  | flowMapping
  | flowMappingEnd
  /-- A hyphen before an item of a list. -/
  | item
  | comma
  | key
  | value
  | aliasOf (name : String)
  | anchor (name : String)
  /-- A tag, with the short form that it begins with if there is one. -/
  | tag (handle : Option String) (rest : String)
  | scalar (text : String) (plain : Bool)
deriving DecidableEq

end DocAtlas.Yaml
