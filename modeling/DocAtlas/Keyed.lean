/-!
Values under text keys in the order in which the keys first came.
-/
namespace DocAtlas

abbrev Keyed (α : Type) := List (String × α)

namespace Keyed

variable {α : Type}

def get? (k : Keyed α) (key : String) : Option α := (k.find? (·.1 == key)).map (·.2)

def has (k : Keyed α) (key : String) : Bool := k.any (·.1 == key)

/-- A known key keeps its place and takes the new value; a new one goes to the end. -/
def put (k : Keyed α) (key : String) (value : α) : Keyed α :=
  if k.has key then k.map fun entry => if entry.1 == key then (key, value) else entry
  else k ++ [(key, value)]

def putAll (k : Keyed α) (entries : List (String × α)) : Keyed α :=
  entries.foldl (fun k entry => k.put entry.1 entry.2) k

def ofList (entries : List (String × α)) : Keyed α := putAll [] entries

/-- A value is entered only under a key that is new. -/
def putNew (k : Keyed α) (key : String) (value : α) : Keyed α :=
  if k.has key then k else k ++ [(key, value)]

def keys (k : Keyed α) : List String := k.map (·.1)

/-- Gathers values under their keys, keys in order of first occurrence. -/
def gather (entries : List (String × α)) : Keyed (List α) :=
  entries.foldl (fun k entry => k.put entry.1 ((k.get? entry.1).getD [] ++ [entry.2])) []

end Keyed

end DocAtlas
