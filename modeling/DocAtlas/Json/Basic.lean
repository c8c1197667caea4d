import DocAtlas.Keyed
import DocAtlas.Decimal.Binary

/-!
Values of the data exchange format in which reports are written and requests are read.
-/
namespace DocAtlas

inductive Json where
  | null
  | bool (b : Bool)
  | int (n : Int)
  | float (x : Float)
  | text (s : String)
  | list (items : List Json)
  | object (fields : List (String × Json))

namespace Json

def texts (items : List String) : Json := .list (items.map .text)

def ofOption : Option String → Json
  | none => .null
  | some s => .text s

def get? (j : Json) (key : String) : Option Json :=
  match j with
  | .object fields => Keyed.get? fields key
  | _ => none

/-- A number as an exact quotient; the truth values count as one and zero. -/
def rat? : Json → Option Rat
  | .bool b => some (if b then 1 else 0)
  | .int n => some (n : Rat)
  | .float x => Decimal.toRat? x
  | _ => none

/-- Numbers are the same if their values are; infinities are compared as they stand. -/
def sameNumber (a b : Json) : Bool :=
  match a.rat?, b.rat? with
  | some x, some y => x == y
  | none, none => match a, b with
    | .float x, .float y => x == y
    | _, _ => false
  | _, _ => false

mutual

/-- Equality of values: numbers by value, objects without regard to order. -/
def same : Json → Json → Bool
  | .null, .null => true
  | .text a, .text b => a == b
  | .list a, .list b => sameLists a b
  | .object a, .object b => a.length == b.length && sameFields a b
  | a, b => sameNumber a b

def sameLists : List Json → List Json → Bool
  | [], [] => true
  | a :: as, b :: bs => same a b && sameLists as bs
  | _, _ => false

/-- Every field of the first object stands in the second one with the same value. -/
def sameFields : List (String × Json) → List (String × Json) → Bool
  | [], _ => true
  | (key, value) :: rest, other =>
    (match Keyed.get? other key with
      | some found => same value found
      | none => false) && sameFields rest other

end

end Json

end DocAtlas
