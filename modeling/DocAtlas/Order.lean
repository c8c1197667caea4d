/-!
Orders by which results are listed: by several keys in turn, texts by code points.
-/
namespace DocAtlas.Order

/-- The first key that differs decides. -/
def andThen {α : Type} (first second : α → α → Ordering) (a b : α) : Ordering :=
  match first a b with
  | .eq => second a b
  | o => o

def byText {α : Type} (key : α → String) (a b : α) : Ordering :=
  if key a < key b then .lt else if key a == key b then .eq else .gt

def byNat {α : Type} (key : α → Nat) (a b : α) : Ordering :=
  if key a < key b then .lt else if key a == key b then .eq else .gt

/-- Larger keys first. -/
def byNatDown {α : Type} (key : α → Nat) (a b : α) : Ordering := byNat key b a

/-- Sorting keeps the order of equal items. -/
def sort {α : Type} (order : α → α → Ordering) (items : List α) : List α :=
  items.mergeSort fun a b => (order a b).isLE

/-- The first of the least items. -/
def least? {α : Type} (order : α → α → Ordering) : List α → Option α
  | [] => none
  | a :: rest =>
    match least? order rest with
    | none => some a
    | some b => if order b a == .lt then some b else some a

def sortTexts (items : List String) : List String := sort (byText id) items

end DocAtlas.Order
