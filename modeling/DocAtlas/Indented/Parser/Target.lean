import DocAtlas.Indented.Parser.Basic

/-!
Which expressions can be assigned to or deleted.
-/
namespace DocAtlas.Indented

def Term.isStarred : Term → Bool
  | .starred _ => true
  | _ => false

/-- Names, attributes and subscripts. -/
def Term.isPlace : Term → Bool
  | .name .. | .attribute .. | .subscript .. => true
  | _ => false

/-- What can be deleted: places, and sequences of them. -/
def Term.isDeletable : Term → Bool
  | .tuple items | .list items => items.attach.all fun ⟨t, _⟩ => t.isDeletable
  | t => t.isPlace

/-- What can be assigned to: places, sequences of targets, and starred targets. -/
def Term.isTarget : Term → Bool
  | .tuple items | .list items => items.attach.all fun ⟨t, _⟩ => t.isTarget
  | .starred t => t.isTarget
  | t => t.isPlace

end DocAtlas.Indented
