import DocAtlas.Naming
import DocAtlas.Order

/-!
Resolving dotted names to components.

A component is matched by every dotted ending of its qualified names. A name is resolved by the
longest run of its segments that matches, and of equally long ones by the one nearest to the front.
A single segment of a longer name counts only at its front, so that `pkg.Other` never means a
component that merely happens to be called `Other`.
-/
namespace DocAtlas

def dottedSegments (dotted : String) : List String := splitText '.' dotted

/-- The dotted endings of a name, the longest first. -/
def dottedEndings (dotted : String) : List String :=
  let parts := dottedSegments dotted
  (List.range parts.length).map fun k => String.intercalate "." (parts.drop k)

structure Resolver where
  /-- The segments of the qualified names with the ids of their components. -/
  entries : List (List String × String)

namespace Resolver

def ofComponents (components : List Component) : Resolver :=
  ⟨components.flatMap fun c => c.qualifiedNames.map fun name => (dottedSegments name, c.id)⟩

/-- The least id among the components matched by a run of segments. -/
def lookup? (r : Resolver) (window : List String) : Option String :=
  Order.least? (Order.byText id)
    ((r.entries.filter fun entry => window.isSuffixOf entry.1).map (·.2))

/-- The runs of `size` segments that may stand for the whole name, from the front on. -/
def windowsOf (parts : List String) (size : Nat) : List (List String) :=
  let starts := if size = 1 then 1 else parts.length + 1 - size
  (List.range starts).map fun start => (parts.drop start).take size

/-- All runs of segments in the order in which they are tried. -/
def windows (parts : List String) : List (List String) :=
  ((List.range parts.length).map fun k => parts.length - k).flatMap (windowsOf parts)

/-- The segments of a name; empty ones do not count. -/
def targetSegments (target : String) : List String := (dottedSegments target).filter (· != "")

def resolve? (r : Resolver) (target : String) : Option String :=
  (windows (targetSegments target)).findSome? r.lookup?

end Resolver

end DocAtlas
