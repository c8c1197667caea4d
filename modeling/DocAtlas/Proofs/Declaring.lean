import DocAtlas.Extract.Builtin
import DocAtlas.Extract.Extraction
import DocAtlas.Proofs.Mapping

/-!
What the adapters that are always available declare: components of the file at hand, under ids that
are derived from the file and their names.
-/
namespace DocAtlas

/-- The components belong to a file, and their ids are derived from it and their names. -/
def DeclaredIn (path : String) (cs : List Component) : Prop :=
  ∀ c ∈ cs, c.path = path ∧ c.id = componentId path c.name

theorem declaredIn_singleton {path : String} {c : Component} (hp : c.path = path)
    (hi : c.id = componentId path c.name) : DeclaredIn path [c] := by
  intro d hd
  rw [List.mem_singleton.mp hd]
  exact ⟨hp, hi⟩

theorem declaredIn_flatMap {path : String} {ys : List Yield}
    (h : ∀ y ∈ ys, DeclaredIn path y.components) :
    DeclaredIn path (ys.flatMap Yield.components) := by
  intro c hc
  obtain ⟨y, hy, hm⟩ := List.mem_flatMap.mp hc
  exact h y hy c hm

namespace Indented

theorem Class.yield_declares {unit : SourceUnit} {scope : Scope} {c : Class} {y : Yield}
    (h : c.yield unit scope = .ok y) : DeclaredIn unit.path y.components := by
  unfold Class.yield at h
  obtain ⟨bases, -, h⟩ := bind_ok.mp h
  obtain ⟨os, -, h⟩ := bind_ok.mp h
  obtain ⟨settings, -, h⟩ := bind_ok.mp h
  cases h
  dsimp only
  apply declaredIn_singleton <;> dsimp only

theorem sourceYield_declares {unit : SourceUnit} {scope : Scope} {body : List Statement}
    {y : Yield} (h : sourceYield unit scope body = .ok y) :
    DeclaredIn unit.path y.components := by
  unfold sourceYield at h
  dsimp only at h
  split at h
  · cases h
    exact List.forall_mem_nil _
  · obtain ⟨os, -, h⟩ := bind_ok.mp h
    obtain ⟨settings, -, h⟩ := bind_ok.mp h
    cases h
    dsimp only
    apply declaredIn_singleton <;> dsimp only

theorem yieldOf_declares {unit : SourceUnit} {body : List Statement} {y : Yield}
    (h : yieldOf unit body = .ok y) : DeclaredIn unit.path y.components := by
  unfold yieldOf at h
  dsimp only at h
  split at h
  · exact sourceYield_declares h
  · obtain ⟨yields, hyields, h⟩ := bind_ok.mp h
    cases h
    refine declaredIn_flatMap fun y hy => ?_
    obtain ⟨c, -, hc⟩ := exists_of_mem_mapM hyields hy
    exact Class.yield_declares hc

theorem extract_declares {u : SourceUnit} {text : String} {y : Yield}
    (h : extract u text = .ok y) : DeclaredIn u.path y.components := by
  unfold extract at h
  split at h
  · cases h
  · split at h
    · rename_i hyield
      cases h
      exact yieldOf_declares hyield
    · cases h

end Indented

namespace Braced

theorem Declaration.yield_declares (source : Array Char) (unit : SourceUnit) (scope : Scope)
    (d : Declaration) : DeclaredIn unit.path (d.yield source unit scope).components := by
  unfold Declaration.yield
  dsimp only
  apply declaredIn_singleton <;> dsimp only

theorem sourceYield_declares (source : Array Char) (unit : SourceUnit) (scope : Scope)
    (statements : List Tree) :
    DeclaredIn unit.path (sourceYield source unit scope statements).components := by
  unfold sourceYield
  dsimp only
  split
  · exact List.forall_mem_nil _
  · dsimp only
    apply declaredIn_singleton <;> dsimp only

theorem yieldOf_declares (source : Array Char) (unit : SourceUnit) (statements : List Tree) :
    DeclaredIn unit.path (yieldOf source unit statements).components := by
  unfold yieldOf
  dsimp only
  split
  · exact sourceYield_declares source unit _ statements
  · refine declaredIn_flatMap fun y hy => ?_
    obtain ⟨d, -, rfl⟩ := List.mem_map.mp hy
    exact Declaration.yield_declares source unit _ d

theorem extract_declares {u : SourceUnit} {text : String} {y : Yield}
    (h : extract u text = .ok y) : DeclaredIn u.path y.components := by
  unfold extract at h
  dsimp only at h
  split at h
  · cases h
  · split at h
    · cases h
      exact yieldOf_declares _ u _
    · cases h

end Braced

theorem builtin_declares {a : Adapter} (ha : a ∈ builtinAdapters) {u : SourceUnit} {text : String}
    {y : Yield} (h : a.extract u text = .ok y) : DeclaredIn u.path y.components := by
  rcases List.mem_cons.mp ha with rfl | ha
  · exact Indented.extract_declares h
  · rw [List.mem_singleton.mp ha] at h
    exact Braced.extract_declares h

/-- Whatever stands in the sources, a registry of such adapters reads only such components. -/
theorem declaredIn_of_builtin {registry : Registry} (hr : registry.adapters ⊆ builtinAdapters)
    {content : SourceUnit → String} {u : SourceUnit} {y : Yield}
    (h : Extract.outcomeOf registry content u = .ok (.read y)) :
    DeclaredIn u.path y.components := by
  unfold Extract.outcomeOf at h
  split at h
  · cases h
  · rename_i a ha
    split at h
    · rename_i hy
      cases h
      obtain ⟨ecosystem, -, hfind⟩ := Option.bind_eq_some_iff.mp ha
      exact builtin_declares (hr (List.mem_of_find?_eq_some hfind)) hy
    · cases h
    · cases h

end DocAtlas
