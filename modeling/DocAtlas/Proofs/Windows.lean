import DocAtlas.Proofs.Resolution
import DocAtlas.Proofs.Splitting

/-!
The runs of segments by which a dotted name is resolved. The main statement is that a name means the
least id matched by the first run that matches anything, longer runs coming before shorter ones and
equally long ones from the front on.
-/
namespace DocAtlas.Resolver

/-- A run of segments, by where it begins and how many it takes. -/
structure Window where
  start : Nat
  size : Nat

namespace Window

def segments (w : Window) (parts : List String) : List String := (parts.drop w.start).take w.size

/-- The run is part of the name and may stand for it: a single segment of a longer name only at its
front. -/
structure Stands (parts : List String) (w : Window) : Prop where
  pos : 1 ≤ w.size
  within : w.start + w.size ≤ parts.length
  front : w.size = 1 → 1 < parts.length → w.start = 0

/-- Longer runs come first, and of equally long ones the one nearer to the front. -/
def Before (v w : Window) : Prop := w.size < v.size ∨ v.size = w.size ∧ v.start < w.start

theorem Before.asymm {v w : Window} (h : v.Before w) : ¬w.Before v := by
  unfold Before at *
  omega

theorem segments_infix (w : Window) (parts : List String) : w.segments parts <:+: parts :=
  (List.take_prefix _ _).isInfix.trans (List.drop_suffix _ _).isInfix

theorem Stands.start_eq_zero {parts : List String} {w : Window} (h : w.Stands parts)
    (single : w.size = 1) : w.start = 0 := by
  have hwithin := h.within
  by_cases hlong : 1 < parts.length
  · exact h.front single hlong
  · omega

theorem Stands.length_segments {parts : List String} {w : Window} (h : w.Stands parts) :
    (w.segments parts).length = w.size := by
  have hwithin := h.within
  rw [segments, List.length_take, List.length_drop]
  omega

theorem Stands.segments_ne_nil {parts : List String} {w : Window} (h : w.Stands parts) :
    w.segments parts ≠ [] := by
  rw [ne_eq, ← List.length_eq_zero_iff, h.length_segments]
  exact Nat.one_le_iff_ne_zero.mp h.pos

end Window

/-! ### The order of the runs -/

/-- The runs that are tried, in their order. -/
def tried (parts : List String) : List Window :=
  ((List.range parts.length).map fun k => parts.length - k).flatMap fun size =>
    (List.range (if size = 1 then 1 else parts.length + 1 - size)).map fun start => ⟨start, size⟩

theorem windows_eq (parts : List String) :
    windows parts = (tried parts).map (·.segments parts) := by
  simp only [windows, tried, List.map_flatMap, List.map_map]
  rfl

theorem mem_tried {parts : List String} {w : Window} : w ∈ tried parts ↔ w.Stands parts := by
  constructor
  · intro h
    obtain ⟨size, hsize, hw⟩ := List.mem_flatMap.mp h
    obtain ⟨k, hk, rfl⟩ := List.mem_map.mp hsize
    obtain ⟨start, hstart, rfl⟩ := List.mem_map.mp hw
    rw [List.mem_range] at hk hstart
    constructor <;> dsimp only <;> split at hstart <;> omega
  · intro h
    have hpos := h.pos
    have hwithin := h.within
    refine List.mem_flatMap.mpr ⟨w.size, ?_, List.mem_map.mpr ⟨w.start, ?_, rfl⟩⟩
    · exact List.mem_map.mpr ⟨parts.length - w.size, List.mem_range.mpr (by omega), by omega⟩
    · rw [List.mem_range]
      split
      · rename_i single
        rw [h.start_eq_zero single]
        exact Nat.one_pos
      · omega

theorem tried_ordered (parts : List String) : (tried parts).Pairwise Window.Before := by
  unfold tried
  rw [List.pairwise_flatMap]
  constructor
  · intro size hsize
    rw [List.pairwise_map]
    apply List.pairwise_lt_range.imp
    intro a b h
    exact .inr ⟨rfl, h⟩
  · rw [List.pairwise_map]
    apply List.pairwise_lt_range.imp_of_mem
    intro j k hj hk hjk v hv w hw
    obtain ⟨_, -, rfl⟩ := List.mem_map.mp hv
    obtain ⟨_, -, rfl⟩ := List.mem_map.mp hw
    rw [List.mem_range] at hj hk
    exact .inl (by dsimp only; omega)

/-- In a list without ties, a search finds what comes before all else that it would find. -/
theorem findSome?_eq_some_iff_of_ordered {α β : Type} {before : α → α → Prop} {l : List α}
    (ordered : l.Pairwise before) (asymm : ∀ a b, before a b → ¬before b a) {f : α → Option β}
    {b : β} : l.findSome? f = some b ↔
      ∃ a ∈ l, f a = some b ∧ ∀ c ∈ l, before c a → f c = none := by
  rw [List.findSome?_eq_some_iff]
  constructor
  · rintro ⟨front, a, rest, rfl, ha, hfront⟩
    refine ⟨a, by simp, ha, ?_⟩
    intro c hc hbefore
    rcases List.mem_append.mp hc with hc | hc
    · exact hfront c hc
    · have hrest := (List.pairwise_append.mp ordered).2.1
      rcases List.mem_cons.mp hc with rfl | hc
      · exact absurd hbefore (asymm c c hbefore)
      · exact absurd hbefore (asymm a c (List.rel_of_pairwise_cons hrest hc))
  · rintro ⟨a, hm, ha, hnone⟩
    obtain ⟨front, rest, rfl⟩ := List.append_of_mem hm
    refine ⟨front, a, rest, rfl, ha, ?_⟩
    intro c hc
    have hbefore := (List.pairwise_append.mp ordered).2.2 c hc a List.mem_cons_self
    exact hnone c (List.mem_append_left _ hc) hbefore

/-! ### What a name means -/

section Target

variable {components : List Component} {target : String}

theorem resolve?_eq_some_iff {answer : String} :
    (ofComponents components).resolve? target = some answer ↔
      ∃ w : Window, w.Stands (targetSegments target) ∧
        (ofComponents components).lookup? (w.segments (targetSegments target)) = some answer ∧
        ∀ v : Window, v.Stands (targetSegments target) → v.Before w →
          (ofComponents components).lookup? (v.segments (targetSegments target)) = none := by
  rw [resolve?, windows_eq, List.findSome?_map, findSome?_eq_some_iff_of_ordered (tried_ordered _)
    fun _ _ => Window.Before.asymm]
  simp only [mem_tried, Function.comp_apply]

theorem resolve?_eq_none_iff :
    (ofComponents components).resolve? target = none ↔
      ∀ w : Window, w.Stands (targetSegments target) →
        (ofComponents components).lookup? (w.segments (targetSegments target)) = none := by
  rw [resolve?, windows_eq, List.findSome?_map, List.findSome?_eq_none_iff]
  simp only [mem_tried, Function.comp_apply]

end Target

/-! ### Runs as texts -/

theorem mem_dottedEndings {name : String} {run : List String} (hne : run ≠ [])
    (hd : ∀ s ∈ run, '.' ∉ s.toList) :
    String.intercalate "." run ∈ dottedEndings name ↔ run <:+ dottedSegments name := by
  constructor
  · intro h
    obtain ⟨k, hk, he⟩ := List.mem_map.mp h
    have hdrop : (dottedSegments name).drop k ≠ [] := by
      rw [ne_eq, List.drop_eq_nil_iff, not_le]
      exact List.mem_range.mp hk
    have hnodot : ∀ s ∈ (dottedSegments name).drop k, '.' ∉ s.toList :=
      fun s hs => not_mem_of_mem_splitText (List.mem_of_mem_drop hs)
    have hsplit := congrArg (splitText '.') he
    rw [splitText_intercalate (by simp) hdrop hnodot, splitText_intercalate (by simp) hne hd]
      at hsplit
    rw [← hsplit]
    exact List.drop_suffix k _
  · intro h
    have hpos := List.length_pos_iff.mpr hne
    have hle := h.length_le
    refine List.mem_map.mpr ⟨(dottedSegments name).length - run.length, ?_, ?_⟩
    · exact List.mem_range.mpr (by omega)
    · rw [← List.suffix_iff_eq_drop.mp h]

theorem no_dot_of_segments {target s : String} {w : Window}
    (h : s ∈ w.segments (targetSegments target)) : '.' ∉ s.toList := by
  have hsegment := (w.segments_infix (targetSegments target)).subset h
  exact not_mem_of_mem_splitText (List.mem_of_mem_filter hsegment)

/-- A run of segments matches the components that have its text as a dotted ending. -/
theorem matches_iff_text {components : List Component} {target id : String} {w : Window}
    (h : w.Stands (targetSegments target)) :
    Matches components (w.segments (targetSegments target)) id ↔
      ∃ c ∈ components, c.id = id ∧ ∃ name ∈ c.qualifiedNames,
        String.intercalate "." (w.segments (targetSegments target)) ∈ dottedEndings name := by
  unfold Matches
  simp only [mem_dottedEndings h.segments_ne_nil fun _ hs => no_dot_of_segments hs]

/-- A run that stands for a name takes two segments or more, or begins the name. -/
theorem Window.Stands.two_le_or_prefix {parts : List String} {w : Window} (h : w.Stands parts) :
    2 ≤ (w.segments parts).length ∨ w.segments parts <+: parts := by
  rcases Nat.eq_or_lt_of_le h.pos with hsize | hsize
  · rw [Window.segments, h.start_eq_zero hsize.symm, List.drop_zero]
    exact .inr (List.take_prefix _ _)
  · exact .inl (h.length_segments.symm ▸ hsize)

/-- The least of the ids of the components that the run matches. -/
def LeastMatch (components : List Component) (run : List String) (answer : String) : Prop :=
  Matches components run answer ∧ ∀ other, Matches components run other → answer ≤ other

/-- A name means the least id that is matched by the first of its runs to match any, and nothing if
none does. So what it means is matched by two of its segments or more, or by the one at its front.
What a run matches can be read off its text. -/
theorem resolve?_first_window (components : List Component) (target : String) :
    (∀ answer, (ofComponents components).resolve? target = some answer ↔
      ∃ w : Window, w.Stands (targetSegments target) ∧
        LeastMatch components (w.segments (targetSegments target)) answer ∧
        ∀ v : Window, v.Stands (targetSegments target) → v.Before w →
          ∀ other, ¬Matches components (v.segments (targetSegments target)) other) ∧
    ((ofComponents components).resolve? target = none ↔
      ∀ w : Window, w.Stands (targetSegments target) →
        ∀ other, ¬Matches components (w.segments (targetSegments target)) other) ∧
    (∀ answer, (ofComponents components).resolve? target = some answer →
      ∃ run, run ≠ [] ∧ run <:+: targetSegments target ∧ Matches components run answer ∧
        (2 ≤ run.length ∨ run <+: targetSegments target)) ∧
    ∀ w : Window, w.Stands (targetSegments target) → ∀ id,
      Matches components (w.segments (targetSegments target)) id ↔
        ∃ c ∈ components, c.id = id ∧ ∃ name ∈ c.qualifiedNames,
          String.intercalate "." (w.segments (targetSegments target)) ∈ dottedEndings name := by
  refine ⟨?_, ?_, ?_, fun w hw id => matches_iff_text hw⟩
  · intro answer
    rw [resolve?_eq_some_iff]
    simp only [lookup?_eq_some_iff, lookup?_eq_none_iff, Order.byText_isLE, id, LeastMatch]
  · rw [resolve?_eq_none_iff]
    simp only [lookup?_eq_none_iff]
  · intro answer h
    obtain ⟨w, hw, hl, -⟩ := resolve?_eq_some_iff.mp h
    exact ⟨w.segments _, hw.segments_ne_nil, w.segments_infix _, (lookup?_eq_some_iff.mp hl).1,
      hw.two_le_or_prefix⟩

end DocAtlas.Resolver
