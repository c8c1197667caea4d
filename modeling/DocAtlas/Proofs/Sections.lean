import DocAtlas.Markdown.Page
import Mathlib.Data.List.Induction

/-!
The sections of a page: its blocks in their order, cut before each block with a heading. No text is
lost, doubled or moved to another section, however links are gathered into lists.
-/
namespace DocAtlas

/-- The heading of the section that a block opens. -/
def Block.opened? (b : Block) : Option String := b.heading.filter (!·.isEmpty)

theorem Block.opened?_eq_some_iff {b : Block} {heading : String} :
    b.opened? = some heading ↔ b.heading = some heading ∧ heading ≠ "" := by
  simp [Block.opened?, Option.filter_eq_some_iff]

end DocAtlas

namespace DocAtlas.Markdown

/-- The texts that blocks put on a page. -/
def writtenTexts (path : String) (diagrams : List Diagram) (bs : List Block) : List String :=
  (bs.map (blockText path diagrams)).filter (!·.isEmpty)

def Section.texts (s : Section) : List String := s.groups.flatten

/-- A section has a heading or a text, and each of its groups has a text. -/
structure Section.Filled (s : Section) : Prop where
  shown : s.heading ≠ none ∨ s.groups ≠ []
  groups : ∀ group ∈ s.groups, group ≠ []

/-! ### Adding a text to a section -/

section

variable (s : Section) (joins : Bool) (text : String)

theorem Section.heading_addText : (s.addText joins text).heading = s.heading := by
  unfold Section.addText
  split <;> rfl

theorem Section.texts_addText : (s.addText joins text).texts = s.texts ++ [text] := by
  unfold Section.addText
  split
  · next last hlast =>
    obtain ⟨front, hfront⟩ := List.getLast?_eq_some_iff.mp hlast
    simp [Section.texts, hfront]
  · simp [Section.texts]

theorem Section.groups_addText :
    (s.addText joins text).groups ≠ [] ∧
      ∀ group ∈ (s.addText joins text).groups, group ∈ s.groups ∨ group ≠ [] := by
  unfold Section.addText
  split
  · refine ⟨by simp, fun group hg => ?_⟩
    rcases List.mem_append.mp hg with hg | hg
    · exact .inl (List.dropLast_subset _ hg)
    · rw [List.mem_singleton.mp hg]
      exact .inr (by simp)
  · refine ⟨by simp, fun group hg => ?_⟩
    rcases List.mem_append.mp hg with hg | hg
    · exact .inl hg
    · rw [List.mem_singleton.mp hg]
      exact .inr (by simp)

theorem Section.isVoid_addText : (s.addText joins text).isVoid = false := by
  have hgroups := (s.groups_addText joins text).1
  simp [Section.isVoid, hgroups]

end

/-! ### What one block does to a layout -/

theorem Layout.close_of_filled (l : Layout) (h : l.current.isVoid = false) :
    l.close = l.current :: l.finished := by
  rw [Layout.close, h, if_neg Bool.false_ne_true]

/-- Either a block has no heading, or it opens a section. -/
theorem openSection_cases (l : Layout) (b : Block) :
    b.opened? = none ∧ l.openSection b.heading = l ∨
      ∃ heading, b.opened? = some heading ∧
        l.openSection b.heading = ⟨l.close, { heading := some heading }, false⟩ := by
  unfold Block.opened? Layout.openSection
  cases b.heading with
  | none => exact .inl ⟨rfl, rfl⟩
  | some heading =>
    cases hempty : heading.isEmpty with
    | true =>
      have hfilter : (some heading).filter (!·.isEmpty) = none := by
        rw [Option.filter_some, hempty, Bool.not_true, if_neg Bool.false_ne_true]
      exact .inl ⟨hfilter, if_pos hempty⟩
    | false =>
      have hfilter : (some heading).filter (!·.isEmpty) = some heading := by
        rw [Option.filter_some, hempty, Bool.not_false, if_pos rfl]
      have hopen : ¬heading.isEmpty = true := by rw [hempty]; exact Bool.false_ne_true
      exact .inr ⟨heading, hfilter, if_neg hopen⟩

/-- Either a block has no text, or its text comes last in the section at hand. -/
theorem add_cases (path : String) (diagrams : List Diagram) (l : Layout) (b : Block) :
    blockText path diagrams b = "" ∧ l.add path diagrams b = l.openSection b.heading ∨
      blockText path diagrams b ≠ "" ∧ ∃ joins link, l.add path diagrams b =
        ⟨(l.openSection b.heading).finished,
          (l.openSection b.heading).current.addText joins (blockText path diagrams b), link⟩ := by
  unfold Layout.add
  dsimp only
  split
  · next hempty => exact .inl ⟨String.isEmpty_iff.mp hempty, rfl⟩
  · next hempty => exact .inr ⟨fun he => hempty (String.isEmpty_iff.mpr he), _, _, rfl⟩

/-! ### What a layout keeps -/

/-- The headings and the texts that a layout has taken in are in its sections, in their order, and
only the first section may be without a heading. -/
structure Layout.Keeps (headings texts : List String) (l : Layout) : Prop where
  headings : l.finished.reverse.filterMap (·.heading) ++ l.current.heading.toList = headings
  texts : l.finished.reverse.flatMap (·.texts) ++ l.current.texts = texts
  leading : l.current.heading = none → l.finished = []
  finished : ∀ s ∈ l.finished, s.Filled
  groups : ∀ group ∈ l.current.groups, group ≠ []

theorem keeps_empty : ({} : Layout).Keeps [] [] := by
  constructor <;> simp [Section.texts]

section

variable {headings texts : List String} {l : Layout}

/-- Of the headings taken in, the last is that of the section at hand. -/
theorem Layout.Keeps.heading_current (h : l.Keeps headings texts) :
    l.current.heading = headings.getLast? := by
  rw [← h.headings]
  cases hheading : l.current.heading with
  | none => simp [h.leading hheading]
  | some heading => simp

/-- Closing the section at hand changes nothing in what the sections hold. -/
theorem Layout.Keeps.close (h : l.Keeps headings texts) :
    l.close.reverse.filterMap (·.heading) = headings ∧
      l.close.reverse.flatMap (·.texts) = texts ∧ ∀ s ∈ l.close, s.Filled := by
  unfold Layout.close
  rw [← h.headings, ← h.texts]
  split
  · next hvoid =>
    simp only [Section.isVoid, Bool.and_eq_true, Option.isNone_iff_eq_none,
      List.isEmpty_iff] at hvoid
    exact ⟨by simp [hvoid], by simp [Section.texts, hvoid], h.finished⟩
  · next hvoid =>
    have hshown : l.current.heading ≠ none ∨ l.current.groups ≠ [] := by
      simp only [Section.isVoid, Bool.and_eq_true, Option.isNone_iff_eq_none,
        List.isEmpty_iff, not_and_or] at hvoid
      exact hvoid
    refine ⟨?_, by simp, List.forall_mem_cons.mpr ⟨⟨hshown, h.groups⟩, h.finished⟩⟩
    rw [List.reverse_cons, List.filterMap_append]
    cases hheading : l.current.heading <;> simp [hheading]

theorem Layout.Keeps.openSection (h : l.Keeps headings texts) (b : Block) :
    (l.openSection b.heading).Keeps (headings ++ b.opened?.toList) texts := by
  rcases openSection_cases l b with ⟨hnone, he⟩ | ⟨heading, hsome, he⟩
  · rw [he, hnone, Option.toList_none, List.append_nil]
    exact h
  · obtain ⟨hheadings, htexts, hfilled⟩ := h.close
    rw [he, hsome]
    refine ⟨?_, ?_, by simp, hfilled, by simp⟩
    · rw [hheadings]
    · rw [htexts]
      exact List.append_nil texts

theorem Layout.Keeps.addText (h : l.Keeps headings texts) (joins link : Bool) (text : String) :
    Layout.Keeps headings (texts ++ [text]) ⟨l.finished, l.current.addText joins text, link⟩ := by
  refine ⟨?_, ?_, ?_, h.finished, ?_⟩
  · rw [Section.heading_addText]
    exact h.headings
  · rw [Section.texts_addText, ← List.append_assoc, h.texts]
  · rw [Section.heading_addText]
    exact h.leading
  · intro group hg
    exact ((l.current.groups_addText joins text).2 group hg).elim (h.groups group) id

theorem Layout.Keeps.add (h : l.Keeps headings texts) (path : String) (diagrams : List Diagram)
    (b : Block) : (l.add path diagrams b).Keeps (headings ++ b.opened?.toList)
      (texts ++ writtenTexts path diagrams [b]) := by
  have hopen := h.openSection b
  rcases add_cases path diagrams l b with ⟨hempty, he⟩ | ⟨hne, joins, link, he⟩
  · rw [he]
    simpa [writtenTexts, hempty] using hopen
  · rw [he]
    simpa [writtenTexts, hne] using hopen.addText joins link (blockText path diagrams b)

end

theorem opened_concat (bs : List Block) (b : Block) :
    (bs ++ [b]).filterMap (·.opened?) = bs.filterMap (·.opened?) ++ b.opened?.toList := by
  rw [List.filterMap_append]
  cases hopened : b.opened? <;> simp [hopened]

theorem keeps_run (path : String) (diagrams : List Diagram) (bs : List Block) :
    (bs.foldl (Layout.add path diagrams) {}).Keeps (bs.filterMap (·.opened?))
      (writtenTexts path diagrams bs) := by
  induction bs using List.reverseRecOn with
  | nil => exact keeps_empty
  | append_singleton bs b ih =>
    have hadd := ih.add path diagrams b
    rw [writtenTexts, List.map_append, List.filter_append, opened_concat, List.foldl_append]
    exact hadd

section

variable (p : Page) (diagrams : List Diagram)

theorem headings_sections :
    (sections p diagrams).filterMap (·.heading) = p.blocks.filterMap (·.opened?) :=
  (keeps_run p.path diagrams p.blocks).close.1

theorem texts_sections :
    (sections p diagrams).flatMap (·.texts) = writtenTexts p.path diagrams p.blocks :=
  (keeps_run p.path diagrams p.blocks).close.2.1

theorem filled_sections : ∀ s ∈ sections p diagrams, s.Filled := by
  intro s hs
  exact (keeps_run p.path diagrams p.blocks).close.2.2 s (List.mem_reverse.mp hs)

end

/-! ### The section of a text -/

/-- A section that holds something stays where it is, and at most grows at its end. -/
theorem exists_close {path : String} {diagrams : List Diagram} (after : List Block) {l : Layout}
    (h : l.current.isVoid = false) :
    ∃ s back late, (after.foldl (Layout.add path diagrams) l).close.reverse =
        l.finished.reverse ++ s :: back ∧
      s.heading = l.current.heading ∧ s.texts = l.current.texts ++ late := by
  induction after generalizing l with
  | nil =>
    refine ⟨l.current, [], [], ?_, rfl, (List.append_nil _).symm⟩
    rw [List.foldl_nil, l.close_of_filled h, List.reverse_cons]
  | cons b after ih =>
    rw [List.foldl_cons]
    rcases openSection_cases l b with ⟨-, hopen⟩ | ⟨heading, -, hopen⟩
    · rcases add_cases path diagrams l b with ⟨-, he⟩ | ⟨-, joins, link, he⟩
      · rw [he, hopen]
        exact ih h
      · rw [he, hopen]
        obtain ⟨s, back, late, hrun, hheading, htexts⟩ :=
          ih (l := ⟨l.finished, l.current.addText joins (blockText path diagrams b), link⟩)
            (l.current.isVoid_addText joins (blockText path diagrams b))
        refine ⟨s, back, blockText path diagrams b :: late, hrun, ?_, ?_⟩
        · rw [hheading, Section.heading_addText]
        · rw [htexts, Section.texts_addText, List.append_assoc, List.singleton_append]
    · -- The block opens the next section; the one at hand is closed and stays as it is.
      obtain ⟨hfinished, hvoid⟩ : (l.add path diagrams b).finished = l.current :: l.finished ∧
          (l.add path diagrams b).current.isVoid = false := by
        rcases add_cases path diagrams l b with ⟨-, he⟩ | ⟨-, joins, link, he⟩
        · rw [he, hopen]
          exact ⟨l.close_of_filled h, rfl⟩
        · rw [he, hopen]
          exact ⟨l.close_of_filled h, Section.isVoid_addText _ _ _⟩
      obtain ⟨s, back, -, hrun, -, -⟩ := ih hvoid
      refine ⟨l.current, s :: back, [], ?_, rfl, (List.append_nil _).symm⟩
      rw [hrun, hfinished, List.reverse_cons, List.append_assoc, List.singleton_append]

/-- The text of the block that follows `before` stands in the section `s`, which `front` precedes:
the section is the one that the nearest block with a heading opens, and before the text are those
of `before`. -/
structure StandsIn (path : String) (diagrams : List Diagram) (before : List Block) (b : Block)
    (front : List Section) (s : Section) : Prop where
  nearest : s.heading = ((before ++ [b]).filterMap (·.opened?)).getLast?
  headings : front.filterMap (·.heading) ++ s.heading.toList =
    (before ++ [b]).filterMap (·.opened?)
  leading : s.heading = none → front = []
  text : ∃ early late, s.texts = early ++ blockText path diagrams b :: late ∧
    front.flatMap (·.texts) ++ early = writtenTexts path diagrams before

theorem exists_standsIn {p : Page} {diagrams : List Diagram} {before after : List Block}
    {b : Block} (hblocks : p.blocks = before ++ b :: after)
    (htext : blockText p.path diagrams b ≠ "") :
    ∃ front s back, sections p diagrams = front ++ s :: back ∧
      StandsIn p.path diagrams before b front s := by
  have hopen := (keeps_run p.path diagrams before).openSection b
  rw [← opened_concat] at hopen
  rcases add_cases p.path diagrams (before.foldl (Layout.add p.path diagrams) {}) b with
    ⟨hempty, -⟩ | ⟨-, joins, link, he⟩
  · exact absurd hempty htext
  generalize (before.foldl (Layout.add p.path diagrams) {}).openSection b.heading = l at hopen he
  obtain ⟨s, back, late, hrun, hheading, htexts⟩ :=
    exists_close after (l := ⟨l.finished, l.current.addText joins (blockText p.path diagrams b), link⟩)
      (l.current.isVoid_addText joins (blockText p.path diagrams b))
  rw [Section.heading_addText] at hheading
  rw [Section.texts_addText, List.append_assoc, List.singleton_append] at htexts
  refine ⟨l.finished.reverse, s, back, ?_, ?_⟩
  · rw [sections, hblocks, List.foldl_append, List.foldl_cons, he]
    exact hrun
  · refine ⟨?_, ?_, ?_, l.current.texts, late, htexts, hopen.texts⟩
    · rw [hheading]
      exact hopen.heading_current
    · rw [hheading]
      exact hopen.headings
    · intro hnone
      rw [hopen.leading (hheading ▸ hnone), List.reverse_nil]

/-- The sections of a page have the headings and the texts of its blocks in their order, and each
text stands in the section that the nearest block with a heading at or before its own opens. -/
theorem sections_keep (p : Page) (diagrams : List Diagram) :
    (sections p diagrams).filterMap (·.heading) = p.blocks.filterMap (·.opened?) ∧
      (sections p diagrams).flatMap (·.texts) = writtenTexts p.path diagrams p.blocks ∧
      (∀ s ∈ sections p diagrams, s.Filled) ∧
      ∀ before b after, p.blocks = before ++ b :: after → blockText p.path diagrams b ≠ "" →
        ∃ front s back, sections p diagrams = front ++ s :: back ∧
          StandsIn p.path diagrams before b front s := by
  refine ⟨headings_sections p diagrams, texts_sections p diagrams, filled_sections p diagrams, ?_⟩
  intro before b after hblocks htext
  exact exists_standsIn hblocks htext

theorem sections_keep_second_text :
    blockText "guide" [] (.prose "Run it.") ≠ "" ∧
      ∃ front s back,
        sections ⟨"guide", "Guide", .chapter, [.prose "Read." (some "Use"), .prose "Run it."], []⟩
            [] = front ++ s :: back ∧
          StandsIn "guide" [] [.prose "Read." (some "Use")] (.prose "Run it.") front s := by
  have htext : blockText "guide" [] (.prose "Run it.") ≠ "" := by decide
  obtain ⟨-, -, -, hstands⟩ := sections_keep
    ⟨"guide", "Guide", .chapter, [.prose "Read." (some "Use"), .prose "Run it."], []⟩ []
  exact ⟨htext, hstands [.prose "Read." (some "Use")] (.prose "Run it.") [] rfl htext⟩

end DocAtlas.Markdown
