import DocAtlas.Diagram.Views
import DocAtlas.Proofs.FilePaths
import DocAtlas.Proofs.Filling
import DocAtlas.Proofs.Outline
import DocAtlas.Proofs.Sections

/-!
The headings of written pages: those that their texts show line by line, which are the headings of
the sections if no text shows any by itself. A table of contents lists them where there are enough.
-/
namespace DocAtlas.Markdown
open Text

/-! ### The draft -/

def titleLine (p : Page) : List Char := ("# " ++ p.title).toList

/-- What follows the title of a page. -/
def bodyText (p : Page) (ss : List Section) : List Char :=
  (String.join (ss.map (·.text)) ++ breadcrumb p.path).toList

/-- A page without a table of contents and a place for it. -/
def bare (p : Page) (diagrams : List Diagram) : List Char :=
  titleLine p ++ '\n' :: bodyText p (sections p diagrams)

/-- The headings of the sections. -/
def headed (p : Page) (diagrams : List Diagram) : List String :=
  (sections p diagrams).filterMap (·.heading)

theorem toList_draft (p : Page) (ss : List Section) :
    (draft p ss).toList =
      if minimumHeadings ≤ ss.countP (·.heading.isSome) then
        Contents.withPlace (titleLine p) (bodyText p ss)
      else titleLine p ++ '\n' :: bodyText p ss := by
  unfold draft titleLine bodyText Contents.withPlace
  dsimp only
  by_cases h : minimumHeadings ≤ ss.countP (·.heading.isSome)
  · rw [if_pos (by simpa using h), if_pos h]
    simp
  · rw [if_neg (by simpa using h), if_neg h]
    simp

theorem countP_headed (ss : List Section) :
    ss.countP (·.heading.isSome) = (ss.filterMap (·.heading)).length :=
  (List.length_filterMap_eq_countP ..).symm

/-- Nothing on a page is taken for a table of contents or for its place, and no number signs at the
beginning of a row are parted from what follows by the end of a line. -/
structure Unmarked (p : Page) (diagrams : List Diagram) : Prop where
  opening : ¬Contents.opening <:+: bare p diagrams
  placeholder : ¬Contents.placeholder <:+: bare p diagrams
  whole : ∀ row ∈ rows (bare p diagrams), Lint.Whole row

theorem exists_pageText {p : Page} {diagrams : List Diagram} (h : Unmarked p diagrams) :
    ∃ text, pageText diagrams p = .ok text ∧
      Carries (decide (minimumHeadings ≤ (headed p diagrams).length)) minimumHeadings
        (bare p diagrams) text.toList := by
  obtain ⟨filled, hbuild, hcarries⟩ := exists_carries minimumHeadings
    (decide (minimumHeadings ≤ (headed p diagrams).length)) h.opening h.placeholder h.whole
  refine ⟨String.ofList (Lint.lintChars filled), ?_, by rwa [String.toList_ofList]⟩
  have hdraft : (draft p (sections p diagrams)).toList =
      if decide (minimumHeadings ≤ (headed p diagrams).length) then
        Contents.withPlace (titleLine p) (bodyText p (sections p diagrams))
      else titleLine p ++ '\n' :: bodyText p (sections p diagrams) := by
    rw [toList_draft, countP_headed, headed]
    by_cases h : minimumHeadings ≤ ((sections p diagrams).filterMap (·.heading)).length
    · rw [if_pos h, if_pos (decide_eq_true h)]
    · rw [if_neg h, if_neg (by simpa using h)]
  rw [pageText, hdraft, hbuild]
  rfl

/-! ### What texts show by themselves -/

/-- The headings that a text shows, at the end of which no block of code is open. -/
def Shows (s : List Char) (found : List (Nat × List Char)) : Prop :=
  Contents.titles false (shown s) = found ∧ endsInCode false (shown s) = false

/-- No heading is shown, and no block of code is left open. -/
def IsQuiet (s : List Char) : Prop := Shows s []

theorem quiet_nil : IsQuiet [] := ⟨rfl, rfl⟩

theorem Shows.append {a b : List Char} {found more : List (Nat × List Char)} (ha : Shows a found)
    (hb : Shows b more) : Shows (a ++ '\n' :: b) (found ++ more) := by
  constructor
  · rw [shown_append rfl, Contents.titles_append, ha.1, ha.2, hb.1]
  · rw [shown_append rfl, Contents.endsInCode_append, ha.2, hb.2]

theorem Shows.append_ended {a b : List Char} {found more : List (Nat × List Char)}
    (ha : Shows a found) (he : a.getLast? = some '\n') (hb : Shows b more) :
    Shows (a ++ b) (found ++ more) := by
  obtain ⟨front, rfl⟩ := List.getLast?_eq_some_iff.mp he
  have hfront : Shows front found := by
    have hnil : shown [] = [] := rfl
    rwa [Shows, shown_append rfl, hnil, List.append_nil] at ha
  rw [List.append_assoc, List.singleton_append]
  exact hfront.append hb

theorem quiet_asides {s : List Char} (h : ∀ line ∈ shown s, IsAside line) : IsQuiet s :=
  titles_asides h false

theorem quiet_join {sep : List Char} (hsep : sep = ['\n'] ∨ sep = ['\n', '\n'])
    {ls : List (List Char)} (h : ∀ l ∈ ls, IsQuiet l) : IsQuiet (join sep ls) := by
  induction ls with
  | nil => exact quiet_nil
  | cons l ls ih =>
    rw [List.forall_mem_cons] at h
    cases ls with
    | nil => simpa [join] using h.1
    | cons l' ls =>
      rw [join_cons_cons, List.append_assoc]
      rcases hsep with rfl | rfl
      · exact h.1.append (ih h.2)
      · exact h.1.append (quiet_nil.append (ih h.2))

/-- A title on one line that is not blank. -/
structure IsTitle (s : String) : Prop where
  inline : ∀ c ∈ s.toList, isLineEnd c = false
  titled : trim s.toList ≠ []

theorem shows_heading {h : String} (ht : IsTitle h) :
    Shows ("## " ++ h).toList [(2, trim h.toList)] := by
  obtain ⟨blanks, hblank, hsplit⟩ := exists_blank_trimStart h.toList
  have hline : ("## " ++ h).toList = '#' :: '#' :: ' ' :: blanks ++ trimStart h.toList := by
    conv_lhs => rw [String.toList_append, hsplit]
    rfl
  have hp : IsHeading ['#', '#'] (' ' :: blanks) (trim h.toList) :=
    ⟨by simp, by simp, by simp, by simp, List.forall_mem_cons.mpr ⟨rfl, hblank⟩,
      trimStart_trim h.toList, ht.titled⟩
  have hinline : ∀ c ∈ ("## " ++ h).toList, isLineEnd c = false := by
    rw [String.toList_append, List.forall_mem_append]
    exact ⟨by decide, ht.inline⟩
  have htrim : trim ("## " ++ h).toList = ['#', '#'] ++ ' ' :: blanks ++ trim h.toList := by
    rw [hline, trim, List.cons_append, trimStart_of_cons (by decide), ← List.cons_append,
      trimEnd_append_of_ne _ ht.titled]
    rfl
  have hshown : shown ("## " ++ h).toList = [['#', '#'] ++ ' ' :: blanks ++ trim h.toList] := by
    rw [shown_of_line hinline, htrim, if_neg (by simp)]
  constructor
  · rw [hshown, Contents.titles_cons, Contents.titlesOf, hp.not_fence, Contents.heading?,
      hp.heading?_eq]
    rfl
  · rw [hshown, endsInCode, hp.not_fence]
    rfl

/-! ### What sections show -/

/-- A property of the heading of a section, if it has one, and one of all its texts. -/
structure Section.Holds (onHeading onText : String → Prop) (s : Section) : Prop where
  heading : ∀ h, s.heading = some h → onHeading h
  texts : ∀ group ∈ s.groups, ∀ text ∈ group, onText text

/-- What holds of the headings and of the texts of its blocks holds of all sections of a page. -/
theorem sections_hold {onHeading onText : String → Prop} {p : Page} {diagrams : List Diagram}
    (hh : ∀ b ∈ p.blocks, ∀ t, b.heading = some t → t ≠ "" → onHeading t)
    (ht : ∀ b ∈ p.blocks, onText (blockText p.path diagrams b)) :
    ∀ s ∈ sections p diagrams, s.Holds onHeading onText := by
  intro s hs
  constructor
  · intro t hheading
    have hopened : t ∈ p.blocks.filterMap (·.opened?) := by
      rw [← headings_sections p diagrams]
      exact List.mem_filterMap.mpr ⟨s, hs, hheading⟩
    obtain ⟨b, hb, hopens⟩ := List.mem_filterMap.mp hopened
    obtain ⟨hsome, hne⟩ := Block.opened?_eq_some_iff.mp hopens
    exact hh b hb t hsome hne
  · intro group hg text hm
    have hwritten : text ∈ writtenTexts p.path diagrams p.blocks := by
      rw [← texts_sections p diagrams]
      exact List.mem_flatMap.mpr ⟨s, hs, List.mem_flatten.mpr ⟨group, hg, hm⟩⟩
    obtain ⟨b, hb, rfl⟩ := List.mem_map.mp (List.mem_filter.mp hwritten).1
    exact ht b hb

theorem quiet_body {s : Section} (h : ∀ group ∈ s.groups, ∀ text ∈ group, IsQuiet text.toList) :
    IsQuiet s.body.toList := by
  have hbody : s.body.toList = join ['\n', '\n']
      ((s.groups.map (String.intercalate "\n")).map String.toList) := String.toList_intercalate
  rw [hbody]
  refine quiet_join (.inr rfl) ?_
  simp only [List.forall_mem_map]
  intro group hg
  have hgroup : (String.intercalate "\n" group).toList = join ['\n'] (group.map String.toList) :=
    String.toList_intercalate
  rw [hgroup]
  exact quiet_join (.inl rfl) (List.forall_mem_map.mpr (h group hg))

/-- A section shows its heading if its texts show none. -/
theorem Section.shows_text {s : Section} (h : s.Holds IsTitle fun text => IsQuiet text.toList) :
    Shows s.text.toList (s.heading.toList.map fun t => (2, trim t.toList)) := by
  have hbody : Shows ('\n' :: (s.body.toList ++ ['\n'])) [] :=
    quiet_nil.append ((quiet_body h.texts).append quiet_nil)
  unfold Section.text
  cases hs : s.heading with
  | none => simpa using hbody
  | some t =>
    have hheading := quiet_nil.append ((shows_heading (h.heading t hs)).append hbody)
    simpa using hheading

theorem Section.getLast?_text (s : Section) : s.text.toList.getLast? = some '\n' := by
  rw [Section.text, String.toList_append]
  exact List.getLast?_concat ..

/-- Sections one after the other, before a text that shows nothing. -/
theorem shows_sections {ss : List Section} {tail : List Char}
    (h : ∀ s ∈ ss, s.Holds IsTitle fun text => IsQuiet text.toList) (ht : IsQuiet tail) :
    Shows ((String.join (ss.map (·.text))).toList ++ tail)
      ((ss.filterMap (·.heading)).map fun t => (2, trim t.toList)) := by
  induction ss with
  | nil => simpa [IsQuiet] using ht
  | cons s ss ih =>
    rw [List.forall_mem_cons] at h
    have hcons := (Section.shows_text h.1).append_ended s.getLast?_text (ih h.2)
    have hjoin : (String.join ((s :: ss).map (·.text))).toList ++ tail =
        s.text.toList ++ ((String.join (ss.map (·.text))).toList ++ tail) := by
      rw [List.map_cons, String.join_cons, String.toList_append, List.append_assoc]
    have hfound : ((s :: ss).filterMap (·.heading)).map (fun t => (2, trim t.toList)) =
        s.heading.toList.map (fun t => (2, trim t.toList)) ++
          (ss.filterMap (·.heading)).map (fun t => (2, trim t.toList)) := by
      cases hs : s.heading with
      | none => rw [List.filterMap_cons_none hs]; rfl
      | some t => rw [List.filterMap_cons_some hs]; rfl
    rw [hjoin, hfound]
    exact hcons

/-! ### The link to the hub -/

theorem quiet_of_cons {a : Char} (hb : isBlank a = false) (hfence : a ≠ '`') (hsign : a ≠ '#')
    {s : List Char} (hs : ∀ c ∈ s, isLineEnd c = false) : IsQuiet (a :: s) := by
  have hinline : ∀ c ∈ a :: s, isLineEnd c = false :=
    List.forall_mem_cons.mpr ⟨Lint.isLineEnd_of_not_blank hb, hs⟩
  obtain ⟨t, ht⟩ := exists_trimEnd_cons hb s
  apply quiet_asides
  rw [shown_of_line hinline, trim, trimStart_of_cons hb, ht, if_neg (by simp),
    List.forall_mem_singleton]
  exact isAside_of_cons hb hfence hsign t

theorem mem_join {sep : List Char} {ls : List (List Char)} {c : Char} (h : c ∈ join sep ls) :
    c ∈ sep ∨ ∃ l ∈ ls, c ∈ l := by
  induction ls with
  | nil => cases h
  | cons l ls ih =>
    cases ls with
    | nil => exact .inr ⟨l, List.mem_cons_self, by simpa [join] using h⟩
    | cons l' ls =>
      rw [join_cons_cons, List.mem_append, List.mem_append] at h
      rcases h with (hl | hs) | hr
      · exact .inr ⟨l, List.mem_cons_self, hl⟩
      · exact .inl hs
      · rcases ih hr with hs | ⟨k, hk, hc⟩
        · exact .inl hs
        · exact .inr ⟨k, List.mem_cons_of_mem _ hk, hc⟩

/-- The way to a path holds nothing but dots, slashes and what the path holds. -/
theorem mem_relative {path start : String} {c : Char} (h : c ∈ (Path.relative path start).toList) :
    c = '.' ∨ c = '/' ∨ ∃ part ∈ Path.normalSegments path, c ∈ part.toList := by
  unfold Path.relative at h
  dsimp only at h
  split at h
  · exact .inl (by simpa using h)
  · rw [Path.joinSegments, String.toList_intercalate] at h
    rcases mem_join h with hs | ⟨piece, hpiece, hc⟩
    · exact .inr (.inl (by simpa using hs))
    · obtain ⟨part, hpart, rfl⟩ := List.mem_map.mp hpiece
      rcases List.mem_append.mp hpart with hup | hdown
      · obtain ⟨_, -, rfl⟩ := List.mem_map.mp hup
        exact .inl (by simpa using hc)
      · obtain ⟨common, hpath, -⟩ :=
          Path.dropCommon_spec (Path.normalSegments path) (Path.normalSegments start)
        have hmem : part ∈ Path.normalSegments path := by
          rw [hpath]
          exact List.mem_append_right _ hdown
        exact .inr (.inr ⟨part, hmem, hc⟩)

theorem quiet_breadcrumb (path : String) : IsQuiet (breadcrumb path).toList := by
  have hlink : ∀ c ∈ (relativeLink path Outline.hubPath).toList, isLineEnd c = false := by
    intro c hc
    rcases mem_relative hc with rfl | rfl | ⟨part, hpart, hc⟩
    · rfl
    · rfl
    · have hparts : Path.normalSegments (Outline.hubPath ++ ".md") = ["README.md"] := by
        decide +kernel
      rw [hparts, List.mem_singleton] at hpart
      subst hpart
      exact (by decide : ∀ c ∈ "README.md".toList, isLineEnd c = false) c hc
  unfold breadcrumb
  split
  · exact quiet_nil
  · have hhome : IsQuiet ('[' :: ("Home](".toList ++
        (relativeLink path Outline.hubPath).toList ++ [')'])) :=
      quiet_of_cons (by decide) (by decide) (by decide) (by
        rw [List.forall_mem_append, List.forall_mem_append]
        exact ⟨⟨by decide, hlink⟩, by decide⟩)
    have hrule : IsQuiet "---".toList :=
      quiet_of_cons (a := '-') (by decide) (by decide) (by decide) (by decide)
    have hall := quiet_nil.append (hrule.append (hhome.append quiet_nil))
    simpa [IsQuiet] using hall

/-! ### What a page shows -/

theorem Contents.length_assign (seen : List (List Char)) (found : List (Nat × List Char)) :
    (Contents.assign seen found).length = found.length := by
  induction found generalizing seen with
  | nil => rfl
  | cons f found ih => exact congrArg (· + 1) (ih _)

/-- Neither the title of a page nor one of its texts shows a heading by itself or leaves a block of
code open, and its headings can be read as they are written. -/
structure Quiet (p : Page) (diagrams : List Diagram) : Prop where
  title : IsQuiet (titleLine p)
  texts : ∀ b ∈ p.blocks, IsQuiet (blockText p.path diagrams b).toList
  headings : ∀ b ∈ p.blocks, ∀ h, b.heading = some h → h ≠ "" → IsTitle h

theorem Quiet.shows {p : Page} {diagrams : List Diagram} (h : Quiet p diagrams) :
    Shows (bare p diagrams) ((headed p diagrams).map fun t => (2, trim t.toList)) := by
  rw [bare, bodyText, String.toList_append]
  exact h.title.append (shows_sections (sections_hold h.headings h.texts) (quiet_breadcrumb p.path))

/-- The headings of the sections of a page with their anchors. -/
def sectionHeadings (p : Page) (diagrams : List Diagram) : List Heading :=
  Contents.assign [] ((headed p diagrams).map fun t => (2, trim t.toList))

/-- A text of a page that has the headings of its sections and no others, and that lists them where
there are enough. -/
structure Follows (p : Page) (diagrams : List Diagram) (text : List Char) : Prop where
  headings : Contents.headings text = sectionHeadings p diagrams
  table_iff : Contents.opening <:+: text ↔ minimumHeadings ≤ (headed p diagrams).length
  table : Contents.opening <:+: text → ∃ before after,
    text = before ++ Contents.block (sectionHeadings p diagrams) ++ after ∧
      ¬Contents.opening <:+: before

theorem Carries.follows {p : Page} {diagrams : List Diagram} {text : List Char}
    (hq : Quiet p diagrams)
    (h : Carries (decide (minimumHeadings ≤ (headed p diagrams).length)) minimumHeadings
      (bare p diagrams) text) : Follows p diagrams text := by
  have hheadings : Contents.headings (bare p diagrams) = sectionHeadings p diagrams := by
    rw [Contents.headings_eq, hq.shows.1, sectionHeadings]
  have hcount : (Contents.headings (bare p diagrams)).length = (headed p diagrams).length := by
    rw [hheadings, sectionHeadings, Contents.length_assign, List.length_map]
  refine ⟨h.headings.trans hheadings, h.table_iff.trans ?_, hheadings ▸ h.table⟩
  rw [hcount, decide_eq_true_iff, and_self]

/-- A page is written with the headings that its texts show, and its table of contents lists them if
they and the sections with a heading are enough. Where no text shows a heading by itself, they are
the headings of the sections. -/
theorem pageText_carries {p : Page} {diagrams : List Diagram} (h : Unmarked p diagrams) :
    ∃ text, pageText diagrams p = .ok text ∧
      Carries (decide (minimumHeadings ≤ (headed p diagrams).length)) minimumHeadings
        (bare p diagrams) text.toList ∧
      (Quiet p diagrams → Follows p diagrams text.toList) := by
  obtain ⟨text, htext, hcarries⟩ := exists_pageText h
  exact ⟨text, htext, hcarries, fun hq => hcarries.follows hq⟩

/-! ### Two graphs -/

instance (s : List Char) (found : List (Nat × List Char)) : Decidable (Shows s found) :=
  inferInstanceAs (Decidable (_ ∧ _))

instance (s : List Char) : Decidable (IsQuiet s) := inferInstanceAs (Decidable (Shows s []))

instance (s : String) : Decidable (IsTitle s) :=
  decidable_of_iff ((∀ c ∈ s.toList, isLineEnd c = false) ∧ trim s.toList ≠ [])
    ⟨fun h => ⟨h.1, h.2⟩, fun h => ⟨h.inline, h.titled⟩⟩

def orders : Component where
  id := "orders"
  name := "Orders"
  role := .service
  purpose := "Takes orders.\n- quickly"
  operations := [⟨"place", ["item"], "Order"⟩]
  settings := [("LIMIT", "orders in a day")]

/-- Orders that are kept in a store. -/
def shop : Graph where
  components := [orders, { id := "store", name := "Store", role := .store }]
  edges := [⟨"orders", "store", .uses⟩]
  cycles := []
  findings := []
  valid := by decide +kernel

theorem sections_shop : sections (Technical.componentPage shop orders) shop.views =
    [⟨none, [["Kind: service."]]⟩, ⟨some "Purpose", [["Takes orders.\n- quickly"]]⟩,
      ⟨some "Operations", [["```\nplace(item) -> Order\n```"]]⟩,
      ⟨some "Configuration", [["- `LIMIT`: orders in a day"]]⟩,
      ⟨some "Depends On",
        [["- [Store](store.md): uses", "- [Technical Reference](../README.md)"]]⟩] := by
  decide +kernel

theorem shop_unmarked : Unmarked (Technical.componentPage shop orders) shop.views := by
  have hpath : breadcrumb (Technical.componentPage shop orders).path =
      "\n---\n[Home](../../README.md)\n" := by decide +kernel
  have htitle : (Technical.componentPage shop orders).title = "Orders" := rfl
  constructor
  -- The pieces are read one by one: the whole text as one string is slow to decide on.
  all_goals
    rw [bare, bodyText, sections_shop, hpath, titleLine, htitle]
    simp only [Section.text, Section.body, List.map_cons, List.map_nil, String.join_cons,
      String.join_nil, String.intercalate_singleton, String.intercalate_cons_cons,
      String.toList_append]
    decide +kernel

theorem shop_quiet : Quiet (Technical.componentPage shop orders) shop.views := by
  refine ⟨by decide +kernel, by decide +kernel, ?_⟩
  have hall : ∀ b ∈ (Technical.componentPage shop orders).blocks,
      IsTitle (b.heading.getD "Title") := by decide +kernel
  intro b hb h hh _
  simpa [hh] using hall b hb

/-- The headings of four sections are found and listed. -/
theorem pageText_carries_shop :
    Unmarked (Technical.componentPage shop orders) shop.views ∧
      Quiet (Technical.componentPage shop orders) shop.views ∧
      headed (Technical.componentPage shop orders) shop.views =
        ["Purpose", "Operations", "Configuration", "Depends On"] ∧
      ∃ text, pageText shop.views (Technical.componentPage shop orders) = .ok text ∧
        Contents.opening <:+: text.toList ∧
        Carries (decide (minimumHeadings ≤
            (headed (Technical.componentPage shop orders) shop.views).length)) minimumHeadings
          (bare (Technical.componentPage shop orders) shop.views) text.toList ∧
        Follows (Technical.componentPage shop orders) shop.views text.toList := by
  have hheaded : headed (Technical.componentPage shop orders) shop.views =
      ["Purpose", "Operations", "Configuration", "Depends On"] := by
    rw [headed, sections_shop]
    rfl
  obtain ⟨text, htext, hcarries, hfollows⟩ := pageText_carries shop_unmarked
  have hf := hfollows shop_quiet
  refine ⟨shop_unmarked, shop_quiet, hheaded, text, htext, hf.table_iff.mpr ?_, hcarries, hf⟩
  rw [hheaded]
  decide

def guide : Component where
  id := "guide"
  name := "Guide"
  role := .general
  purpose := "## Usage"

/-- One component that brings a heading along. -/
def guided : Graph where
  components := [guide]
  edges := []
  cycles := []
  findings := []
  valid := by decide +kernel

/-- A text that shows a heading gives its page a heading that no section has. -/
theorem not_always_follows :
    ¬∀ (g : Graph) (name : Option String),
      ∀ p ∈ (Document.render g g.views (Tutorial.ofGraph g) name).walk,
        ∃ text, pageText g.views p = .ok text ∧ Follows p g.views text.toList := by
  intro hall
  have hp : Technical.componentPage guided guide ∈
      (Document.render guided guided.views (Tutorial.ofGraph guided) none).walk := by
    rw [Document.walk_render]
    simp [Document.technicalPages, guided]
  have hunmarked : Unmarked (Technical.componentPage guided guide) guided.views :=
    ⟨by decide +kernel, by decide +kernel, by decide +kernel⟩
  obtain ⟨text, htext, hfollows⟩ := hall guided none _ hp
  obtain ⟨text', htext', hcarries⟩ := exists_pageText hunmarked
  obtain rfl : text' = text := Except.ok.inj (htext'.symm.trans htext)
  have hsame := hcarries.headings.symm.trans hfollows.headings
  have hdiffer : Contents.headings (bare (Technical.componentPage guided guide) guided.views) ≠
      sectionHeadings (Technical.componentPage guided guide) guided.views := by decide +kernel
  exact hdiffer hsame

end DocAtlas.Markdown
