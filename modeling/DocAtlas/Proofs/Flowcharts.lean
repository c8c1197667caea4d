import DocAtlas.Diagram.Mermaid
import DocAtlas.Proofs.Splitting
import Mathlib.Data.List.Basic

/-!
What a flowchart says: the subgraphs and nodes that its lines declare, and the links between nodes.
The main statement is that the text of a diagram says what is in the diagram, whatever its labels
hold.
-/
namespace DocAtlas.Diagram.Mermaid

/-- A line of a flowchart. -/
inductive Statement where
  | subgraph (id : String)
  | node (id : String)
  | link (source arrow label target : String)
deriving DecidableEq

/-- Subgraphs and nodes share their identifiers. -/
def Statement.declared? : Statement → Option String
  | subgraph id | node id => some id
  | link .. => none

def Statement.subgraph? : Statement → Option String
  | subgraph id => some id
  | _ => none

def Statement.node? : Statement → Option String
  | node id => some id
  | _ => none

def Statement.isLink : Statement → Bool
  | link .. => true
  | _ => false

/-- What is declared is declared by subgraphs and by nodes. -/
theorem declared_perm (chart : List Statement) :
    (chart.filterMap Statement.declared?).Perm
      (chart.filterMap Statement.subgraph? ++ chart.filterMap Statement.node?) := by
  induction chart with
  | nil => exact .nil
  | cons s chart ih =>
    cases s with
    | subgraph id => exact ih.cons id
    | node id => exact (ih.cons id).trans List.perm_middle.symm
    | link => exact ih

/-! ### Reading -/

/-- `s` before the first line. -/
def prepend (s : List Char) : List (List Char) → List (List Char)
  | [] => [s]
  | line :: more => (s ++ line) :: more

/-- The lines of a text. A line feed between double quotes does not end one. -/
def cutLines : Bool → List Char → List (List Char)
  | _, [] => [[]]
  | quoted, c :: rest =>
    if c = '\n' ∧ quoted = false then [] :: cutLines false rest
    else prepend [c] (cutLines (if c = '"' then !quoted else quoted) rest)

/-- The characters of identifiers. -/
def isWord (c : Char) : Bool := Text.isAsciiLetter c || Text.isAsciiDigit c || c == '_'

/-- Reads an arrow, a label between bars, a space and a target. -/
def readLink? (source : String) (s : List Char) : Option Statement :=
  match s.dropWhile (· != '|') with
  | '|' :: labelled =>
    match labelled.dropWhile (· != '|') with
    | '|' :: ' ' :: target =>
      some (.link source (String.ofList (s.takeWhile (· != '|')))
        (String.ofList (labelled.takeWhile (· != '|'))) (String.ofList target))
    | _ => none
  | _ => none

/-- Reads what follows the first word of a line. A title in brackets follows the identifier of a
subgraph or a node. -/
def readAfter? (word : String) : List Char → Option Statement
  | '[' :: _ => some (.node word)
  | ' ' :: rest =>
    if word = "subgraph" ∧ (rest.dropWhile isWord).head? = some '[' then
      some (.subgraph (String.ofList (rest.takeWhile isWord)))
    else readLink? word rest
  | _ => none

def readLine? (line : List Char) : Option Statement :=
  let body := line.dropWhile (· == ' ')
  readAfter? (String.ofList (body.takeWhile isWord)) (body.dropWhile isWord)

def readChart (chart : String) : List Statement :=
  (cutLines false chart.toList).filterMap readLine?

/-! ### Lines -/

theorem prepend_append (a b : List Char) (lines : List (List Char)) :
    prepend (a ++ b) lines = prepend a (prepend b lines) := by
  cases lines <;> simp [prepend]

/-- Quotes are closed before the end of a line, and no line feed is outside of them. -/
def IsWhole (line : List Char) : Prop :=
  ∀ rest, cutLines false (line ++ rest) = prepend line (cutLines false rest)

theorem cutLines_nil (quoted : Bool) : cutLines quoted [] = [[]] := by
  cases quoted <;> rfl

theorem cutLines_ne_nil (quoted : Bool) (s : List Char) : cutLines quoted s ≠ [] := by
  cases s with
  | nil => simp [cutLines_nil]
  | cons c rest =>
    rw [cutLines]
    split
    · exact List.cons_ne_nil _ _
    · cases cutLines _ rest <;> exact List.cons_ne_nil _ _

theorem prepend_nil {lines : List (List Char)} (h : lines ≠ []) : prepend [] lines = lines := by
  cases lines with
  | nil => exact absurd rfl h
  | cons line more => rfl

theorem IsWhole.append {a b : List Char} (ha : IsWhole a) (hb : IsWhole b) : IsWhole (a ++ b) := by
  intro rest
  rw [List.append_assoc, ha, hb, prepend_append]

/-- What holds no quote, and outside of quotes no line feed, goes on with the line. -/
theorem cutLines_append {quoted : Bool} {s : List Char}
    (h : ∀ c ∈ s, c ≠ '"' ∧ (c = '\n' → quoted = true)) (rest : List Char) :
    cutLines quoted (s ++ rest) = prepend s (cutLines quoted rest) := by
  induction s with
  | nil => exact (prepend_nil (cutLines_ne_nil _ _)).symm
  | cons c s ih =>
    obtain ⟨⟨hquote, hfeed⟩, hs⟩ := List.forall_mem_cons.mp h
    have hsame : ¬(c = '\n' ∧ quoted = false) := by
      rintro ⟨hc, hq⟩
      exact Bool.false_ne_true (hq ▸ hfeed hc)
    rw [List.cons_append, cutLines, if_neg hsame, if_neg hquote, ih hs, ← prepend_append,
      List.singleton_append]

/-- Neither a line feed nor a quote. -/
def isInner (c : Char) : Bool := c != '\n' && c != '"'

theorem whole_plain {s : List Char} (h : s.all isInner = true) : IsWhole s := by
  refine cutLines_append fun c hc => ?_
  have hinner := List.all_eq_true.mp h c hc
  rw [isInner, Bool.and_eq_true, bne_iff_ne, bne_iff_ne] at hinner
  exact ⟨hinner.2, fun he => absurd he hinner.1⟩

theorem whole_quoted {s : List Char} (h : '"' ∉ s) : IsWhole (['"'] ++ s ++ ['"']) := by
  intro rest
  have hopen : ∀ rest, cutLines false ('"' :: rest) = prepend ['"'] (cutLines true rest) :=
    fun _ => rfl
  have hclose : ∀ rest, cutLines true ('"' :: rest) = prepend ['"'] (cutLines false rest) :=
    fun _ => rfl
  have hinside : ∀ c ∈ s, c ≠ '"' ∧ (c = '\n' → true = true) :=
    fun c hc => ⟨fun he => h (he ▸ hc), fun _ => rfl⟩
  rw [List.append_assoc, List.append_assoc, List.singleton_append, List.singleton_append, hopen,
    cutLines_append hinside, hclose, ← prepend_append, ← prepend_append, List.append_assoc]

theorem cutLines_join {lines : List (List Char)} (given : lines ≠ [])
    (whole : ∀ line ∈ lines, IsWhole line) :
    cutLines false (Text.join ['\n'] lines) = lines := by
  induction lines with
  | nil => exact absurd rfl given
  | cons line more ih =>
    obtain ⟨hline, hmore⟩ := List.forall_mem_cons.mp whole
    cases more with
    | nil =>
      have h := hline []
      rw [List.append_nil, cutLines_nil, prepend, List.append_nil] at h
      simpa [Text.join] using h
    | cons next more =>
      have hfeed : ∀ rest, cutLines false ('\n' :: rest) = [] :: cutLines false rest :=
        fun _ => rfl
      rw [Text.join_cons_cons, List.append_assoc, hline, List.singleton_append, hfeed,
        ih (List.cons_ne_nil _ _) hmore, prepend, List.append_nil]

/-! ### Parts of lines -/

theorem isWord_identifier (id : String) : (identifier id).toList.all isWord = true := by
  rw [identifier, String.toList_ofList, List.all_map, List.all_eq_true]
  intro c _
  rw [Function.comp_apply]
  unfold isWord
  split
  · rename_i h
    rw [h, Bool.true_or]
  · rfl

theorem isInner_of_isWord {c : Char} (h : isWord c = true) : isInner c = true := by
  have hfeed : c ≠ '\n' := by
    rintro rfl
    revert h
    decide
  have hquote : c ≠ '"' := by
    rintro rfl
    revert h
    decide
  rw [isInner, bne_iff_ne.mpr hfeed, bne_iff_ne.mpr hquote, Bool.and_self]

theorem isInner_identifier (id : String) : (identifier id).toList.all isInner = true :=
  List.all_eq_true.mpr fun c hc =>
    isInner_of_isWord (List.all_eq_true.mp (isWord_identifier id) c hc)

theorem not_quote_of_caption (label : String) : '"' ∉ (caption label).toList := by
  rw [caption, String.toList_ofList, Text.replaceChar, List.mem_map]
  rintro ⟨c, -, hc⟩
  split at hc
  · revert hc
    decide
  · rename_i h
    exact h (by simp [hc])

/-- The title of a box, in its brackets. -/
def bracketed (label : String) : List Char :=
  '[' :: (['"'] ++ (caption label).toList ++ ['"'] ++ [']'])

theorem box_toList (id label : String) :
    (box id label).toList = (identifier id).toList ++ bracketed label := by
  simp [box, bracketed]

theorem whole_box (id label : String) : IsWhole (box id label).toList := by
  rw [box_toList]
  exact (whole_plain (isInner_identifier id)).append ((whole_plain (s := ['[']) (by decide)).append
    ((whole_quoted (not_quote_of_caption label)).append (whole_plain (by decide))))

theorem whole_edgeLine (e : Edge) : IsWhole (edgeLine e).toList := by
  have hrelation : (arrow e.relation).toList.all isInner = true ∧
      e.relation.label.toList.all isInner = true := by
    cases e.relation <;> decide
  apply whole_plain
  simp only [edgeLine, String.toList_append, List.all_append, isInner_identifier, hrelation.1,
    hrelation.2, Bool.and_true]
  decide

/-! ### What lines say -/

theorem span_append {p : Char → Bool} {s : List Char} {c : Char} (hs : s.all p = true)
    (hc : p c = false) (rest : List Char) :
    (s ++ c :: rest).takeWhile p = s ∧ (s ++ c :: rest).dropWhile p = c :: rest := by
  rw [List.all_eq_true] at hs
  rw [List.takeWhile_append_of_pos hs, List.dropWhile_append_of_pos hs,
    List.takeWhile_cons_of_neg (by simp [hc]), List.dropWhile_cons_of_neg (by simp [hc]),
    List.append_nil]
  exact ⟨rfl, rfl⟩

/-- A line is read by its first word, unless there is none before a space. -/
theorem readLine?_eq {indent word : List Char} {c : Char} (blank : indent.all (· == ' ') = true)
    (hword : word.all isWord = true) (hc : isWord c = false) (visible : word ≠ [] ∨ c ≠ ' ')
    (rest : List Char) :
    readLine? (indent ++ (word ++ c :: rest)) = readAfter? (String.ofList word) (c :: rest) := by
  have hbody : (indent ++ (word ++ c :: rest)).dropWhile (· == ' ') = word ++ c :: rest := by
    cases word with
    | nil =>
      have hvisible := visible.resolve_left fun h => h rfl
      exact (span_append blank (beq_eq_false_iff_ne.mpr hvisible) rest).2
    | cons first word =>
      refine (span_append blank (beq_eq_false_iff_ne.mpr ?_) (word ++ c :: rest)).2
      rintro rfl
      have hspace := List.all_eq_true.mp hword ' ' List.mem_cons_self
      revert hspace
      decide
  obtain ⟨htake, hdrop⟩ := span_append hword hc rest
  rw [readLine?, hbody, htake, hdrop]

theorem readLine?_box {indent : List Char} (blank : indent.all (· == ' ') = true)
    (id label : String) :
    readLine? (indent ++ (box id label).toList) = some (.node (identifier id)) := by
  rw [box_toList, bracketed, readLine?_eq blank (isWord_identifier id) (by decide)
    (.inr (by decide)), String.ofList_toList]
  rfl

theorem readLine?_subgraph (id label : String) :
    readLine? ("    subgraph " ++ box id label).toList = some (.subgraph (identifier id)) := by
  have hline : ("    subgraph " ++ box id label).toList =
      "    ".toList ++ ("subgraph".toList ++ ' ' :: (box id label).toList) := by
    simp
  obtain ⟨htake, hdrop⟩ := span_append (isWord_identifier id) (c := '[') (by decide)
    (['"'] ++ (caption label).toList ++ ['"'] ++ [']'])
  rw [hline, readLine?_eq (by decide) (by decide) (by decide) (.inl (by decide)), readAfter?,
    box_toList, bracketed, htake, hdrop, String.ofList_toList, String.ofList_toList,
    if_pos ⟨rfl, rfl⟩]

/-- What the line of an edge says. -/
def linkOf (e : Edge) : Statement :=
  .link (identifier e.source) (arrow e.relation) e.relation.label (identifier e.target)

theorem readLine?_edgeLine {e : Edge} (named : identifier e.source ≠ "") :
    readLine? (edgeLine e).toList = some (linkOf e) := by
  have harrow : (arrow e.relation).toList.all (· != '|') = true := by
    cases e.relation <;> decide
  have hlabel : e.relation.label.toList.all (· != '|') = true := by
    cases e.relation <;> decide
  have hline : (edgeLine e).toList = "    ".toList ++ ((identifier e.source).toList ++
      ' ' :: ((arrow e.relation).toList ++ '|' :: (e.relation.label.toList ++
        '|' :: ' ' :: (identifier e.target).toList))) := by
    simp [edgeLine]
  -- No title follows the first word behind the source, so a source named `subgraph` is read well.
  have htitle : (((arrow e.relation).toList ++ '|' :: (e.relation.label.toList ++
      '|' :: ' ' :: (identifier e.target).toList)).dropWhile isWord).head? ≠ some '[' := by
    cases e.relation <;> simp [arrow, isWord, Text.isAsciiLetter, Text.isAsciiDigit]
  obtain ⟨htakeArrow, hdropArrow⟩ := span_append harrow (c := '|') (by decide)
    (e.relation.label.toList ++ '|' :: ' ' :: (identifier e.target).toList)
  obtain ⟨htakeLabel, hdropLabel⟩ := span_append hlabel (c := '|') (by decide)
    (' ' :: (identifier e.target).toList)
  have hword : (identifier e.source).toList ≠ [] := fun he => named (String.toList_inj.mp he)
  rw [hline, readLine?_eq (by decide) (isWord_identifier e.source) (by decide) (.inl hword),
    readAfter?, if_neg (fun h => htitle h.2)]
  simp only [readLink?, htakeArrow, hdropArrow, htakeLabel, hdropLabel, String.ofList_toList]
  rfl

/-! ### Charts -/

/-- What a line says, if it says anything. -/
def says? (line : String) : Option Statement := readLine? line.toList

theorem says?_box {indent : String} (blank : indent.toList.all (· == ' ') = true)
    (id label : String) : says? (indent ++ box id label) = some (.node (identifier id)) := by
  rw [says?, String.toList_append, readLine?_box blank]

theorem readChart_lines {lines : List String} (given : lines ≠ [])
    (whole : ∀ line ∈ lines, IsWhole line.toList) :
    readChart (String.intercalate "\n" lines) = lines.filterMap says? := by
  have hjoin : (String.intercalate "\n" lines).toList =
      Text.join ['\n'] (lines.map String.toList) := by
    rw [String.toList_intercalate]
    rfl
  have hcut : cutLines false (Text.join ['\n'] (lines.map String.toList)) =
      lines.map String.toList :=
    cutLines_join (fun h => given (List.map_eq_nil_iff.mp h)) (List.forall_mem_map.mpr whole)
  rw [readChart, hjoin, hcut, List.filterMap_map]
  rfl

/-- Lines that say something each. -/
theorem filterMap_says {α : Type} {line : α → String} {statement : α → Statement} {items : List α}
    (h : ∀ a ∈ items, says? (line a) = some (statement a)) :
    (items.map line).filterMap says? = items.map statement := by
  rw [List.filterMap_map]
  exact List.filterMap_eq_map_iff_forall_eq_some.mpr h

/-- The nodes of a group's members. -/
def membersOf (d : Diagram) (g : Group) : List Node :=
  g.members.filterMap fun id => d.nodes.find? (·.id == id)

/-- What the lines of a group say. -/
def groupStatements (d : Diagram) (g : Group) : List Statement :=
  .subgraph (identifier g.id) :: (membersOf d g).map fun n => .node (identifier n.id)

theorem filterMap_memberLine? (d : Diagram) (g : Group) :
    g.members.filterMap (memberLine? d) =
      (membersOf d g).map fun n => "        " ++ box n.id n.label := by
  rw [membersOf, List.map_filterMap]
  rfl

theorem says_groupLines (d : Diagram) (g : Group) :
    (groupLines d g).filterMap says? = groupStatements d g := by
  have hopen : says? ("    subgraph " ++ box g.id g.label) = some (.subgraph (identifier g.id)) :=
    readLine?_subgraph g.id g.label
  have hclose : says? "    end" = none := by decide
  have hmembers : ((membersOf d g).map fun n => "        " ++ box n.id n.label).filterMap says? =
      (membersOf d g).map fun n => .node (identifier n.id) :=
    filterMap_says fun n _ => says?_box (by decide) n.id n.label
  rw [groupLines, filterMap_memberLine?, List.filterMap_append, List.filterMap_append, hmembers,
    List.filterMap_cons_some hopen, List.filterMap_cons_none hclose, List.filterMap_nil,
    List.append_nil]
  rfl

theorem whole_flowLines (d : Diagram) : ∀ line ∈ flowLines d, IsWhole line.toList := by
  have hbox : ∀ indent : String, indent.toList.all isInner = true → ∀ id label,
      IsWhole (indent ++ box id label).toList := by
    intro indent hplain id label
    rw [String.toList_append]
    exact (whole_plain hplain).append (whole_box id label)
  simp only [flowLines, groupLines, filterMap_memberLine?, List.forall_mem_append,
    List.forall_mem_map, List.forall_mem_flatMap, List.forall_mem_singleton]
  exact ⟨⟨⟨whole_plain (by decide), fun g _ => ⟨⟨hbox _ (by decide) _ _,
    fun n _ => hbox _ (by decide) _ _⟩, whole_plain (by decide)⟩⟩,
    fun n _ => hbox _ (by decide) _ _⟩, fun e _ => whole_edgeLine e⟩

/-- The text of a flowchart says what is in the diagram, whatever its labels hold. -/
theorem readChart_mermaid {d : Diagram} (flow : d.kind ≠ .sequence)
    (named : ∀ e ∈ d.edges, identifier e.source ≠ "") :
    readChart d.mermaid =
      d.groups.flatMap (groupStatements d) ++
        (d.nodes.filter fun n => !isGrouped d n.id).map (fun n => .node (identifier n.id)) ++
        d.edges.map linkOf := by
  have htitle : says? "flowchart LR" = none := by decide
  have hgroups : (d.groups.flatMap (groupLines d)).filterMap says? =
      d.groups.flatMap (groupStatements d) := by
    rw [List.filterMap_flatMap]
    exact congrArg d.groups.flatMap (funext (says_groupLines d))
  have hnodes : ((d.nodes.filter fun n => !isGrouped d n.id).map
      fun n => "    " ++ box n.id n.label).filterMap says? =
      (d.nodes.filter fun n => !isGrouped d n.id).map fun n => .node (identifier n.id) :=
    filterMap_says fun n _ => says?_box (by decide) n.id n.label
  have hedges : (d.edges.map edgeLine).filterMap says? = d.edges.map linkOf :=
    filterMap_says fun e he => readLine?_edgeLine (named e he)
  have hsome : flowLines d ≠ [] := List.cons_ne_nil _ _
  rw [Diagram.mermaid, lines, if_neg flow, readChart_lines hsome (whole_flowLines d), flowLines,
    List.filterMap_append, List.filterMap_append, List.filterMap_append, hgroups, hnodes, hedges,
    List.filterMap_cons_none htitle, List.filterMap_nil, List.nil_append]

end DocAtlas.Diagram.Mermaid
