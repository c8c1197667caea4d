import DocAtlas.Markdown.Page
import DocAtlas.Proofs.NormalPaths

/-!
Where the links between pages lead: from the file of a page to that of the page it names, whatever
directory the pages are written to.
-/
namespace DocAtlas.Path

theorem segments_markdown {page : String} (h : IsDownward page) :
    segments (page ++ ".md") = (segments page).dropLast ++ [Path.base page ++ ".md"] := by
  have hparts : ∀ s ∈ (segments page).dropLast ++ [Path.base page ++ ".md"], '/' ∉ s.toList := by
    rw [List.forall_mem_append, List.forall_mem_singleton]
    refine ⟨fun s hs => (h.names.dropLast s hs).1, ?_⟩
    simpa using h.base.1
  conv_lhs => rw [eq_joinSegments page, joinSegments_home, String.append_assoc]
  rw [← joinSegments_home, segments_joinSegments (by simp) hparts]

/-- With its suffix the path of a page still holds names only. -/
theorem IsDownward.markdown {page : String} (h : IsDownward page) : IsDownward (page ++ ".md") := by
  have hname (short : String) (hshort : short.length ≤ 2) : Path.base page ++ ".md" ≠ short := by
    rintro rfl
    rw [String.length_append] at hshort
    change _ + 3 ≤ 2 at hshort
    omega
  intro s hs
  rw [segments_markdown h, List.mem_append, List.mem_singleton] at hs
  rcases hs with hs | rfl
  · exact (h.names.dropLast s hs).2
  · exact ⟨hname "" (by decide), hname "." (by decide), hname ".." (by decide)⟩

/-- The directory of a path holds the steps before its name. -/
theorem steps_directory_concat {path : String} {front : List String}
    (h : steps path = front ++ [base path]) : steps (directory path) = front := by
  have hname : base path ∈ steps path := by simp [h]
  obtain ⟨hslash, hne, hself⟩ := no_slash_of_mem_steps hname
  have hsteps := steps_directory path
  rw [steps_name hslash hne hself, h] at hsteps
  exact (List.append_cancel_right hsteps).symm

theorem steps_directory_of_downward {path : String} (h : IsDownward path) :
    steps (directory path) = (segments path).dropLast :=
  steps_directory_concat (by rw [h.steps, ← segments_eq])

/-- A way of segments takes them as its steps. -/
theorem steps_way {parts : List String}
    (h : ∀ s ∈ parts, '/' ∉ s.toList ∧ s ≠ "" ∧ s ≠ ".") :
    steps (if parts.isEmpty then "." else joinSegments parts) = parts ∧
      IsRelative (if parts.isEmpty then "." else joinSegments parts) := by
  cases parts with
  | nil => exact ⟨by decide, '.', [], by decide, by decide⟩
  | cons s rest =>
    obtain ⟨hslash, hne, -⟩ := h s List.mem_cons_self
    have hself : (s :: rest).filter (fun s => s != "" && s != ".") = s :: rest :=
      List.filter_eq_self.mpr fun s hs => by simp [h s hs]
    rw [List.isEmpty_cons, if_neg Bool.false_ne_true, steps_joinSegments fun s hs => (h s hs).1,
      hself]
    exact ⟨rfl, exists_head_joinSegments hslash hne rest⟩

end DocAtlas.Path

namespace DocAtlas.Markdown
open DocAtlas.Path

/-- A link goes back to the directories that two pages share, and on to the file it leads to. -/
structure Leads (source target link : String) (common up down : List String) : Prop where
  starts : (segments source).dropLast = common ++ up
  ends : segments (target ++ ".md") = common ++ down
  steps : steps link = List.replicate up.length ".." ++ down
  relative : IsRelative link

theorem exists_leads {source target : String} (hs : IsDownward source) (ht : IsDownward target) :
    ∃ common up down, Leads source target (relativeLink source target) common up down := by
  have hdirs : AreNames (Path.steps (directory source)) := by
    rw [steps_directory_of_downward hs]
    exact hs.names.dropLast
  have hfile : AreNames (Path.steps (target ++ ".md")) := by
    rw [ht.markdown.steps]
    exact ht.markdown.names
  obtain ⟨common, hdown, hup⟩ :=
    dropCommon_spec (normalSegments (target ++ ".md")) (normalSegments (directory source))
  unfold relativeLink relative
  rw [normalSegments_of_names hfile, normalSegments_of_names hdirs] at hdown hup ⊢
  generalize dropCommon (Path.steps (target ++ ".md")) (Path.steps (directory source)) = ways at *
  obtain ⟨down, up⟩ := ways
  dsimp only at hdown hup ⊢
  rw [steps_directory_of_downward hs] at hup
  rw [ht.markdown.steps] at hdown hfile
  rw [List.map_const']
  have hparts : ∀ s ∈ List.replicate up.length ".." ++ down,
      '/' ∉ s.toList ∧ s ≠ "" ∧ s ≠ "." := by
    rw [List.forall_mem_append]
    constructor
    · intro s hm
      rw [List.eq_of_mem_replicate hm]
      decide
    · intro s hm
      obtain ⟨hslash, hne, hself, -⟩ := hfile s (hdown ▸ List.mem_append_right _ hm)
      exact ⟨hslash, hne, hself⟩
  obtain ⟨hsteps, hrelative⟩ := steps_way hparts
  exact ⟨common, up, down, hup, hdown, hsteps, hrelative⟩

section

variable {source target link : String} {common up down : List String}

/-- Joined to a directory with the steps of the page it stands on, a link leads to its file. -/
theorem Leads.normal_join (h : Leads source target link common up down) (hs : IsDownward source)
    {dir : String} {base : List String} (hdir : Path.steps dir = base ++ (segments source).dropLast) :
    normal (join dir link) = lead (rootSlashes dir) (base ++ segments (target ++ ".md")) := by
  have hnames : AreNames (common ++ up) := h.starts ▸ hs.names.dropLast
  obtain ⟨hroot, hsteps⟩ := join_eq dir h.relative
  rw [normal_eq_lead, hroot, hsteps, hdir, h.steps, h.starts, h.ends, lead, lead,
    List.append_assoc, List.foldl_append, foldl_push_detour hnames, ← List.foldl_append]

end

/-- The file of a page beneath a directory has the root of the directory, and its steps lead through
the directory to the segments of the page. -/
theorem filePath_steps (out : String) {page : String} (h : IsDownward page) :
    rootSlashes (Site.filePath out page) = rootSlashes out ∧
      Path.steps (Site.filePath out page) = Path.steps out ++ segments (page ++ ".md") := by
  obtain ⟨hroot, hsteps⟩ := plain_eq (join out (page ++ ".md"))
  obtain ⟨hjoined, hsum⟩ := join_eq out h.markdown.relative
  rw [Site.filePath, hroot, hsteps, hjoined, hsum, h.markdown.steps]
  exact ⟨rfl, rfl⟩

theorem base_filePath (out : String) {page : String} (h : IsDownward page) :
    Path.base (Site.filePath out page) = Path.base page ++ ".md" := by
  have hslash : '/' ∉ (Path.base page ++ ".md").toList := by simpa using h.base.1
  rw [(Site.beneath out h.markdown).below, segments_markdown h, ← List.append_assoc,
    joinSegments_home, ← String.append_assoc]
  apply base_append hslash
  rcases home_eq (Path.steps out ++ (segments page).dropLast) with he | ⟨front, he⟩
  · rw [he, String.append_empty]
    rcases rootSlashes_cases out with hr | hr | hr
    · exact .inl hr
    · exact .inr ⟨[], by rw [hr]; rfl⟩
    · exact .inr ⟨['/'], by rw [hr]; rfl⟩
  · exact .inr ⟨(rootSlashes out).toList ++ front, by simp [he]⟩

/-- Followed from a page, a link leads to the page that it names, and so it does from the file of one
page to that of the other in any directory. -/
theorem relativeLink_opens {source target : String} (hs : IsDownward source)
    (ht : IsDownward target) :
    normal (join (directory source) (relativeLink source target)) = target ++ ".md" ∧
      ∀ out, normal (join (directory (Site.filePath out source)) (relativeLink source target)) =
        normal (Site.filePath out target) := by
  obtain ⟨common, up, down, h⟩ := exists_leads hs ht
  constructor
  · have hroot : rootSlashes (directory source) = "" := by
      rw [rootSlashes_directory, rootSlashes_of_relative hs.relative]
    have hsteps : Path.steps (directory source) = [] ++ (segments source).dropLast :=
      steps_directory_of_downward hs
    rw [h.normal_join hs hsteps, hroot, List.nil_append, lead_names ht.markdown]
  · intro out
    obtain ⟨hroot, hsource⟩ := filePath_steps out hs
    obtain ⟨htargetRoot, htarget⟩ := filePath_steps out ht
    have hsteps : Path.steps (directory (Site.filePath out source)) =
        Path.steps out ++ (segments source).dropLast := by
      apply steps_directory_concat
      rw [hsource, segments_markdown hs, base_filePath out hs, List.append_assoc]
    rw [h.normal_join hs hsteps, rootSlashes_directory, hroot, normal_eq_lead, htargetRoot, htarget]

/-- A page finds its way to one in another chapter. -/
theorem relativeLink_opens_architecture :
    IsDownward "tutorial/steps/faq" ∧ IsDownward "tutorial/technical/architecture" ∧
      relativeLink "tutorial/steps/faq" "tutorial/technical/architecture" =
        "../technical/architecture.md" ∧
      normal (join (directory "tutorial/steps/faq") "../technical/architecture.md") =
        "tutorial/technical/architecture.md" ∧
      normal (join (directory (Site.filePath "/srv//docs" "tutorial/steps/faq"))
        "../technical/architecture.md") = "/srv/docs/tutorial/technical/architecture.md" := by
  have hs : IsDownward "tutorial/steps/faq" := by unfold IsDownward; decide
  have ht : IsDownward "tutorial/technical/architecture" := by unfold IsDownward; decide
  have hlink : relativeLink "tutorial/steps/faq" "tutorial/technical/architecture" =
      "../technical/architecture.md" := by decide +kernel
  obtain ⟨hopens, hbeneath⟩ := relativeLink_opens hs ht
  have hout := hbeneath "/srv//docs"
  rw [hlink] at hopens hout
  refine ⟨hs, ht, hlink, hopens, hout.trans ?_⟩
  decide +kernel

end DocAtlas.Markdown
