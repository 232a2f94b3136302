import Scrutiny.Proofs.Findings
import Scrutiny.Proofs.FolderPaths

/-! Data directories that are tracked.

A review reports a data directory when the path of a folder names it and something is tracked there. The folders that
are asked about are all folders of the project: those to skip are listed like the others, and what is below them. So
the report leads to a tracked path, and it is these paths that have to keep out of the folders to skip. -/
namespace Scrutiny

/-- A data directory is found in the listing of a folder about which the repository says yes. -/
theorem Layout.of_trackedData {c : Context} {p : Project} {d : String} (h : trackedData c p = .ok (some d)) :
    ∃ r, p.repository? c.disk = some r ∧ d ∈ c.settings.dataDirectories.items ∧
      ∃ text ∈ p.folders c.disk, Text.hasText d text = true ∧ r.tracks text = .ok true := by
  unfold trackedData at h
  split at h
  · cases h
  · rename_i r hr
    obtain ⟨_, text, _, hfolders, htext, _⟩ := Outcome.firstFinding_eq_some_iff.mp h
    obtain ⟨_, data, _, hitems, hdata, _⟩ := Outcome.firstFinding_eq_some_iff.mp htext
    obtain ⟨tracked, htracked, hdone⟩ := Outcome.bind_eq_ok.mp hdata
    have hmem : data ∈ c.settings.dataDirectories.items.filter fun data => Text.hasText data text := by
      rw [hitems]
      simp
    obtain ⟨hitem, hin⟩ := List.mem_filter.mp hmem
    cases tracked with
    | false => cases hdone
    | true =>
      cases hdone
      exact ⟨r, hr, hitem, text, by rw [hfolders]; simp, hin, htracked⟩

/-- A path that starts with names has their spelling in it, if it is written from the work tree on. -/
theorem Spells.infix_path {names : List String} {text path : String} (h : Spells names text) (hne : names ≠ [])
    (hnames : ∀ name ∈ names, Path.isName name = true) (hpath : names <+: Text.cut '/' path) :
    text.toList <:+: ("./" ++ path).toList := by
  have hbare : ("/".intercalate names).toList <+: path.toList := by
    have hnoslash : ∀ name ∈ names, '/' ∉ name.toList := fun name hname =>
      (Path.isName_iff.mp (hnames name hname)).2.2.2.1
    rcases (Text.prefix_cut_iff hne hnoslash).mp hpath with rfl | hlonger
    · exact List.prefix_refl _
    · rw [String.toList_append] at hlonger
      exact (List.prefix_append _ _).trans hlonger
  rw [String.toList_append]
  rcases h with rfl | rfl
  · exact hbare.isInfix.trans (List.suffix_append _ _).isInfix
  · rw [String.toList_append]
    exact ((List.prefix_append_right_inj _).mpr hbare).isInfix

/-- A folder that holds something tracked lies outside of the folders to skip, if the tracked paths do that have a text
in them which the folder has in its spelling. -/
theorem Repository.isOutside_of_holds {r : Repository} {s : Subfolder}
    (hnames : ∀ name ∈ s.steps, Path.isName name = true) (h : r.holds s.steps = true) {d : String}
    (hd : Text.hasText d s.spelling = true) {skip : Words}
    (hskip : ∀ path ∈ r.tracked, Text.hasText d ("./" ++ path) = true →
      ∀ part ∈ Text.cut '/' path, skip.has part = false) : ∀ part ∈ s.steps, skip.has part = false := by
  obtain ⟨path, hpath, hstart⟩ := List.any_eq_true.mp h
  rw [List.isPrefixOf_iff_prefix] at hstart
  have hin : Text.hasText d ("./" ++ path) = true :=
    Text.contains_iff.mpr ((Text.contains_iff.mp hd).trans
      (s.spells_spelling.infix_path s.steps_ne_nil hnames hstart))
  exact fun part hpart => hskip path hpath hin part (hstart.subset hpart)

/-- **A data directory that is reported lies in the path of a tracked folder.** The folder is one of the project,
wherever it lies. That it lies in no folder to skip is certain where this is so of the tracked paths that name the data
directory. -/
theorem reported_data_is_tracked {disk : Disk} {r : Request} {f : Folder} {found : List Finding} {d : String}
    (hplan : r.plan = .ofChoice none none none) (hopen : Text.endsWith "/" r.path = false)
    (hthere : disk.folderAt? r.path = some f) (hsound : f.isSound = true) (hreview : review disk r = .ok found)
    (hfound : ⟨"data_in_repo", d⟩ ∈ found) :
    ∃ repository s, f.label.repository = some repository ∧ d ∈ r.settings.dataDirectories.items ∧
      (s ∈ f.subfolders ∧ Text.hasText d s.spelling = true ∧ repository.tracks s.spelling = .ok true) ∧
      (s.isPlain = true → repository.holds s.steps = true ∧
        ((∀ path ∈ repository.tracked, Text.hasText d ("./" ++ path) = true →
            ∀ part ∈ Text.cut '/' path, r.settings.directoriesToSkip.has part = false) →
          ∀ part ∈ s.steps, r.settings.directoriesToSkip.has part = false)) := by
  have hcheck : Check.onProject "data_in_repo" Layout.trackedData ∈ Registry.all :=
    Registry.mem_all_of_general List.mem_cons_self
  obtain ⟨p, base, hload, hjudge⟩ := Registry.judge_of_review hplan hreview hcheck hfound
  obtain ⟨hpath, _⟩ := Project.of_load hload
  rw [← hpath] at hopen hthere
  obtain ⟨repository, hr, hd, text, htext, hin, htracks⟩ := Layout.of_trackedData hjudge
  have hrepository : f.label.repository = some repository := by
    have hthis : (disk.folderAt? p.path).bind (·.label.repository) = some repository := hr
    rwa [hthere] at hthis
  have hlisted : text ∈ p.folders disk := htext
  rw [p.folders_eq_spellings hthere hsound (.inl hopen)] at hlisted
  obtain ⟨s, hs, rfl⟩ := List.mem_map.mp hlisted
  refine ⟨repository, s, hrepository, hd, ⟨hs, hin, htracks⟩, fun hplain => ?_⟩
  have hnames := Folder.isName_of_mem_subfolders hsound hs
  have hholds : repository.holds s.steps = true := by
    rw [repository.tracks_spelling hnames hplain] at htracks
    exact Except.ok.inj htracks
  exact ⟨hholds, repository.isOutside_of_holds hnames hholds hin⟩

/-- A tracked file in a data directory, next to a folder to skip in which no data is tracked. -/
theorem nested_data_is_reported :
    let source : File := { bytes := [], tree := some (.node ⟨.module, .body, none, []⟩ []) }
    let repository : Repository :=
      { branch := "master", messages := ["Adds m"], tracked := ["build/a.xml", "lib/.idea/a.xml"] }
    let idea : Folder := .node { name := ".idea" } []
    let f : Folder := .node
      { name := "p", files := [("README.md", source), ("m.py", source)], repository := some repository }
      [.node { name := "build" } [idea], .node { name := "lib" } [idea]]
    let disk : Disk := { top := .node { name := "" } [f] }
    let r : Request := { path := "p" }
    review disk r = .ok [⟨"data_in_repo", ".idea"⟩] ∧
      ∃ s ∈ f.subfolders, Text.hasText ".idea" s.spelling = true ∧ repository.holds s.steps = true ∧
        ∀ part ∈ s.steps, r.settings.directoriesToSkip.has part = false := by
  intro source repository idea f disk r
  have hthere : disk.folderAt? r.path = some f := Disk.folderAt?_of_isName rfl (by decide)
  have hreview : review disk r = .ok [⟨"data_in_repo", ".idea"⟩] := by decide +kernel
  obtain ⟨_, s, hr, _, ⟨hs, hin, _⟩, hplain⟩ :=
    reported_data_is_tracked rfl (by decide) hthere (by decide +kernel) hreview (List.mem_singleton.mpr rfl)
  cases hr
  have hall : ∀ s ∈ f.subfolders, s.isPlain = true := by decide +kernel
  obtain ⟨hholds, houtside⟩ := hplain (hall s hs)
  exact ⟨hreview, s, hs, hin, hholds, houtside (by decide +kernel)⟩

/-- All that is tracked of a data directory lies in a folder to skip, and it is reported. -/
theorem data_in_skipped_folder_is_reported :
    let source : File := { bytes := [], tree := some (.node ⟨.module, .body, none, []⟩ []) }
    let repository : Repository :=
      { branch := "master", messages := ["Adds m"], tracked := ["build/.idea/a.xml", "m.py"] }
    let f : Folder := .node
      { name := "p", files := [("README.md", source), ("m.py", source)], repository := some repository }
      [.node { name := "build" } [.node { name := ".idea" } []]]
    let disk : Disk := { top := .node { name := "" } [f] }
    let r : Request := { path := "p" }
    review disk r = .ok [⟨"data_in_repo", ".idea"⟩] ∧
      ∀ s ∈ f.subfolders, Text.hasText ".idea" s.spelling = true → repository.tracks s.spelling = .ok true →
        ∃ part ∈ s.steps, r.settings.directoriesToSkip.has part = true := by
  decide +kernel

end Scrutiny
