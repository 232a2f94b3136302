import Scrutiny.Proofs.Collection
import Scrutiny.Proofs.SkippedFolders

/-! Which readme is judged.

The check for a readme joins its name to the path of the project; the check of the languages looks through all folders
for the first file of that name. For a name without a slash both come to the file directly in the project, whatever lies
deeper. For a name with a slash the first goes on into a folder, while no file has such a name, so the second has no
text to judge. -/
namespace Scrutiny

/-- No file is named with a slash. -/
theorem Project.fileNamed_of_slash {disk : Disk} {p : Project} {f : Folder} (h : disk.folderAt? p.path = some f)
    (hsound : f.isSound = true) {name : String} (hslash : '/' ∈ name.toList) : p.fileNamed disk name = .ok none := by
  have hnone : (disk.leaves p.path).find? (·.name = name) = none := by
    rw [Disk.leaves_of_folderAt? h, List.find?_eq_none]
    intro l hl hname
    rw [← of_decide_eq_true hname] at hslash
    exact Folder.slash_not_mem_name hsound hl hslash
  rw [fileNamed_eq_find?, hnone]
  rfl

theorem Disk.readText_of_entry {disk : Disk} {path : String} {file : File} (h : disk.entry path = .ok (.file file)) :
    disk.readText path = file.text := by
  simp only [readText, openFile, h]
  rfl

namespace Readme
variable {c : Context} {p : Project}

theorem absent_eq_none_iff : absent c p = .ok none ↔ p.hasFile c.disk c.settings.readmeFilename = true := by
  simp [absent]

/-- The languages are judged by the file of the readme's name directly in the project. -/
theorem bilingual_eq {f : Folder} (h : c.disk.folderAt? p.path = some f) (hsound : f.isSound = true)
    (hpresent : absent c p = .ok none) (hslash : '/' ∉ c.settings.readmeFilename.toList) :
    ∃ file, f.file? c.settings.readmeFilename = some file ∧
      c.disk.readText (Path.join p.path c.settings.readmeFilename) = file.text ∧
      bilingual c p = file.text.map fun text =>
        if isBilingual text c.settings.minPercentOfAnotherLanguage then some "" else none := by
  obtain ⟨file, hentry⟩ := Disk.isFile_iff.mp (absent_eq_none_iff.mp hpresent)
  obtain ⟨_, hlook⟩ := Disk.look_of_entry h hslash hentry
  have hfile := (Folder.look_eq_file hsound).mp hlook
  refine ⟨file, hfile, Disk.readText_of_entry hentry, ?_⟩
  unfold bilingual
  rw [Project.fileNamed_eq h hfile]
  cases file.text <;> rfl

theorem bilingual_of_slash {f : Folder} (h : c.disk.folderAt? p.path = some f) (hsound : f.isSound = true)
    (hslash : '/' ∈ c.settings.readmeFilename.toList) : bilingual c p = .error .noReadme := by
  unfold bilingual
  rw [Project.fileNamed_of_slash h hsound hslash]
  rfl

end Readme

/-- **One readme.** Where the check for a readme finds nothing amiss, the check of the languages has a text, and it is
that of the file at the path of the readme, just when the name of the readme has no slash. -/
theorem present_readme_is_judged_iff {c : Context} {p : Project} {f : Folder}
    (hthere : c.disk.folderAt? p.path = some f) (hsound : f.isSound = true)
    (hpresent : Readme.absent c p = .ok none) :
    (Readme.bilingual c p ≠ .error .noReadme ∧
      Readme.bilingual c p = (c.disk.readText (Path.join p.path c.settings.readmeFilename)).map fun text =>
        if Readme.isBilingual text c.settings.minPercentOfAnotherLanguage then some "" else none) ↔
    '/' ∉ c.settings.readmeFilename.toList := by
  constructor
  · rintro ⟨hfound, _⟩ hslash
    exact hfound (Readme.bilingual_of_slash hthere hsound hslash)
  · intro hslash
    obtain ⟨file, _, hread, hjudged⟩ := Readme.bilingual_eq hthere hsound hpresent hslash
    refine ⟨?_, by rw [hread, hjudged]⟩
    rw [hjudged]
    cases htext : file.text with
    | ok text => simp [Except.map]
    | error failure => simp [Except.map, (File.text_eq_error_iff.mp htext).1]

/-- Of two files of the readme's name, one of them deeper, the one directly in the project is judged. -/
theorem readme_above_another_is_judged :
    let readme : File := { bytes := [0x61, 0xD0, 0xB1] }
    let f : Folder := .node { name := "p", files := [("README.md", readme)] }
      [.node { name := "docs", files := [("README.md", { bytes := [0x61] })] } []]
    let c : Context := { disk := { top := .node { name := "" } [f] }, path := "p" }
    let p : Project := ⟨"p", []⟩
    c.disk.folderAt? p.path = some f ∧ f.isSound = true ∧ Readme.absent c p = .ok none ∧
      Readme.bilingual c p ≠ .error .noReadme ∧
      Readme.bilingual c p = (c.disk.readText "p/README.md").map fun text =>
        if Readme.isBilingual text 30 then some "" else none := by
  intro readme f c p
  have hthere : c.disk.folderAt? p.path = some f := by
    rw [Disk.folderAt?_of_isName rfl (by decide)]
    rfl
  have hsound : f.isSound = true := by decide +kernel
  have hpresent : Readme.absent c p = .ok none := by decide +kernel
  have hpath : Path.join p.path c.settings.readmeFilename = "p/README.md" := by decide +kernel
  obtain ⟨hfound, hjudged⟩ := (present_readme_is_judged_iff hthere hsound hpresent).mpr (by decide)
  rw [hpath] at hjudged
  exact ⟨hthere, hsound, hpresent, hfound, hjudged⟩

/-- A readme that lies in a folder, and is named so, is present and stops the review. -/
theorem readme_in_folder_stops_review :
    let source : String × File := ("a.py", { bytes := [0x78], tree := some (.node ⟨.module, .body, none, []⟩ []) })
    let f : Folder := .node { name := "p", files := [source] }
      [.node { name := "docs", files := [("README.md", { bytes := [0x61] })] } []]
    let disk : Disk := { top := .node { name := "" } [f] }
    let r : Request := { path := "p", changes := [.readme "docs/README.md"] }
    let p : Project := ⟨"p", []⟩
    Readme.absent (r.context disk) p = .ok none ∧ Readme.bilingual (r.context disk) p = .error .noReadme ∧
      review disk r = .error .noReadme := by
  decide +kernel

end Scrutiny
