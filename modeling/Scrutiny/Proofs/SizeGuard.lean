import Scrutiny.Proofs.Collection
import Scrutiny.Proofs.Passing
import Scrutiny.Proofs.Reading
import Scrutiny.Proofs.SkippedFolders

/-! The guard on the size of a project.

Before a project is loaded, the files with a name that ends in `.py` are counted; those with the extension `.py` are
loaded. The names that make the difference are dots and `py` alone (`Path.extension_eq_source_iff`): they are hidden
files without an extension. So no more is loaded than was counted, and just as much where no such name is met. -/
namespace Scrutiny

namespace Path

/-- A name of one dot or more, and `py`. -/
def IsDotted (name : String) : Prop :=
  ∃ dots, name.toList = List.replicate (dots + 1) '.' ++ ['p', 'y']

theorem dots_append_py (dots : Nat) :
    List.replicate (dots + 1) '.' ++ ['p', 'y'] = List.replicate dots '.' ++ ['.', 'p', 'y'] := by
  simp [List.replicate_succ']

theorem IsDotted.endsWith {name : String} (h : IsDotted name) : Text.endsWith ".py" name = true := by
  obtain ⟨dots, hname⟩ := h
  exact Text.endsWith_iff.mpr ⟨List.replicate dots '.', by rw [hname, dots_append_py]; rfl⟩

theorem extension_of_suffix {name : String} {before : List Char} (h : name.toList = before ++ ['.', 'p', 'y']) :
    extension name = if before.all (· = '.') then "" else ".py" := by
  have hreversed : name.toList.reverse = 'y' :: 'p' :: '.' :: before.reverse := by
    simp [h]
  simp [extension, hreversed]

theorem isDotted_iff {name : String} {before : List Char} (h : name.toList = before ++ ['.', 'p', 'y']) :
    IsDotted name ↔ before.all (· = '.') = true := by
  simp only [IsDotted, h, dots_append_py, List.append_cancel_right_eq]
  constructor
  · rintro ⟨dots, rfl⟩
    simp
  · intro hall
    refine ⟨before.length, List.eq_replicate_of_mem fun c hc => ?_⟩
    simpa using List.all_eq_true.mp hall c hc

/-- The extension of sources is that of all names that end in it, but for those of dots alone. -/
theorem extension_eq_source_iff {name : String} :
    extension name = ".py" ↔ Text.endsWith ".py" name = true ∧ ¬ IsDotted name := by
  have hsplit (hend : Text.endsWith ".py" name = true) : extension name = ".py" ↔ ¬ IsDotted name := by
    obtain ⟨before, hbefore⟩ := Text.endsWith_iff.mp hend
    rw [isDotted_iff hbefore.symm, extension_of_suffix hbefore.symm]
    cases before.all (· = '.') <;> simp
  constructor
  · intro hextension
    have hend := endsWith_of_extension hextension
    exact ⟨hend, (hsplit hend).mp hextension⟩
  · rintro ⟨hend, hdotted⟩
    exact (hsplit hend).mpr hdotted

end Path

section Counting
variable {disk : Disk} {skip : Words} {path : String}

/-- The files below a path that are counted: those named like sources. -/
def Disk.counted (disk : Disk) (skip : Words) (path : String) : List Leaf :=
  (disk.reachable skip path).filter fun l => Text.endsWith ".py" l.name

theorem Disk.countSources_eq : disk.countSources skip path = (disk.counted skip path).length := by
  rw [countSources, filesOf_visitsOutside, List.filter_map, List.length_map]
  rfl

/-- What is loaded is chosen from what is counted. -/
theorem Disk.selected_eq : disk.selected sourceExtensions skip path =
    (disk.counted skip path).filter fun l => Path.extension l.name = ".py" := by
  rw [selected, counted, List.filter_filter]
  refine List.filter_congr fun l _ => ?_
  have hhas : sourceExtensions.has (Path.extension l.name) = decide (Path.extension l.name = ".py") := by
    simp [Words.has]
  rw [hhas, Bool.eq_iff_iff]
  simp only [decide_eq_true_eq, Bool.and_eq_true]
  exact ⟨fun h => ⟨h, endsWith_of_extension h⟩, fun h => h.1⟩

theorem Disk.length_selected_le (disk : Disk) (skip : Words) (path : String) :
    (disk.selected sourceExtensions skip path).length ≤ disk.countSources skip path := by
  rw [selected_eq, countSources_eq]
  exact List.length_filter_le _ _

theorem Disk.length_selected_eq_iff :
    (disk.selected sourceExtensions skip path).length = disk.countSources skip path ↔
      ∀ l ∈ disk.reachable skip path, ¬ Path.IsDotted l.name := by
  rw [selected_eq, countSources_eq, List.length_filter_eq_length_iff]
  simp only [counted, List.mem_filter, decide_eq_true_eq, Path.extension_eq_source_iff, and_imp]
  constructor
  · intro h l hl hdotted
    exact (h l hl hdotted.endsWith).2 hdotted
  · intro h l hl hend
    exact ⟨hend, h l hl⟩

end Counting

/-- A loaded project has as many sources as were selected. -/
theorem Project.length_sources {disk : Disk} {path : String} {skip : Words} {p : Project}
    (h : Project.load disk path skip = .ok p) :
    p.sources.length = (disk.selected sourceExtensions skip path).length := by
  obtain ⟨_, ⟨f, hf⟩, _⟩ := Project.of_load h
  rw [load_eq hf] at h
  obtain ⟨sources, hsources, hdone⟩ := Outcome.bind_eq_ok.mp h
  split at hdone
  · cases hdone
  · cases hdone
    exact (Outcome.mapM_eq_ok_iff.mp hsources).length_eq.symm

/-- A guard that finds nothing has counted no more than the limit under each of the paths. -/
theorem Preflight.countSources_le {c : Context} (h : tooLarge c = .ok none) {path : String} (hpath : path ∈ paths c) :
    (c.disk.countSources c.settings.directoriesToSkip path : Int) ≤ c.settings.maxNumOfPyFiles := by
  have hsmall := Outcome.returnIf_eq_none.mp (Outcome.firstFinding_eq_none_iff.mp h path hpath)
  obtain ⟨_, _, hcount⟩ := Outcome.bind_eq_ok.mp hsmall
  have hlimit : ¬ c.settings.maxNumOfPyFiles < c.disk.countSources c.settings.directoriesToSkip path :=
    of_decide_eq_false (Except.ok.inj hcount)
  omega

/-- **The guard on the size bounds what is loaded.** Below any path, no more texts of sources are read than files are
counted, and just as many when no reachable name is of dots and `py` alone. So where the guard finds nothing, neither
the project nor the one it started from is loaded with more sources than the limit. -/
theorem size_guard_bounds_sources :
    (∀ (disk : Disk) (skip : Words) (path : String) (texts : List (String × String)),
      disk.textsWith sourceExtensions skip path = .ok texts →
        texts.length ≤ disk.countSources skip path ∧
        (texts.length = disk.countSources skip path ↔
          ∀ l ∈ disk.reachable skip path, ¬ Path.IsDotted l.name)) ∧
    (∀ (disk : Disk) (r : Request) (loaded : Context), Preflight.tooLarge (r.context disk) = .ok none →
      (r.context disk).load = .ok loaded → ∀ p, loaded.project = some p ∨ loaded.base = some p →
        (p.sources.length : Int) ≤ r.settings.maxNumOfPyFiles) := by
  constructor
  · intro disk skip path texts htexts
    have hlength := (Disk.textsWith_eq_ok_iff.mp htexts).length_eq
    rw [← hlength]
    exact ⟨disk.length_selected_le skip path, Disk.length_selected_eq_iff⟩
  · intro disk r loaded hguard hload p hp
    have hbound {path : String} (hpath : path ∈ Preflight.paths (r.context disk))
        (hone : Project.load disk path r.settings.directoriesToSkip = .ok p) :
        (p.sources.length : Int) ≤ r.settings.maxNumOfPyFiles := by
      have hcount : (disk.countSources r.settings.directoriesToSkip path : Int) ≤ r.settings.maxNumOfPyFiles :=
        Preflight.countSources_le hguard hpath
      have hselected := disk.length_selected_le r.settings.directoriesToSkip path
      rw [Project.length_sources hone]
      omega
    obtain ⟨own, base, hown, rfl, hbase⟩ := Request.of_load hload
    rcases hp with hp | hp
    · cases hp
      exact hbound List.mem_cons_self hown
    · obtain ⟨path, hpath, hone⟩ := hbase p hp
      -- What is loaded lies in a folder, and the empty path leads to none.
      obtain ⟨_, ⟨f, hf⟩, _⟩ := Project.of_load hone
      have hgiven : (r.basePath.filter (· ≠ "")) = some path :=
        Option.filter_eq_some_iff.mpr ⟨hpath, decide_eq_true (Disk.reach_of_folderAt? hf).2⟩
      exact hbound (List.mem_cons_of_mem _ (Option.mem_toList.mpr hgiven)) hone

/-- A hidden file is counted and not loaded; a project and the one it started from keep to the limit. -/
theorem hidden_source_is_counted :
    let source : File := { bytes := [0x78] }
    let own : Folder := .node { name := "p", files := [("..py", source), ("a.py", source)] }
      [.node { name := "lib", files := [("b.py", source)] } []]
    let start : Folder := .node { name := "o", files := [("a.py", source)] } []
    let disk : Disk := { top := .node { name := "" } [start, own] }
    let r : Request := { path := "p", basePath := some "o", changes := [.amount .maxNumOfPyFiles 3] }
    let texts := [("p/a.py", "x"), ("p/lib/b.py", "x")]
    disk.textsWith sourceExtensions (.list []) "p" = .ok texts ∧
      texts.length ≤ disk.countSources (.list []) "p" ∧
      Preflight.tooLarge (r.context disk) = .ok none ∧
      ∃ loaded, (r.context disk).load = .ok loaded ∧
        ∀ p, loaded.project = some p ∨ loaded.base = some p → (p.sources.length : Int) ≤ 3 := by
  intro source own start disk r texts
  have htexts : disk.textsWith sourceExtensions (.list []) "p" = .ok texts := by decide +kernel
  have hguard : Preflight.tooLarge (r.context disk) = .ok none := by decide +kernel
  have hok : (r.context disk).load.isOk = true := by decide +kernel
  obtain ⟨hcounted, hbound⟩ := size_guard_bounds_sources
  refine ⟨htexts, (hcounted disk _ "p" texts htexts).1, hguard, ?_⟩
  cases hload : (r.context disk).load with
  | error failure => rw [hload] at hok; cases hok
  | ok loaded => exact ⟨loaded, rfl, hbound disk r loaded hguard hload⟩

end Scrutiny
