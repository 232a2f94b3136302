import Mathlib.Data.List.Forall2
import Scrutiny.Proofs.Contents
import Scrutiny.Proofs.Outcome

/-! Collecting sources.

What is collected from a folder is said without the walk: the files below it that have a wanted extension and no folder
to skip on their way (`Disk.selected`). Their texts are collected in the order of the full walk, each file once and with
its own text (`textsWith_eq_ok_iff`), unless one of them cannot be decoded (`textsWith_eq_error_iff`). Loading a project
collects its sources in that way, and refuses a folder without any (`Project.load_eq_error_iff`). -/
namespace Scrutiny

namespace Outcome
variable {α β : Type}

/-- Work on all members of a list ends with what it ends with on each of them, in order. -/
theorem mapM_eq_ok_iff {f : α → Outcome β} {as : List α} {bs : List β} :
    as.mapM f = .ok bs ↔ List.Forall₂ (fun a b => f a = .ok b) as bs := by
  induction as generalizing bs with
  | nil => cases bs <;> simp [pure, Except.pure]
  | cons a rest ih =>
    rw [List.mapM_cons, List.forall₂_cons_left_iff]
    simp only [bind_eq_ok, ← ih]
    constructor
    · rintro ⟨b, hb, others, hothers, hdone⟩
      exact ⟨b, others, hb, hothers, (Except.ok.inj hdone).symm⟩
    · rintro ⟨b, others, hb, hothers, rfl⟩
      exact ⟨b, hb, others, hothers, rfl⟩

end Outcome

/-! ### Texts -/

namespace File

theorem text_eq_ok_iff {file : File} {text : String} :
    file.text = .ok text ↔
      ∃ chars, Text.Utf8.decode file.bytes = some chars ∧ text = String.ofList (Text.translateLineEnds chars) := by
  unfold File.text
  cases Text.Utf8.decode file.bytes <;> simp [eq_comm]

theorem text_eq_error_iff {file : File} {failure : Failure} :
    file.text = .error failure ↔ failure = .undecodable ∧ Text.Utf8.decode file.bytes = none := by
  unfold File.text
  cases Text.Utf8.decode file.bytes <;> simp [eq_comm]

end File

/-- The files below a path that have one of the extensions and lie in no folder to skip. -/
def Disk.selected (disk : Disk) (extensions skip : Words) (path : String) : List Leaf :=
  (disk.reachable skip path).filter fun l => extensions.has (Path.extension l.name)

/-- A file is read as a path and a text: its path below the start, and the characters that its bytes stand for, with the
line ends translated. -/
def Leaf.ReadsAs (start : String) (l : Leaf) (entry : String × String) : Prop :=
  entry.1 = l.path start ∧
    ∃ chars, Text.Utf8.decode l.file.bytes = some chars ∧ entry.2 = String.ofList (Text.translateLineEnds chars)

/-- A file is loaded as a source: read, with what the parser makes of it, and under its own name. -/
structure Leaf.LoadsAs (start : String) (l : Leaf) (s : Source) : Prop where
  read : l.ReadsAs start (s.path, s.content)
  tree : s.tree = l.file.tree
  name : s.name = l.name

/-! #### One file -/

theorem Leaf.readsAs_iff {start : String} {l : Leaf} {entry : String × String} :
    l.ReadsAs start entry ↔ (do return (l.path start, ← l.file.text) : Outcome (String × String)) = .ok entry := by
  obtain ⟨path, text⟩ := entry
  simp only [ReadsAs, ← File.text_eq_ok_iff]
  cases l.file.text <;> simp [bind, Except.bind, pure, Except.pure, eq_comm]

theorem failure_of_reading {α : Type} {file : File} {use : String → α} {failure : Failure} :
    (do return use (← file.text) : Outcome α) = .error failure ↔
      failure = .undecodable ∧ Text.Utf8.decode file.bytes = none := by
  rw [← File.text_eq_error_iff]
  cases file.text <;> simp [bind, Except.bind, pure, Except.pure]

section Collecting
variable {disk : Disk} {extensions skip : Words} {path : String}

theorem Disk.filesWith_eq : disk.filesWith extensions skip path =
    (disk.selected extensions skip path).map fun l => (l.path path, l.file) := by
  unfold filesWith selected
  rw [filesOf_visitsOutside, List.filter_map, List.map_map]
  rfl

theorem Disk.textsWith_eq_ok_iff {texts : List (String × String)} :
    disk.textsWith extensions skip path = .ok texts ↔
      List.Forall₂ (Leaf.ReadsAs path) (disk.selected extensions skip path) texts := by
  rw [textsWith, filesWith_eq, Outcome.mapM_eq_ok_iff, List.forall₂_map_left_iff]
  simp only [← Leaf.readsAs_iff]

theorem Disk.textsWith_eq_error_iff {failure : Failure} :
    disk.textsWith extensions skip path = .error failure ↔ failure = .undecodable ∧
      ∃ l ∈ disk.selected extensions skip path, Text.Utf8.decode l.file.bytes = none := by
  rw [textsWith, filesWith_eq, Outcome.mapM_eq_error_iff fun _ _ hfail => (failure_of_reading.mp hfail).1]
  simp only [failure_of_reading, true_and, List.mem_map, exists_exists_and_eq_and]

/-! ### Sources -/

/-- The extensions of sources. -/
abbrev sourceExtensions : Words := .list [".py"]

theorem Project.ofFile_eq_ok_iff {l : Leaf} {s : Source} :
    ofFile (l.path path, l.file) = .ok s ↔ l.ReadsAs path (s.path, s.content) ∧ s.tree = l.file.tree := by
  obtain ⟨spath, content, tree⟩ := s
  simp only [Leaf.readsAs_iff, ofFile]
  cases l.file.text <;> simp [bind, Except.bind, pure, Except.pure, eq_comm, and_assoc]

theorem Project.load_eq {f : Folder} (h : disk.folderAt? path = some f) :
    Project.load disk path skip = do
      let sources ← (disk.selected sourceExtensions skip path).mapM fun l => ofFile (l.path path, l.file)
      if sources.isEmpty then .error .noSources else return { path, sources } := by
  simp only [load, h, Disk.filesWith_eq, List.mapM_map]
  rfl

/-- Loading refuses a source that it cannot decode, and a folder without sources, and nothing else. -/
theorem Project.load_eq_error_iff {f : Folder} (h : disk.folderAt? path = some f) {failure : Failure} :
    Project.load disk path skip = .error failure ↔
      (failure = .undecodable ∧
        ∃ l ∈ disk.selected sourceExtensions skip path, Text.Utf8.decode l.file.bytes = none) ∨
      (failure = .noSources ∧ disk.selected sourceExtensions skip path = []) := by
  have hread {l : Leaf} {other : Failure} : ofFile (l.path path, l.file) = .error other ↔
      other = .undecodable ∧ Text.Utf8.decode l.file.bytes = none := failure_of_reading
  rw [load_eq h, Outcome.bind_eq_error, Outcome.mapM_eq_error_iff fun _ _ hfail => (hread.mp hfail).1]
  simp only [hread, true_and, Outcome.mapM_eq_ok_iff]
  refine or_congr_right ⟨?_, ?_⟩
  · rintro ⟨sources, hsources, hdone⟩
    split at hdone
    · rename_i hempty
      cases hdone
      rw [List.isEmpty_iff.mp hempty, List.forall₂_nil_right_iff] at hsources
      exact ⟨rfl, hsources⟩
    · cases hdone
  · rintro ⟨rfl, hnone⟩
    exact ⟨[], by simp [hnone], rfl⟩

theorem Project.of_load_eq_ok {f : Folder} (h : disk.folderAt? path = some f) (hsound : f.isSound = true) {p : Project}
    (hload : Project.load disk path skip = .ok p) :
    p.path = path ∧ List.Forall₂ (Leaf.LoadsAs path) (disk.selected sourceExtensions skip path) p.sources := by
  rw [load_eq h] at hload
  obtain ⟨sources, hsources, hdone⟩ := Outcome.bind_eq_ok.mp hload
  split at hdone
  · cases hdone
  · cases hdone
    have hnames : ∀ l ∈ disk.selected sourceExtensions skip path, '/' ∉ l.name.toList := by
      intro l hl
      exact Folder.slash_not_mem_name hsound (Disk.mem_contents_of_reachable h (List.mem_filter.mp hl).1)
    refine ⟨rfl, ((List.forall₂_and_left _ _).mpr ⟨hnames, Outcome.mapM_eq_ok_iff.mp hsources⟩).imp ?_⟩
    rintro l s ⟨hslash, hs⟩
    obtain ⟨hread, htree⟩ := Project.ofFile_eq_ok_iff.mp hs
    refine ⟨hread, htree, ?_⟩
    have hpath : s.path = l.path path := hread.1
    rw [Source.name, hpath, Leaf.path, Path.baseName_join _ hslash]

end Collecting

/-! ### The collection as a whole -/

/-- A choice of files below a folder that is at a path: they are those that names lead to, with one of the extensions
and no folder to skip on the way; each of them comes once; and they stand in the order of the walk that skips nothing.
-/
structure IsSelection (disk : Disk) (path : String) (f : Folder) (extensions skip : Words) (chosen : List Leaf) :
    Prop where
  exact : ∀ l, l ∈ chosen ↔ (∃ g, f.descend l.way = some g ∧ g.file? l.name = some l.file) ∧
    (∀ folder ∈ l.way, skip.has folder = false) ∧ extensions.has (Path.extension l.name) = true
  once : (chosen.map (Leaf.path path)).Nodup
  ordered : (chosen.map (Leaf.met path)).Sublist (Disk.filesOf (disk.visitsFrom path))

theorem isSelection_selected {disk : Disk} {path : String} {f : Folder} (h : disk.folderAt? path = some f)
    (hsound : f.isSound = true) (extensions skip : Words) :
    IsSelection disk path f extensions skip (disk.selected extensions skip path) := by
  have hsub : (disk.selected extensions skip path).Sublist f.contents := by
    rw [← Disk.leaves_of_folderAt? h]
    exact List.filter_sublist.trans List.filter_sublist
  exact {
    exact := by
      intro l
      simp only [Disk.selected, Disk.reachable, Disk.leaves_of_folderAt? h, List.mem_filter,
        Folder.mem_contents_iff hsound, and_assoc, Leaf.isOutside, List.all_eq_true, Bool.not_eq_true']
    once := (Folder.nodup_paths hsound path).sublist (hsub.map _)
    ordered := by
      rw [Disk.filesOf_visitsFrom, Disk.leaves_of_folderAt? h]
      exact hsub.map _ }

/-- **Collecting is exact.** At a path that leads to a folder, the texts collected for some extensions are those of the
selected files, pairwise and in order; the collection fails just when one of them is not UTF-8. A project is loaded from
the sources selected there, each under the last component of its path; loading fails just when one of them is not UTF-8
or there are none. -/
theorem collection_is_exact {disk : Disk} {path : String} {f : Folder} (hthere : disk.folderAt? path = some f)
    (hsound : f.isSound = true) (extensions skip : Words) :
    IsSelection disk path f extensions skip (disk.selected extensions skip path) ∧
    (∀ texts, disk.textsWith extensions skip path = .ok texts ↔
      List.Forall₂ (Leaf.ReadsAs path) (disk.selected extensions skip path) texts) ∧
    (∀ failure, disk.textsWith extensions skip path = .error failure ↔ failure = .undecodable ∧
      ∃ l ∈ disk.selected extensions skip path, Text.Utf8.decode l.file.bytes = none) ∧
    (∀ failure, Project.load disk path skip = .error failure ↔
      (failure = .undecodable ∧
        ∃ l ∈ disk.selected sourceExtensions skip path, Text.Utf8.decode l.file.bytes = none) ∨
      (failure = .noSources ∧ disk.selected sourceExtensions skip path = [])) ∧
    (∀ p, Project.load disk path skip = .ok p →
      p.path = path ∧ List.Forall₂ (Leaf.LoadsAs path) (disk.selected sourceExtensions skip path) p.sources ∧
        ∀ s ∈ p.sources, (Text.cut '/' s.path).getLast? = some s.name) := by
  refine ⟨isSelection_selected hthere hsound extensions skip, fun texts => Disk.textsWith_eq_ok_iff,
    fun failure => Disk.textsWith_eq_error_iff, fun failure => Project.load_eq_error_iff hthere, fun p hload => ?_⟩
  obtain ⟨hpath, hsources⟩ := Project.of_load_eq_ok hthere hsound hload
  exact ⟨hpath, hsources, fun s _ => Text.getLast?_cut s.path⟩

/-- Sources on two levels with both kinds of line ends, beside a hidden one and bytes in a folder to skip. -/
theorem nested_sources_are_collected :
    let source : File := { bytes := [0x78, 0x0D, 0x0A, 0x79, 0x0D] }
    let build : Folder := .node { name := "build", files := [("c.py", { bytes := [0xFF] })] } []
    let f : Folder := .node { name := "p", files := [(".py", source), ("a.py", source)] }
      [build, .node { name := "lib", files := [("b.py", source), ("b.txt", source)] } [build]]
    let disk : Disk := { top := .node { name := "" } [f] }
    let skip : Words := .list ["build"]
    let texts := [("p/a.py", "x\ny\n"), ("p/lib/b.py", "x\ny\n")]
    disk.folderAt? "p" = some f ∧ f.isSound = true ∧ disk.textsWith sourceExtensions skip "p" = .ok texts ∧
      List.Forall₂ (Leaf.ReadsAs "p") (disk.selected sourceExtensions skip "p") texts ∧
      ∃ p, Project.load disk "p" skip = .ok p ∧
        List.Forall₂ (Leaf.LoadsAs "p") (disk.selected sourceExtensions skip "p") p.sources := by
  intro source build f disk skip texts
  have hthere : disk.folderAt? "p" = some f := by
    rw [Disk.folderAt?_of_isName rfl (by decide)]
    rfl
  have hsound : f.isSound = true := by decide +kernel
  have htexts : disk.textsWith sourceExtensions skip "p" = .ok texts := by decide +kernel
  have hok : (Project.load disk "p" skip).isOk = true := by decide +kernel
  obtain ⟨_, hread, _, _, hsources⟩ := collection_is_exact hthere hsound sourceExtensions skip
  refine ⟨hthere, hsound, htexts, (hread texts).mp htexts, ?_⟩
  cases hload : Project.load disk "p" skip with
  | error failure => rw [hload] at hok; cases hok
  | ok p => exact ⟨p, rfl, (hsources p hload).2.1⟩

end Scrutiny
