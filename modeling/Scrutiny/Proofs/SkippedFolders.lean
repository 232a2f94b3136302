import Scrutiny.Proofs.SyntaxGuard
import Scrutiny.Proofs.Walks

/-! Skipped folders make no difference.

Two disks hold projects under one path that differ only in folders to skip. Most of what a review reads goes through
walks that skip those folders. Three things do not: the paths of the sources are opened anew, the readme is looked for
by name in every folder, and the history is asked for. The first lead back to the files that were walked over; the
second is reached only when the readme is directly in the project, where every walk begins; of the third there is none.
`SameSight` collects what two disks must agree on for a loaded project, and `SameSight.run_eq` says that this is enough
for the usual groups. What the checks that are supplied read is their own affair: they have to agree by themselves, and
one that looks in every folder need not (`supplied_check_sees_skipped_folder`). -/
namespace Scrutiny

/-! ### What the checks read of a disk -/

/-- A check that says the same whatever is on the disk. -/
def Check.IgnoresDisk (check : Check) : Prop :=
  ∀ (c : Context) (disk : Disk), check.run { c with disk } = check.run c

theorem Check.ignoresDisk_onProject {name : String} {judge : Context → Project → Outcome (Option String)}
    (h : ∀ (c : Context) (disk : Disk) (p : Project), judge { c with disk } p = judge c p) :
    (onProject name judge).IgnoresDisk := by
  intro c disk
  unfold onProject
  rw [run_onContext, run_onContext]
  simp only [h c disk]

namespace Registry
open Check (onProject ignoresDisk_onProject)

/-- The checks of the last group that read the disk. -/
def diskReaders : List Check :=
  [onProject "data_in_repo" Layout.trackedData,
   onProject "too_many_pep8_violations" Idioms.styleFaults,
   onProject "readme_not_changed" Readme.unchanged,
   onProject "too_difficult_by_mccabe" Layout.tangled,
   onProject "tabs_used_for_indentation" Layout.tabs,
   onProject "bilingual_readme" Readme.bilingual]

/-- Contexts in which the checks that are supplied say the same. -/
def SuppliedAgree (c c' : Context) : Prop :=
  ∀ check ∈ supplied, check.run c' = check.run c

/-- Those that are put in where none are supplied say nothing. -/
theorem suppliedAgree_of_none {c c' : Context} (h : c.runtime.requirements = {}) (h' : c'.runtime.requirements = {}) :
    SuppliedAgree c c' := by
  simp only [SuppliedAgree, supplied, requirementsNotFrozen, requirementsFromStandard, List.forall_mem_cons,
    Check.run_onContext, h, h']
  simp

/-- All others look at the sources as they were loaded. -/
theorem general_ignores_disk : ∀ check ∈ general, check ∈ diskReaders ++ supplied ∨ check.IgnoresDisk := by
  simp only [general, List.forall_mem_cons]
  have reader {check : Check} (h : check ∈ diskReaders) : check ∈ diskReaders ++ supplied ∨ check.IgnoresDisk :=
    .inl (List.mem_append_left _ h)
  have given {check : Check} (h : check ∈ supplied) : check ∈ diskReaders ++ supplied ∨ check.IgnoresDisk :=
    .inl (List.mem_append_right _ h)
  have blind {name : String} {judge : Context → Project → Outcome (Option String)}
      (h : ∀ (c : Context) (disk : Disk) (p : Project), judge { c with disk } p = judge c p) :
      onProject name judge ∈ diskReaders ++ supplied ∨ (onProject name judge).IgnoresDisk :=
    .inr (ignoresDisk_onProject h)
  exact ⟨reader (by simp [diskReaders]), reader (by simp [diskReaders]), reader (by simp [diskReaders]),
    blind fun _ _ _ => rfl, reader (by simp [diskReaders]), blind fun _ _ _ => rfl, blind fun _ _ _ => rfl,
    blind fun _ _ _ => rfl, blind fun _ _ _ => rfl, blind fun _ _ _ => rfl, blind fun _ _ _ => rfl,
    blind fun _ _ _ => rfl, reader (by simp [diskReaders]), blind fun _ _ _ => rfl, given (by simp [supplied]),
    blind fun _ _ _ => rfl, blind fun _ _ _ => rfl, reader (by simp [diskReaders]), blind fun _ _ _ => rfl,
    blind fun _ _ _ => rfl, blind fun _ _ _ => rfl, blind fun _ _ _ => rfl, given (by simp [supplied]),
    blind fun _ _ _ => rfl, blind fun _ _ _ => rfl, blind fun _ _ _ => rfl, blind fun _ _ _ => rfl,
    blind fun _ _ _ => rfl, blind fun _ _ _ => rfl, blind fun _ _ _ => rfl, blind fun _ _ _ => rfl,
    blind fun _ _ _ => rfl, blind fun _ _ _ => rfl, by simp⟩

end Registry

/-! ### Two disks that look alike to a loaded project -/

/-- What another disk has to share with that of a context: that the project has no history, the files of its sources,
the texts outside of the folders to skip, whether there is a readme, and if so its text and that of the readme before.
The checks that are supplied have to say the same of both. -/
structure SameSight (c : Context) (p : Project) (disk : Disk) : Prop where
  unversioned : p.repository? c.disk = none
  unversioned' : p.repository? disk = none
  sources : ∀ s ∈ p.sources, disk.openFile s.path = c.disk.openFile s.path
  texts : ∀ extensions, disk.textsWith extensions c.settings.directoriesToSkip p.path =
    c.disk.textsWith extensions c.settings.directoriesToSkip p.path
  hasReadme : p.hasFile disk c.settings.readmeFilename = p.hasFile c.disk c.settings.readmeFilename
  readme : p.hasFile c.disk c.settings.readmeFilename = true →
    disk.readText (Path.join p.path c.settings.readmeFilename) =
      c.disk.readText (Path.join p.path c.settings.readmeFilename)
  namedReadme : p.hasFile c.disk c.settings.readmeFilename = true →
    p.fileNamed disk c.settings.readmeFilename = p.fileNamed c.disk c.settings.readmeFilename
  baseReadme : p.hasFile c.disk c.settings.readmeFilename = true → ∀ base, c.base = some base →
    disk.readText (Path.join base.path c.settings.readmeFilename) =
      c.disk.readText (Path.join base.path c.settings.readmeFilename)
  supplied : Registry.SuppliedAgree c { c with disk }

namespace SameSight
variable {c : Context} {p : Project} {disk : Disk}

theorem noMoreThanBefore_eq (h : SameSight c p disk) :
    Commits.noMoreThanBefore { c with disk } p = Commits.noMoreThanBefore c p := by
  unfold Commits.noMoreThanBefore
  rw [h.unversioned]
  simp only [h.unversioned']

theorem emptyMessage_eq (h : SameSight c p disk) :
    Commits.emptyMessage { c with disk } p = Commits.emptyMessage c p := by
  unfold Commits.emptyMessage
  rw [h.unversioned]
  simp only [h.unversioned']

theorem absent_eq (h : SameSight c p disk) : Readme.absent { c with disk } p = Readme.absent c p := by
  unfold Readme.absent
  simp only [h.hasReadme]

theorem trackedData_eq (h : SameSight c p disk) :
    Layout.trackedData { c with disk } p = Layout.trackedData c p := by
  unfold Layout.trackedData
  rw [h.unversioned]
  simp only [h.unversioned']

theorem styleFaults_eq (h : SameSight c p disk) :
    Idioms.styleFaults { c with disk } p = Idioms.styleFaults c p := by
  have hfaults (ignored : Words) : p.styleFaults disk ignored = p.styleFaults c.disk ignored := by
    unfold Project.styleFaults
    congr 1
    refine List.map_congr_left fun s hs => ?_
    rw [h.sources s (List.mem_filter.mp hs).1]
  unfold Idioms.styleFaults
  simp only [hfaults]

theorem tangled_eq (h : SameSight c p disk) : Layout.tangled { c with disk } p = Layout.tangled c p := by
  unfold Layout.tangled
  congr 1
  refine Outcome.mapM_congr fun s hs => ?_
  simp only [h.sources s hs]

theorem tabs_eq (h : SameSight c p disk) : Layout.tabs { c with disk } p = Layout.tabs c p := by
  unfold Layout.tabs
  simp only [h.texts]

theorem unchanged_eq (h : SameSight c p disk) (hreadme : p.hasFile c.disk c.settings.readmeFilename = true) :
    Readme.unchanged { c with disk } p = Readme.unchanged c p := by
  unfold Readme.unchanged
  cases hb : c.base with
  | none => rfl
  | some base => simp only [h.baseReadme hreadme base hb, h.readme hreadme]

theorem bilingual_eq (h : SameSight c p disk) (hreadme : p.hasFile c.disk c.settings.readmeFilename = true) :
    Readme.bilingual { c with disk } p = Readme.bilingual c p := by
  unfold Readme.bilingual
  simp only [h.namedReadme hreadme]

open Registry in
theorem run_early (h : SameSight c p disk) (hp : c.project = some p) :
    ∀ check ∈ [commitsCheck, readmeCheck, messageCheck], check.run { c with disk } = check.run c := by
  have hp' : ({ c with disk } : Context).project = some p := hp
  simp only [List.forall_mem_cons, commitsCheck, readmeCheck, messageCheck, Check.run_onProject hp',
    Check.run_onProject hp, h.noMoreThanBefore_eq, h.absent_eq, h.emptyMessage_eq]
  simp

theorem run_general (h : SameSight c p disk) (hp : c.project = some p)
    (hreadme : p.hasFile c.disk c.settings.readmeFilename = true) :
    ∀ check ∈ Registry.general, check.run { c with disk } = check.run c := by
  have hp' : ({ c with disk } : Context).project = some p := hp
  have hreaders : ∀ check ∈ Registry.diskReaders, check.run { c with disk } = check.run c := by
    simp only [Registry.diskReaders, List.forall_mem_cons, Check.run_onProject hp', Check.run_onProject hp,
      h.trackedData_eq, h.styleFaults_eq, h.unchanged_eq hreadme, h.tangled_eq, h.tabs_eq, h.bilingual_eq hreadme]
    simp
  intro check hcheck
  rcases Registry.general_ignores_disk check hcheck with hreads | hblind
  · rcases List.mem_append.mp hreads with hreader | hgiven
    · exact hreaders check hreader
    · exact h.supplied check hgiven
  · exact hblind c disk

open Registry in
/-- What the disks share is enough for the usual groups. -/
theorem run_eq (h : SameSight c p disk) (hp : c.project = some p) :
    Registry.errors.run { c with disk } Registry.warnings = Registry.errors.run c Registry.warnings := by
  refine Groups.run_congr fun check hcheck => ?_
  cases hreadme : p.hasFile c.disk c.settings.readmeFilename with
  | false =>
    -- Without a readme the run ends before the checks that look for one.
    obtain ⟨message, hmessage⟩ : ∃ message, Readme.absent c p = .ok (some message) := by
      unfold Readme.absent
      simp [hreadme]
    have hfinds : (Group.mk "readme" [readmeCheck]).finds c = true := by
      rw [Group.finds_singleton, readmeCheck, (Check.finding?_onProject hp).mpr ⟨message, hmessage, rfl⟩]
      rfl
    have hmem := Groups.mem_executed_of_finds ⟨_, List.mem_cons_of_mem _ List.mem_cons_self, hfinds⟩
      (show check ∈ Groups.executed c ([⟨"commits", [commitsCheck]⟩, ⟨"readme", [readmeCheck]⟩] ++
        [⟨"syntax", [parseCheck]⟩, ⟨"general", general⟩]) Registry.warnings from hcheck)
    refine h.run_early hp check ?_
    rcases hmem with hmem | hmem
    · simp only [List.flatMap_cons, List.flatMap_nil, List.cons_append, List.nil_append, List.append_nil,
        List.mem_cons, List.not_mem_nil, or_false] at hmem
      rcases hmem with rfl | rfl <;> simp
    · have hnote : check ∈ [messageCheck] := hmem
      simp [List.mem_singleton.mp hnote]
  | true =>
    rcases Groups.mem_executed hcheck with hmem | hmem
    · rw [errors_eq] at hmem
      simp only [List.flatMap_cons, List.flatMap_nil, List.cons_append, List.nil_append, List.append_nil,
        List.mem_cons] at hmem
      rcases hmem with rfl | rfl | rfl | hgeneral
      · exact h.run_early hp _ (by simp)
      · exact h.run_early hp _ (by simp)
      · exact Check.ignoresDisk_onProject (fun _ _ _ => rfl) c disk
      · exact h.run_general hp hreadme check hgeneral
    · have hnote : check ∈ [messageCheck, Check.onProject "indent_not_multiple_of_tab_size" Layout.misaligned,
          Check.onProject "variables_that_shadow_default_names" Naming.shadowing] := hmem
      simp only [List.mem_cons, List.not_mem_nil, or_false] at hnote
      rcases hnote with rfl | rfl | rfl
      · exact h.run_early hp _ (by simp)
      · exact Check.ignoresDisk_onProject (fun _ _ _ => rfl) c disk
      · exact Check.ignoresDisk_onProject (fun _ _ _ => rfl) c disk

end SameSight

/-! ### Two disks that differ in skipped folders -/

/-- A project as it lies on a disk: in a sound folder, and without a history. -/
structure Placed (disk : Disk) (path : String) (f : Folder) : Prop where
  there : disk.folderAt? path = some f
  sound : f.isSound = true
  unversioned : f.label.repository = none

/-- The parameters that a request asks for. -/
abbrev Request.settings (r : Request) : Settings := .ofChanges r.changes

/-- Two disks that hold projects for one request: without the folders to skip they are the same, and so are the projects
that they started from. -/
structure DifferInSkipped (r : Request) (disk disk' : Disk) (f f' : Folder) : Prop where
  placed : Placed disk r.path f
  placed' : Placed disk' r.path f'
  same : f'.without r.settings.directoriesToSkip =
    f.without r.settings.directoriesToSkip
  base : ∀ path, r.basePath = some path → disk'.folderAt? path = disk.folderAt? path

theorem Disk.isFile_iff {disk : Disk} {path : String} :
    disk.isFile path = true ↔ ∃ file, disk.entry path = .ok (.file file) := by
  unfold isFile
  split
  · rename_i file hentry
    simp [hentry]
  · rename_i hother
    simpa using hother

theorem Disk.openFile_congr {disk disk' : Disk} {path : String} (h : disk'.entry path = disk.entry path) :
    disk'.openFile path = disk.openFile path := by
  unfold openFile
  rw [h]

theorem Disk.readText_congr {disk disk' : Disk} {path : String} (h : disk'.entry path = disk.entry path) :
    disk'.readText path = disk.readText path := by
  unfold readText
  rw [openFile_congr h]

theorem Disk.visitsOutside_congr {disk disk' : Disk} {path : String}
    (h : disk'.folderAt? path = disk.folderAt? path) (skip : Words) :
    disk'.visitsOutside skip path = disk.visitsOutside skip path := by
  unfold visitsOutside
  rw [h]

theorem Placed.repositoryAt?_eq {disk : Disk} {path : String} {f : Folder} (h : Placed disk path f) :
    disk.repositoryAt? path = none := by
  unfold Disk.repositoryAt?
  rw [h.there]
  exact h.unversioned

/-- The readme of a project is the file of that name directly in it. -/
theorem Placed.entry_eq {disk disk' : Disk} {path name : String} {f f' : Folder} (h : Placed disk path f)
    (h' : Placed disk' path f') (hfiles : f'.label.files = f.label.files) (hslash : '/' ∉ name.toList)
    {file : File} (hentry : disk.entry (Path.join path name) = .ok (.file file)) :
    disk'.entry (Path.join path name) = disk.entry (Path.join path name) := by
  obtain ⟨hname, hlook⟩ := Disk.look_of_entry h.there hslash hentry
  have hfile : f'.file? name = some file := by
    unfold Folder.file?
    rw [hfiles]
    exact (Folder.look_eq_file h.sound).mp hlook
  have hlook' : f'.look name = .ok (.file file) := (Folder.look_eq_file h'.sound).mpr hfile
  obtain ⟨hreach, hne⟩ := Disk.reach_of_folderAt? h.there
  obtain ⟨hreach', _⟩ := Disk.reach_of_folderAt? h'.there
  refine Disk.entry_congr ?_
  rw [Disk.reach_join hne hname hreach, Disk.reach_join hne hname hreach', hlook, hlook']

theorem Placed.isFile_eq {disk disk' : Disk} {path name : String} {f f' : Folder} (h : Placed disk path f)
    (h' : Placed disk' path f') (hfiles : f'.label.files = f.label.files) (hslash : '/' ∉ name.toList) :
    disk'.isFile (Path.join path name) = disk.isFile (Path.join path name) := by
  rw [Bool.eq_iff_iff, Disk.isFile_iff, Disk.isFile_iff]
  constructor
  · rintro ⟨file, hentry⟩
    exact ⟨file, by rw [h'.entry_eq h hfiles.symm hslash hentry, hentry]⟩
  · rintro ⟨file, hentry⟩
    exact ⟨file, by rw [h.entry_eq h' hfiles hslash hentry, hentry]⟩

/-- A readme directly in the project is the first of that name. -/
theorem Project.fileNamed_eq {disk : Disk} {p : Project} {f : Folder} (h : disk.folderAt? p.path = some f)
    {name : String} {file : File} (hfile : f.file? name = some file) :
    p.fileNamed disk name = file.text.map some := by
  have hfirst : ((disk.visitsFrom p.path).findSome? fun v => v.files.lookup name) = some file := by
    unfold Disk.visitsFrom
    rw [h]
    obtain ⟨listing, children⟩ := f
    simp only
    rw [visits_node, List.findSome?_cons]
    have hlookup : listing.files.lookup name = some file := hfile
    rw [hlookup]
  unfold Project.fileNamed
  rw [hfirst]
  show (do return some (← file.text)) = _
  cases file.text <;> rfl

namespace DifferInSkipped
variable {r : Request} {disk disk' : Disk} {f f' : Folder}

theorem files_eq (h : DifferInSkipped r disk disk' f f') : f'.label.files = f.label.files := by
  have hlabels := congrArg (fun g : Folder => g.label.files) h.same
  simpa only [Folder.files_without] using hlabels

theorem filesOf_eq (h : DifferInSkipped r disk disk' f f') :
    Disk.filesOf (disk'.visitsOutside r.settings.directoriesToSkip r.path) =
      Disk.filesOf (disk.visitsOutside r.settings.directoriesToSkip r.path) := by
  unfold Disk.visitsOutside
  rw [h.placed.there, h.placed'.there]
  simp only
  rw [← filesOf_visits_without, h.same, filesOf_visits_without]

theorem openFile_eq (h : DifferInSkipped r disk disk' f f') {entry : String × String × File}
    (hentry : entry ∈ Disk.filesOf (disk.visitsOutside r.settings.directoriesToSkip r.path)) :
    disk'.openFile (Path.join entry.1 entry.2.1) = disk.openFile (Path.join entry.1 entry.2.1) := by
  have hentry' := hentry
  rw [← h.filesOf_eq] at hentry'
  unfold Disk.visitsOutside at hentry hentry'
  rw [h.placed.there] at hentry
  rw [h.placed'.there] at hentry'
  obtain ⟨hreach, hne⟩ := Disk.reach_of_folderAt? h.placed.there
  obtain ⟨hreach', _⟩ := Disk.reach_of_folderAt? h.placed'.there
  refine Disk.openFile_congr (Disk.entry_congr ?_)
  rw [reach_file hne h.placed.sound hreach hentry, reach_file hne h.placed'.sound hreach' hentry']

/-- Loading gives the same project. -/
theorem load_eq (h : DifferInSkipped r disk disk' f f') :
    Project.load disk' r.path r.settings.directoriesToSkip =
      Project.load disk r.path r.settings.directoriesToSkip := by
  unfold Project.load Disk.filesWith
  rw [h.placed.there, h.placed'.there, h.filesOf_eq]

theorem load_base_eq (h : DifferInSkipped r disk disk' f f') {path : String} (hpath : r.basePath = some path) :
    Project.load disk' path r.settings.directoriesToSkip =
      Project.load disk path r.settings.directoriesToSkip := by
  unfold Project.load Disk.filesWith
  rw [Disk.visitsOutside_congr (h.base path hpath), h.base path hpath]

end DifferInSkipped

/-- What a loaded project is made of. -/
theorem Project.of_load {disk : Disk} {path : String} {skip : Words} {p : Project}
    (h : Project.load disk path skip = .ok p) :
    p.path = path ∧ (∃ f, disk.folderAt? path = some f) ∧ ∀ s ∈ p.sources,
      ∃ entry ∈ Disk.filesOf (disk.visitsOutside skip path), s.path = Path.join entry.1 entry.2.1 := by
  unfold Project.load at h
  split at h
  · cases h
  · rename_i f hf
    obtain ⟨sources, hsources, hdone⟩ := Outcome.bind_eq_ok.mp h
    split at hdone
    · cases hdone
    · cases hdone
      refine ⟨rfl, ⟨f, hf⟩, fun s hs => ?_⟩
      obtain ⟨named, hnamed, hread⟩ := Outcome.mem_of_mapM hsources hs
      obtain ⟨entry, hentry, rfl⟩ := List.mem_map.mp hnamed
      obtain ⟨text, _, hsource⟩ := Outcome.bind_eq_ok.mp hread
      cases hsource
      exact ⟨entry, (List.mem_filter.mp hentry).1, rfl⟩

/-- A loaded context is that of the request with the projects in it. -/
theorem Request.of_load {r : Request} {disk : Disk} {c : Context} (h : (r.context disk).load = .ok c) :
    ∃ p base, Project.load disk r.path r.settings.directoriesToSkip = .ok p ∧
      c = { r.context disk with project := some p, base } ∧
      ∀ b, base = some b → ∃ path, r.basePath = some path ∧
        Project.load disk path r.settings.directoriesToSkip = .ok b := by
  obtain ⟨p, hp, hbase⟩ := Outcome.bind_eq_ok.mp h
  split at hbase
  · cases hbase
    exact ⟨p, none, hp, rfl, fun b hb => by cases hb⟩
  · rename_i path hpath
    obtain ⟨b, hb, hdone⟩ := Outcome.bind_eq_ok.mp hbase
    cases hdone
    refine ⟨p, some b, hp, rfl, fun b' hb' => ⟨path, (Option.filter_eq_some_iff.mp hpath).1, ?_⟩⟩
    cases hb'
    exact hb

namespace DifferInSkipped
variable {r : Request} {disk disk' : Disk} {f f' : Folder}

theorem context_load_eq (h : DifferInSkipped r disk disk' f f') :
    (r.context disk').load = (r.context disk).load.map fun c => { c with disk := disk' } := by
  unfold Context.load
  simp only [Request.context, h.load_eq]
  cases Project.load disk r.path r.settings.directoriesToSkip with
  | error failure => rfl
  | ok p =>
    cases hb : r.basePath.filter (· ≠ "") with
    | none => rfl
    | some path =>
      simp only [h.load_base_eq (Option.filter_eq_some_iff.mp hb).1]
      cases Project.load disk path r.settings.directoriesToSkip <;> rfl

/-- A readme that is directly in the project is the one looked for by name, on both disks. -/
theorem fileNamed_eq (h : DifferInSkipped r disk disk' f f') {p : Project} (hpath : p.path = r.path)
    {name : String} {file : File} (hlook : f.look name = .ok (.file file)) :
    p.fileNamed disk' name = p.fileNamed disk name := by
  have hfile : f.file? name = some file := (Folder.look_eq_file h.placed.sound).mp hlook
  have hfile' : f'.file? name = some file := by
    unfold Folder.file?
    rw [h.files_eq]
    exact hfile
  have hthere : disk.folderAt? p.path = some f := by rw [hpath, h.placed.there]
  have hthere' : disk'.folderAt? p.path = some f' := by rw [hpath, h.placed'.there]
  exact (Project.fileNamed_eq hthere' hfile').trans (Project.fileNamed_eq hthere hfile).symm

/-- The project to start from holds the same under a proper name. -/
theorem base_entry_eq (h : DifferInSkipped r disk disk' f f') {path name : String} (hpath : r.basePath = some path)
    {g : Folder} (hg : disk.folderAt? path = some g) (hname : Path.isName name = true) :
    disk'.entry (Path.join path name) = disk.entry (Path.join path name) := by
  have hg' : disk'.folderAt? path = some g := by rw [h.base path hpath, hg]
  obtain ⟨hreach, hne⟩ := Disk.reach_of_folderAt? hg
  obtain ⟨hreach', _⟩ := Disk.reach_of_folderAt? hg'
  refine Disk.entry_congr ?_
  rw [Disk.reach_join hne hname hreach', Disk.reach_join hne hname hreach]

/-- The two disks look alike to the loaded project. -/
theorem sameSight (h : DifferInSkipped r disk disk' f f') (hslash : '/' ∉ r.settings.readmeFilename.toList)
    {p : Project} {base : Option Project}
    (hp : Project.load disk r.path r.settings.directoriesToSkip = .ok p)
    (hbase : ∀ b, base = some b → ∃ path, r.basePath = some path ∧
      Project.load disk path r.settings.directoriesToSkip = .ok b)
    (hsupplied : Registry.SuppliedAgree { r.context disk with project := some p, base }
      { r.context disk' with project := some p, base }) :
    SameSight { r.context disk with project := some p, base } p disk' := by
  obtain ⟨hpath, _, hsources⟩ := Project.of_load hp
  have hreadme (hfile : p.hasFile disk r.settings.readmeFilename = true) :
      ∃ file, disk.entry (Path.join r.path r.settings.readmeFilename) = .ok (.file file) := by
    unfold Project.hasFile at hfile
    rw [hpath] at hfile
    exact Disk.isFile_iff.mp hfile
  exact {
    unversioned := by
      show disk.repositoryAt? p.path = none
      rw [hpath, h.placed.repositoryAt?_eq]
    unversioned' := by
      show disk'.repositoryAt? p.path = none
      rw [hpath, h.placed'.repositoryAt?_eq]
    sources := by
      intro s hs
      obtain ⟨entry, hentry, hsource⟩ := hsources s hs
      rw [hsource]
      exact h.openFile_eq hentry
    texts := by
      intro extensions
      show disk'.textsWith extensions _ p.path = disk.textsWith extensions _ p.path
      unfold Disk.textsWith Disk.filesWith
      rw [hpath]
      simp only [Request.context, h.filesOf_eq]
    hasReadme := by
      show disk'.isFile (Path.join p.path _) = disk.isFile (Path.join p.path _)
      rw [hpath]
      exact h.placed.isFile_eq h.placed' h.files_eq hslash
    readme := by
      intro hfile
      obtain ⟨file, hentry⟩ := hreadme hfile
      rw [hpath]
      exact Disk.readText_congr (h.placed.entry_eq h.placed' h.files_eq hslash hentry)
    namedReadme := by
      intro hfile
      obtain ⟨file, hentry⟩ := hreadme hfile
      exact h.fileNamed_eq hpath (Disk.look_of_entry h.placed.there hslash hentry).2
    baseReadme := by
      -- The readme of this project has a proper name, so it is a name to look for in the other one.
      intro hfile b hb
      obtain ⟨file, hentry⟩ := hreadme hfile
      obtain ⟨hname, _⟩ := Disk.look_of_entry h.placed.there hslash hentry
      obtain ⟨path, hbasePath, hload⟩ := hbase b hb
      obtain ⟨hbpath, ⟨g, hg⟩, _⟩ := Project.of_load hload
      rw [hbpath]
      exact Disk.readText_congr (h.base_entry_eq hbasePath hg hname)
    supplied := hsupplied }

/-- From the loading on, the two runs are the same. -/
theorem errors_outcome_eq (h : DifferInSkipped r disk disk' f f')
    (hslash : '/' ∉ r.settings.readmeFilename.toList)
    (hsupplied : ∀ c, (r.context disk).load = .ok c → Registry.SuppliedAgree c { c with disk := disk' }) :
    ((r.context disk').load >>= fun c => Registry.errors.outcome c Registry.warnings) =
      (r.context disk).load >>= fun c => Registry.errors.outcome c Registry.warnings := by
  rw [h.context_load_eq]
  cases hload : (r.context disk).load with
  | error failure => rfl
  | ok c =>
    obtain ⟨p, base, hp, rfl, hbase⟩ := Request.of_load hload
    show Groups.outcome _ _ _ = Groups.outcome _ _ _
    unfold Groups.outcome
    rw [(h.sameSight hslash hp hbase (hsupplied _ hload)).run_eq rfl]

theorem preflight_files_eq (h : DifferInSkipped r disk disk' f f') :
    Preflight.files (r.context disk') = Preflight.files (r.context disk) := by
  unfold Preflight.files
  simp only [Request.context, h.filesOf_eq]

theorem tooLarge_eq (h : DifferInSkipped r disk disk' f f') :
    Preflight.tooLarge (r.context disk') = Preflight.tooLarge (r.context disk) := by
  refine Outcome.firstFinding_congr fun path hpath => ?_
  have hfiles : Disk.filesOf (disk'.visitsOutside r.settings.directoriesToSkip path) =
      Disk.filesOf (disk.visitsOutside r.settings.directoriesToSkip path) := by
    rcases List.mem_cons.mp hpath with rfl | hbase
    · exact h.filesOf_eq
    · have hsome := (Option.filter_eq_some_iff.mp (Option.mem_toList.mp hbase)).1
      rw [Disk.visitsOutside_congr (h.base path hsome)]
  unfold Preflight.isTooLarge Disk.isLargerThan Disk.countSources
  simp only [Request.context, hfiles]
  rfl

/-- The preflight looks at the disks through walks that skip. -/
theorem preflight_outcome_eq (h : DifferInSkipped r disk disk' f f') :
    Registry.preflight.outcome (r.context disk') [] = Registry.preflight.outcome (r.context disk) [] := by
  have hall : ∀ check ∈ Registry.preflight.flatMap (·.checks),
      check.run (r.context disk') = check.run (r.context disk) := by
    simp only [Registry.preflight, List.flatMap_cons, List.flatMap_nil, List.cons_append, List.nil_append,
      List.forall_mem_cons, Check.run_onContext, h.tooLarge_eq]
    refine ⟨trivial, ?_, ?_, ?_, by simp⟩
    · unfold Preflight.notUtf8
      rw [h.preflight_files_eq]
    · unfold Preflight.marked
      rw [h.preflight_files_eq]
    · unfold Preflight.tooLong
      rw [h.preflight_files_eq]
      rfl
  unfold Groups.outcome
  rw [Groups.run_congr fun check hcheck => ?_]
  rcases Groups.mem_executed hcheck with hmem | hmem
  · exact hall check hmem
  · rw [Groups.notes_nil] at hmem
    cases hmem

end DifferInSkipped

/-- **Skipped folders make no difference.** Two projects under one path, neither with a history, that are the same
without the folders to skip have the same review by the usual groups, be it findings or a failure: for every readme that
is named without a slash, all other parameters, marks and languages, the same project to start from, and whatever runs
the review, as long as the two checks of requirements that it supplies say the same of the two disks. -/
theorem review_ignores_skipped_folders {r : Request} {disk disk' : Disk} {f f' : Folder}
    (h : DifferInSkipped r disk disk' f f') (hplan : r.plan = .ofChoice none none none)
    (hslash : '/' ∉ r.settings.readmeFilename.toList)
    (hsupplied : ∀ c, (r.context disk).load = .ok c → Registry.SuppliedAgree c { c with disk := disk' }) :
    review disk' r = review disk r := by
  cases hm : r.marking.isConflicting with
  | true =>
    unfold review
    rw [hm]
    rfl
  | false =>
    rw [review_eq hm, review_eq hm, hplan]
    show (Registry.preflight.outcome (r.context disk') [] >>= fun found => if found.isEmpty then
      (r.context disk').load >>= fun c => Registry.errors.outcome c Registry.warnings else pure found) = _
    rw [h.preflight_outcome_eq, h.errors_outcome_eq hslash hsupplied]
    rfl

/-- A source that is no text, a second readme and a second list of requirements make no difference where they are
skipped, be it far down. The requirements that are reported are those directly in the project. -/
theorem undecodable_source_in_skipped_folder :
    let readme : String × File := ("README.md", { bytes := [0x61] })
    let pins : String × File := ("requirements.txt", { bytes := [0x62] })
    let source : String × File := ("a.py", { bytes := [0x78], tree := some (.node ⟨.module, .body, none, []⟩ []) })
    let build : Folder := .node { name := "build", files := [readme, ("b.py", { bytes := [0xFF] }), pins] } []
    let start : Folder := .node { name := "o", files := [("README.md", { bytes := [] }), source] } [build]
    let disk : Disk := { top := .node { name := "" } [start, .node { name := "p", files := [readme, source, pins] }
      [.node { name := "lib", files := [source] } []]] }
    let disk' : Disk := { top := .node { name := "" } [start, .node { name := "p", files := [readme, source, pins] }
      [build, .node { name := "lib", files := [source] } [build]]] }
    let requirements : Requirements :=
      { notFrozen := fun s => (s.disk.readText (Path.join s.path "requirements.txt")).map some }
    let r : Request := { path := "p", basePath := some "o", runtime := { requirements } }
    (∃ f f', DifferInSkipped r disk disk' f f') ∧
      (∀ c, (r.context disk).load = .ok c → Registry.SuppliedAgree c { c with disk := disk' }) ∧
      review disk r = .ok [⟨"requirements_not_frozen", "b"⟩] ∧ review disk' r = review disk r := by
  intro readme pins source build start disk disk' requirements r
  have h : DifferInSkipped r disk disk'
      (.node { name := "p", files := [readme, source, pins] } [.node { name := "lib", files := [source] } []])
      (.node { name := "p", files := [readme, source, pins] }
        [build, .node { name := "lib", files := [source] } [build]]) := by
    have hname : Path.isName r.path = true := by decide
    refine ⟨⟨Disk.folderAt?_of_isName rfl hname, by decide +kernel, rfl⟩,
      ⟨Disk.folderAt?_of_isName rfl hname, by decide +kernel, rfl⟩, rfl, ?_⟩
    rintro path ⟨⟩
    rfl
  have hpins : disk'.readText (Path.join "p" "requirements.txt") =
      disk.readText (Path.join "p" "requirements.txt") := by
    decide +kernel
  have hsupplied : ∀ c, (r.context disk).load = .ok c → Registry.SuppliedAgree c { c with disk := disk' } := by
    intro c hload
    obtain ⟨p, base, _, rfl, _⟩ := Request.of_load hload
    refine List.forall_mem_cons.mpr ⟨?_, List.forall_mem_singleton.mpr rfl⟩
    rw [Registry.requirementsNotFrozen, Check.run_onContext, Check.run_onContext]
    exact congrArg (fun text => (Except.map some text).map Verdict.ofFinding) hpins
  exact ⟨⟨_, _, h⟩, hsupplied, by decide +kernel, review_ignores_skipped_folders h rfl (by decide) hsupplied⟩

/-- A check that is supplied and looks for the requirements in every folder finds those in a skipped one. -/
theorem supplied_check_sees_skipped_folder :
    let readme : String × File := ("README.md", { bytes := [0x61] })
    let pins : String × File := ("requirements.txt", { bytes := [0x62] })
    let source : String × File := ("a.py", { bytes := [0x78], tree := some (.node ⟨.module, .body, none, []⟩ []) })
    let build : Folder := .node { name := "build", files := [pins] } []
    let disk : Disk := { top := .node { name := "" } [.node { name := "p", files := [readme, source] } []] }
    let disk' : Disk := { top := .node { name := "" } [.node { name := "p", files := [readme, source] } [build]] }
    let requirements : Requirements := { notFrozen := fun s =>
      match s.project with
      | some p => p.fileNamed s.disk "requirements.txt"
      | none => .ok none }
    let r : Request := { path := "p", runtime := { requirements } }
    (∃ f f', DifferInSkipped r disk disk' f f') ∧ review disk r = .ok [] ∧
      review disk' r = .ok [⟨"requirements_not_frozen", "b"⟩] := by
  intro readme pins source build disk disk' requirements r
  have h : DifferInSkipped r disk disk' (.node { name := "p", files := [readme, source] } [])
      (.node { name := "p", files := [readme, source] } [build]) := by
    have hname : Path.isName r.path = true := by decide
    refine ⟨⟨Disk.folderAt?_of_isName rfl hname, by decide +kernel, rfl⟩,
      ⟨Disk.folderAt?_of_isName rfl hname, by decide +kernel, rfl⟩, rfl, ?_⟩
    rintro path ⟨⟩
  exact ⟨⟨_, _, h⟩, by decide +kernel, by decide +kernel⟩

end Scrutiny
