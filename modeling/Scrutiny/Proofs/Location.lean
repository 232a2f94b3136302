import Scrutiny.Proofs.MovedProjects
import Scrutiny.Proofs.Offenders
import Scrutiny.Proofs.SizeGuard

/-! Where a project lies.

The lists of parts of paths that exempt sources are matched against whole paths, and a whole path begins with the place
of the project. A part with slashes only at its ends cannot reach over the slash between the place and what is below it,
so it is matched by the one or by the other (`Leaf.anyIn_path`). Two places that match the same lists then exempt the
same sources of one project, all else that is read of a disk is the same, and so is the review. -/
namespace Scrutiny

/-! ### Parts of paths -/

namespace Text

/-- Where a slash stands at an end or nowhere, nothing is before it or nothing is after it. -/
theorem eq_nil_of_slash {first last : List Char} (h : '/' ∉ (first ++ '/' :: last).tail.dropLast) :
    first = [] ∨ last = [] := by
  cases first with
  | nil => exact .inl rfl
  | cons c first =>
    rcases List.eq_nil_or_concat last with hnil | ⟨last, d, rfl⟩
    · exact .inr hnil
    · have hinner : (c :: first ++ '/' :: last.concat d).tail = (first ++ '/' :: last) ++ [d] := by simp
      rw [hinner, List.dropLast_concat] at h
      exact absurd (by simp) h

/-- A part with a slash nowhere but at its ends does not reach over a slash: it stands before it, or after it. -/
theorem contains_append_slash {part : List Char} (h : '/' ∉ part.tail.dropLast) (before after : List Char) :
    contains part (before ++ '/' :: after) = (contains part (before ++ ['/']) || contains part ('/' :: after)) := by
  rw [Bool.eq_iff_iff, Bool.or_eq_true, contains_iff, contains_iff, contains_iff]
  constructor
  · rintro ⟨left, right, hwhole⟩
    rw [List.append_assoc] at hwhole
    rcases List.append_eq_append_iff.mp hwhole with ⟨first, rfl, hpart⟩ | ⟨gap, rfl, hafter⟩
    · rcases List.append_eq_append_iff.mp hpart with ⟨gap, rfl, _⟩ | ⟨last, rfl, hslash⟩
      · exact .inl ⟨left, gap ++ ['/'], by simp⟩
      · cases last with
        | nil => exact .inl ⟨left, ['/'], by simp⟩
        | cons c last =>
          obtain ⟨rfl, rfl⟩ := List.cons.inj hslash
          rcases eq_nil_of_slash h with rfl | rfl
          · exact .inr ⟨[], right, by simp⟩
          · exact .inl ⟨left, [], by simp⟩
    · exact .inr ⟨gap, right, by simp [hafter]⟩
  · rintro (hbefore | hafter)
    · exact hbefore.trans ⟨[], after, by simp⟩
    · exact hafter.trans ⟨before, [], by simp⟩

end Text

/-- Words that have slashes only at their ends. -/
def Words.isEdged (words : Words) : Bool :=
  words.items.all fun part => !part.toList.tail.dropLast.contains '/'

theorem Leaf.anyIn_path {words : Words} (h : words.isEdged = true) {start : String} (hstart : start ≠ "") {l : Leaf}
    (hl : ∀ name ∈ l.steps, Path.isName name = true) :
    words.anyIn (l.path start) = (words.anyIn (Path.join start "") || words.anyIn ("/" ++ l.trail)) := by
  obtain ⟨before, hbefore⟩ : ∃ before, Path.join start "" = before ++ "/" := by
    have hnone : '/' ∉ "".toList := by simp
    rcases Path.join_eq_or start hnone with ⟨hempty, _⟩ | ⟨before, hjoin⟩
    · exact absurd hempty hstart
    · exact ⟨before, by simpa using hjoin⟩
  have hparts : ∀ part ∈ words.items, Text.hasText part (l.path start) =
      (Text.hasText part (Path.join start "") || Text.hasText part ("/" ++ l.trail)) := by
    intro part hpart
    have hslash : '/' ∉ part.toList.tail.dropLast := by simpa using List.all_eq_true.mp h part hpart
    rw [Leaf.path_eq hl, hbefore]
    simpa [Text.hasText] using Text.contains_append_slash hslash before.toList l.trail.toList
  rw [Words.anyIn, Words.anyIn, Words.anyIn, Bool.eq_iff_iff, Bool.or_eq_true]
  simp only [List.any_eq_true]
  constructor
  · rintro ⟨part, hpart, hmatch⟩
    rw [hparts part hpart, Bool.or_eq_true] at hmatch
    exact hmatch.imp (fun hm => ⟨part, hpart, hm⟩) fun hm => ⟨part, hpart, hm⟩
  · rintro (⟨part, hpart, hmatch⟩ | ⟨part, hpart, hmatch⟩)
    · exact ⟨part, hpart, by rw [hparts part hpart, hmatch, Bool.true_or]⟩
    · exact ⟨part, hpart, by rw [hparts part hpart, hmatch, Bool.or_true]⟩

/-! ### Opening files -/

namespace Path

/-- A path that can be followed, if it is not too long. -/
structure IsSound (path : String) : Prop where
  nonempty : path ≠ ""
  nul : '\x00' ∉ path.toList

theorem toList_join {name : String} (path : String) (h : '/' ∉ name.toList) :
    ∃ between, (between = [] ∨ between = ['/']) ∧ (join path name).toList = path.toList ++ between ++ name.toList := by
  have hname := Text.startsWith_slash_of_not_mem h
  simp only [join, hname, Bool.false_eq_true, if_false]
  split
  · exact ⟨[], .inl rfl, by simp⟩
  · exact ⟨['/'], .inr rfl, by simp⟩

theorem IsSound.join {path name : String} (h : IsSound path) (hname : isName name = true) :
    IsSound (join path name) := by
  obtain ⟨_, _, _, hslash, hnul, _⟩ := isName_iff.mp hname
  obtain ⟨between, hbetween, hlist⟩ := toList_join path hslash
  refine ⟨join_ne_empty path hname, ?_⟩
  rw [hlist]
  rcases hbetween with rfl | rfl
  · simp [h.nul, hnul]
  · simp [h.nul, hnul]

end Path

theorem Leaf.isSound_path {start : String} (h : Path.IsSound start) {l : Leaf}
    (hl : ∀ name ∈ l.steps, Path.isName name = true) : Path.IsSound (l.path start) := by
  obtain ⟨way, name, file⟩ := l
  induction way generalizing start with
  | nil => exact h.join (hl name (by simp [steps]))
  | cons folder rest ih =>
    obtain ⟨hfolder, hrest⟩ := List.forall_mem_cons.mp hl
    exact ih (h.join hfolder) hrest

namespace Disk

theorem entry_eq_reach {disk : Disk} {path : String} (h : Path.IsSound path)
    (hfits : path.utf8ByteSize ≤ longestPath) : disk.entry path = disk.reach path := by
  have hshort : ¬ longestPath < path.utf8ByteSize := by omega
  simp only [entry, List.contains_eq_mem, h.nul, h.nonempty, hshort, decide_false, Bool.false_eq_true, if_false]
  rfl

theorem isSound_of_entry {disk : Disk} {path : String} {found : Entry} (h : disk.entry path = .ok found) :
    Path.IsSound path := by
  obtain ⟨_, hne, hnul⟩ := reach_of_entry h
  exact ⟨hne, hnul⟩

theorem folderAt?_join {disk : Disk} {path name : String} {f : Folder} (h : disk.folderAt? path = some f)
    (hname : Path.isName name = true) (hfits : (Path.join path name).utf8ByteSize ≤ longestPath) :
    disk.folderAt? (Path.join path name) = f.folder? name := by
  obtain ⟨hreach, hne⟩ := reach_of_folderAt? h
  have hsound := (isSound_of_entry (entry_of_folderAt? h)).join hname
  rw [folderAt?, entry_eq_reach hsound hfits, reach_join hne hname hreach, Folder.look]
  cases f.folder? name with
  | some sub => rfl
  | none => cases f.file? name <;> rfl

end Disk

/-- A project as it lies on a disk, where no path to a file is too long to be opened. -/
structure Settled (disk : Disk) (path : String) (f : Folder) : Prop extends Placed disk path f where
  fits : ∀ l ∈ f.contents, (l.path path).utf8ByteSize ≤ Disk.longestPath

namespace Settled
variable {disk : Disk} {path : String} {f : Folder}

theorem isSound (h : Settled disk path f) : Path.IsSound path :=
  Disk.isSound_of_entry (Disk.entry_of_folderAt? h.there)

/-- The path of a file leads to it. -/
theorem entry_eq (h : Settled disk path f) {l : Leaf} (hl : l ∈ f.contents) :
    disk.entry (l.path path) = .ok (.file l.file) := by
  obtain ⟨hreach, hne⟩ := Disk.reach_of_folderAt? h.there
  have hmet : l.met path ∈ Disk.filesOf (visits (fun _ => true) path f) := by
    rw [filesOf_visits_eq]
    exact List.mem_map.mpr ⟨l, List.mem_filter.mpr ⟨hl, by simp⟩, rfl⟩
  have hsound : Path.IsSound (l.path path) :=
    Leaf.isSound_path h.isSound (Folder.isName_of_mem_steps h.sound hl)
  have hfound := reach_file hne h.sound hreach hmet
  rw [Disk.entry_eq_reach hsound (h.fits l hl)]
  exact hfound

theorem openFile_eq (h : Settled disk path f) {l : Leaf} (hl : l ∈ f.contents) :
    disk.openFile (l.path path) = .ok l.file := by
  simp only [Disk.openFile, h.entry_eq hl]

theorem isFile_eq (h : Settled disk path f) {name : String} (hslash : '/' ∉ name.toList) :
    disk.isFile (Path.join path name) = (f.file? name).isSome := by
  rw [Bool.eq_iff_iff, Disk.isFile_iff, Option.isSome_iff_exists]
  constructor
  · rintro ⟨file, hentry⟩
    exact ⟨file, (Folder.look_eq_file h.sound).mp (Disk.look_of_entry h.there hslash hentry).2⟩
  · rintro ⟨file, hfile⟩
    have hl : (⟨[], name, file⟩ : Leaf) ∈ f.contents := (Folder.mem_contents_iff h.sound).mpr ⟨f, rfl, hfile⟩
    have hentry := h.entry_eq hl
    exact ⟨file, hentry⟩

end Settled

/-! ### One project in two places -/

/-- Two disks that hold one project, each in its own place. The folders may differ in their names. -/
structure Relocation (disk disk' : Disk) (path path' : String) (f f' : Folder) : Prop where
  settled : Settled disk path f
  settled' : Settled disk' path' f'
  files : f'.label.files = f.label.files
  folders : f'.children = f.children

/-- The context of a review with the usual parameters. -/
abbrev Context.usual (disk : Disk) (path : String) (language : Language) (runtime : Runtime) : Context :=
  Request.context { path, language, runtime } disk

/-- Each of the usual lists matches both places or neither. -/
def ExemptAlike (path path' : String) : Prop :=
  ∀ words ∈ ({} : Settings).exemptions, words.anyIn (Path.join path' "") = words.anyIn (Path.join path "")

instance (path path' : String) : Decidable (ExemptAlike path path') :=
  inferInstanceAs (Decidable (∀ words ∈ ({} : Settings).exemptions,
    words.anyIn (Path.join path' "") = words.anyIn (Path.join path "")))

/-- The usual lists have slashes only at the ends of their words. -/
theorem isEdged_exemptions : ∀ words ∈ ({} : Settings).exemptions, words.isEdged = true := by
  decide +kernel

namespace Relocation
variable {disk disk' : Disk} {path path' : String} {f f' : Folder}

theorem contents_eq (h : Relocation disk disk' path path' f f') : f'.contents = f.contents := by
  obtain ⟨listing, children⟩ := f
  obtain ⟨listing', children'⟩ := f'
  obtain rfl : children' = children := h.folders
  rw [Folder.contents, Folder.contents, Folder.spread_node, Folder.spread_node,
    show (Tree.node listing' children').label.files = (Tree.node listing children').label.files from h.files]

theorem leaves_eq (h : Relocation disk disk' path path' f f') : disk'.leaves path' = disk.leaves path := by
  rw [Disk.leaves_of_folderAt? h.settled.there, Disk.leaves_of_folderAt? h.settled'.there, h.contents_eq]

theorem reachable_eq (h : Relocation disk disk' path path' f f') (skip : Words) :
    disk'.reachable skip path' = disk.reachable skip path := by
  rw [Disk.reachable, Disk.reachable, h.leaves_eq]

theorem selected_eq (h : Relocation disk disk' path path' f f') (extensions skip : Words) :
    disk'.selected extensions skip path' = disk.selected extensions skip path := by
  rw [Disk.selected, Disk.selected, h.reachable_eq]

theorem mem_contents (h : Relocation disk disk' path path' f f') {extensions skip : Words} {l : Leaf}
    (hl : l ∈ disk.selected extensions skip path) : l ∈ f.contents :=
  Disk.mem_contents_of_reachable h.settled.there (List.mem_filter.mp hl).1

/-! #### Preflight -/

theorem tooLarge_eq (h : Relocation disk disk' path path' f f') (language : Language) (runtime : Runtime) :
    Preflight.tooLarge (.usual disk' path' language runtime) =
      Preflight.tooLarge (.usual disk path language runtime) := by
  have hcount (skip : Words) : disk'.countSources skip path' = disk.countSources skip path := by
    rw [Disk.countSources_eq, Disk.countSources_eq, Disk.counted, Disk.counted, h.reachable_eq]
  have hlarge : Preflight.isTooLarge (.usual disk' path' language runtime) path' =
      Preflight.isTooLarge (.usual disk path language runtime) path := by
    rw [Preflight.isTooLarge, Preflight.isTooLarge, Disk.visitable_of_folderAt? h.settled.there,
      Disk.visitable_of_folderAt? h.settled'.there]
    simp only [Disk.isLargerThan, Request.context, hcount]
  show firstFinding _ [path'] = firstFinding _ [path]
  simp only [firstFinding, hlarge]

theorem run_preflight (h : Relocation disk disk' path path' f f') (language : Language) (runtime : Runtime) :
    ∀ check ∈ Registry.preflight.flatMap (·.checks),
      check.run (.usual disk' path' language runtime) = check.run (.usual disk path language runtime) := by
  have hleaves : Preflight.leaves (.usual disk' path' language runtime) =
      Preflight.leaves (.usual disk path language runtime) := h.reachable_eq _
  have hthere : (Context.usual disk path language runtime).disk.folderAt?
      (Context.usual disk path language runtime).path = some f := h.settled.there
  have hthere' : (Context.usual disk' path' language runtime).disk.folderAt?
      (Context.usual disk' path' language runtime).path = some f' := h.settled'.there
  simp only [Registry.preflight, List.flatMap_cons, List.flatMap_nil, List.cons_append, List.nil_append,
    List.forall_mem_cons, Check.run_onContext, h.tooLarge_eq, Preflight.notUtf8_eq hthere h.settled.sound,
    Preflight.notUtf8_eq hthere' h.settled'.sound, Preflight.marked_eq hthere, Preflight.marked_eq hthere',
    Preflight.tooLong_eq hthere, Preflight.tooLong_eq hthere', hleaves]
  simp [Request.context]

/-! #### The loaded project -/

theorem movedSource (h : Relocation disk disk' path path' f f')
    (hmatch : ExemptAlike path path') (language : Language) (runtime : Runtime) {l : Leaf} (hl : l ∈ f.contents)
    (content : String) :
    MovedSource (.usual disk path language runtime) disk' ⟨l.path path, content, l.file.tree⟩
      ⟨l.path path', content, l.file.tree⟩ := by
  have hslash := Folder.slash_not_mem_name h.settled.sound hl
  have hnames := Folder.isName_of_mem_steps h.settled.sound hl
  exact {
    name := by
      show Text.baseName (l.path path') = Text.baseName (l.path path)
      rw [Leaf.path, Leaf.path, Path.baseName_join _ hslash, Path.baseName_join _ hslash]
    content := rfl
    tree := rfl
    opened := by
      show disk'.openFile (l.path path') = disk.openFile (l.path path)
      rw [h.settled.openFile_eq hl, h.settled'.openFile_eq (h.contents_eq ▸ hl)]
    exempt := by
      intro words hwords
      have hedged := isEdged_exemptions words hwords
      show words.anyIn (l.path path') = words.anyIn (l.path path)
      rw [Leaf.anyIn_path hedged h.settled.isSound.nonempty hnames,
        Leaf.anyIn_path hedged h.settled'.isSound.nonempty hnames, hmatch words hwords] }

theorem textsWith_agree (h : Relocation disk disk' path path' f f') (extensions skip : Words) :
    Outcome.Agree (List.Forall₂ SameText) (disk.textsWith extensions skip path)
      (disk'.textsWith extensions skip path') := by
  rw [Disk.textsWith, Disk.textsWith, Disk.filesWith_eq, Disk.filesWith_eq, h.selected_eq, List.mapM_map, List.mapM_map]
  refine Outcome.agree_mapM fun l hl => ?_
  have hslash := Folder.slash_not_mem_name h.settled.sound (h.mem_contents hl)
  cases htext : l.file.text with
  | error failure =>
    simp only [Function.comp_apply, htext]
    exact .error failure
  | ok text =>
    simp only [Function.comp_apply, htext]
    refine .ok ⟨?_, rfl⟩
    rw [Leaf.path, Leaf.path, Path.baseName_join _ hslash, Path.baseName_join _ hslash]

/-- Loading in the two places fails alike, or gives projects that go together. -/
theorem load_agree (h : Relocation disk disk' path path' f f')
    (hmatch : ExemptAlike path path') (language : Language) (runtime : Runtime) (skip : Words) :
    Outcome.Agree (fun p p' => p.path = path ∧ p'.path = path' ∧
        List.Forall₂ (MovedSource (.usual disk path language runtime) disk') p.sources p'.sources)
      (Project.load disk path skip) (Project.load disk' path' skip) := by
  have hsources : Outcome.Agree (List.Forall₂ (MovedSource (.usual disk path language runtime) disk'))
      ((disk.selected sourceExtensions skip path).mapM fun l => Project.ofFile (l.path path, l.file))
      ((disk.selected sourceExtensions skip path).mapM fun l => Project.ofFile (l.path path', l.file)) := by
    refine Outcome.agree_mapM fun l hl => ?_
    simp only [Project.ofFile]
    cases l.file.text with
    | error failure => exact .error failure
    | ok text => exact .ok (h.movedSource hmatch language runtime (h.mem_contents hl) text)
  rw [Project.load_eq h.settled.there, Project.load_eq h.settled'.there, h.selected_eq]
  refine hsources.bind fun sources sources' hmoved => ?_
  cases hmoved with
  | nil => exact .error _
  | cons hst hrest => exact .ok ⟨rfl, rfl, .cons hst hrest⟩

/-- The loaded projects go together. -/
theorem movedProject (h : Relocation disk disk' path path' f f') {language : Language} {runtime : Runtime}
    {p p' : Project} (hpath : p.path = path) (hpath' : p'.path = path')
    (hsources : List.Forall₂ (MovedSource (.usual disk path language runtime) disk') p.sources p'.sources)
    (hsupplied : Registry.SuppliedAgree ((Context.usual disk path language runtime).holding disk p)
      ((Context.usual disk path language runtime).holding disk' p')) :
    MovedProject (.usual disk path language runtime) p disk' p' where
  alone := rfl
  unversioned := by
    show disk.repositoryAt? p.path = none
    rw [hpath, h.settled.repositoryAt?_eq]
  unversioned' := by
    show disk'.repositoryAt? p'.path = none
    rw [hpath', h.settled'.repositoryAt?_eq]
  sources := hsources
  texts := by
    intro extensions
    rw [hpath, hpath']
    exact h.textsWith_agree extensions _
  hasReadme := by
    have hslash : '/' ∉ ({} : Settings).readmeFilename.toList := by decide
    show disk'.isFile (Path.join p'.path _) = disk.isFile (Path.join p.path _)
    rw [hpath, hpath']
    have hfile : f'.file? ({} : Settings).readmeFilename = f.file? ({} : Settings).readmeFilename := by
      rw [Folder.file?, Folder.file?, h.files]
    exact (h.settled'.isFile_eq hslash).trans ((congrArg Option.isSome hfile).trans (h.settled.isFile_eq hslash).symm)
  readme := by
    rw [Project.fileNamed_eq_find?, Project.fileNamed_eq_find?, hpath, hpath', h.leaves_eq]
    rfl
  supplied := hsupplied

/-- From the loading on, the two runs are the same. -/
theorem errors_outcome_eq (h : Relocation disk disk' path path' f f')
    (hmatch : ExemptAlike path path') (language : Language) (runtime : Runtime)
    (hsupplied : ∀ c c', (Context.usual disk path language runtime).load = .ok c →
      (Context.usual disk' path' language runtime).load = .ok c' → Registry.SuppliedAgree c c') :
    ((Context.usual disk' path' language runtime).load >>= fun c => Registry.errors.outcome c Registry.warnings) =
      (Context.usual disk path language runtime).load >>= fun c => Registry.errors.outcome c Registry.warnings := by
  have hload (disk : Disk) (path : String) : (Context.usual disk path language runtime).load = do
      return { Context.usual disk path language runtime with
        project := some (← Project.load disk path ({} : Settings).directoriesToSkip) } := rfl
  simp only [hload, bind_assoc, pure_bind] at hsupplied ⊢
  refine (h.load_agree hmatch language runtime _).and_eq.bind_eq fun p p' ⟨⟨hpath, hpath', hsources⟩, hp, hp'⟩ => ?_
  subst hpath hpath'
  have hgiven := hsupplied _ _ (congrArg (· >>= _) hp) (congrArg (· >>= _) hp')
  have hrun := (h.movedProject rfl rfl hsources hgiven).run_eq
  rw [Groups.outcome, Groups.outcome]
  exact congrArg (Except.map Log.findings) hrun

theorem preflight_outcome_eq (h : Relocation disk disk' path path' f f') (language : Language) (runtime : Runtime) :
    Registry.preflight.outcome (.usual disk' path' language runtime) [] =
      Registry.preflight.outcome (.usual disk path language runtime) [] := by
  rw [Groups.outcome, Groups.outcome, Groups.run_congr fun check hcheck => ?_]
  rcases Groups.mem_executed hcheck with hmem | hmem
  · exact h.run_preflight language runtime check hmem
  · rw [Groups.notes_nil] at hmem
    cases hmem

end Relocation

/-- **A review depends on the place of a project only through the usual lists.** One project without a history, in two
places that each of the lists of exemptions matches or does not match alike, has the same review by the usual groups
with the usual parameters, be it findings or a failure, as long as the two checks of requirements, which are supplied,
say the same of both. -/
theorem review_ignores_place {disk disk' : Disk} {path path' : String} {f f' : Folder}
    (h : Relocation disk disk' path path' f f')
    (hmatch : ExemptAlike path path') (language : Language) (runtime : Runtime)
    (hsupplied : ∀ c c', (Context.usual disk path language runtime).load = .ok c →
      (Context.usual disk' path' language runtime).load = .ok c' → Registry.SuppliedAgree c c') :
    review disk' { path := path', language, runtime } = review disk { path, language, runtime } := by
  rw [review_eq rfl, review_eq rfl]
  show (Registry.preflight.outcome (.usual disk' path' language runtime) [] >>= fun found => if found.isEmpty then
    (Context.usual disk' path' language runtime).load >>= fun c => Registry.errors.outcome c Registry.warnings
      else pure found) = _
  rw [h.preflight_outcome_eq, h.errors_outcome_eq hmatch language runtime hsupplied]
  rfl

/-- Two places that the list for tests matches, and no other: a call with a number is let pass in both, and a declared
encoding further down is found in both. -/
theorem declaration_is_found_in_both_places :
    let call : Code.Node := .node ⟨.call, .value, some ⟨1, 0⟩, []⟩
      [.node ⟨.identifier, .func, some ⟨1, 0⟩, [(.id, .word "run")]⟩ [],
       .node ⟨.constant, .args, some ⟨1, 4⟩, [(.value, .literal (.integer 5))]⟩ []]
    let tree : Code.Node := .node ⟨.module, .body, none, []⟩ [call]
    let source : File := { bytes := "run(5)".toUTF8.data.toList, tree := some tree }
    let declaring : File := { source with bytes := "#coding:utf-8\nrun(5)".toUTF8.data.toList }
    let files := [("README.md", source), ("a.py", source)]
    let lib : Folder := .node { name := "lib", files := [("b.py", declaring)] } []
    let f : Folder := .node { name := "p", files } [lib]
    let f' : Folder := .node { name := "q", files } [lib]
    let disk : Disk :=
      { top := .node { name := "" } [.node { name := "contests" } [f'], .node { name := "tests" } [f]] }
    Relocation disk disk "tests/p" "contests/q" f f' ∧ ExemptAlike "tests/p" "contests/q" ∧
      review disk { path := "tests/p" } = .ok [⟨"encoding_declaration", "b.py"⟩] ∧
      review disk { path := "contests/q" } = .ok [⟨"encoding_declaration", "b.py"⟩] := by
  intro call tree source declaring files lib f f' disk
  have htests : disk.folderAt? "tests" = some (.node { name := "tests" } [f]) := by
    rw [Disk.folderAt?_of_isName rfl (by decide)]
    rfl
  have hcontests : disk.folderAt? "contests" = some (.node { name := "contests" } [f']) := by
    rw [Disk.folderAt?_of_isName rfl (by decide)]
    rfl
  have hthere : disk.folderAt? "tests/p" = some f := by
    rw [show "tests/p" = Path.join "tests" "p" by decide, Disk.folderAt?_join htests (by decide) (by decide +kernel)]
    rfl
  have hthere' : disk.folderAt? "contests/q" = some f' := by
    rw [show "contests/q" = Path.join "contests" "q" by decide,
      Disk.folderAt?_join hcontests (by decide) (by decide +kernel)]
    rfl
  have h : Relocation disk disk "tests/p" "contests/q" f f' :=
    ⟨⟨⟨hthere, by decide +kernel, rfl⟩, by decide +kernel⟩, ⟨⟨hthere', by decide +kernel, rfl⟩, by decide +kernel⟩,
      rfl, rfl⟩
  have hmatch : ExemptAlike "tests/p" "contests/q" := by decide +kernel
  have hfound : review disk { path := "tests/p" } = .ok [⟨"encoding_declaration", "b.py"⟩] := by decide +kernel
  have hsupplied : ∀ c c', (Context.usual disk "tests/p" .english {}).load = .ok c →
      (Context.usual disk "contests/q" .english {}).load = .ok c' → Registry.SuppliedAgree c c' := by
    intro c c' hload hload'
    obtain ⟨_, _, _, rfl, _⟩ := Request.of_load hload
    obtain ⟨_, _, _, rfl, _⟩ := Request.of_load hload'
    exact Registry.suppliedAgree_of_none rfl rfl
  have hsame := review_ignores_place h hmatch .english {} hsupplied
  exact ⟨h, hmatch, hfound, hsame.trans hfound⟩

/-- The same project under a folder whose name ends in that of the tests: its call with a number is let pass. -/
theorem number_is_let_pass_below_contests :
    let call : Code.Node := .node ⟨.call, .value, some ⟨1, 0⟩, []⟩
      [.node ⟨.identifier, .func, some ⟨1, 0⟩, [(.id, .word "run")]⟩ [],
       .node ⟨.constant, .args, some ⟨1, 4⟩, [(.value, .literal (.integer 5))]⟩ []]
    let tree : Code.Node := .node ⟨.module, .body, none, []⟩ [call]
    let source : File := { bytes := "run(5)".toUTF8.data.toList, tree := some tree }
    let f : Folder := .node { name := "p", files := [("README.md", source), ("a.py", source)] } []
    let disk : Disk := { top := .node { name := "" } [.node { name := "contests" } [f], f] }
    Relocation disk disk "p" "contests/p" f f ∧ ¬ ExemptAlike "p" "contests/p" ∧
      review disk { path := "p" } = .ok [⟨"call_with_constants", "a.py:1"⟩] ∧
      review disk { path := "contests/p" } = .ok [] := by
  intro call tree source f disk
  have hthere : disk.folderAt? "p" = some f := by
    rw [Disk.folderAt?_of_isName rfl (by decide)]
    rfl
  have hcontests : disk.folderAt? "contests" = some (.node { name := "contests" } [f]) := by
    rw [Disk.folderAt?_of_isName rfl (by decide)]
    rfl
  have hthere' : disk.folderAt? "contests/p" = some f := by
    rw [show "contests/p" = Path.join "contests" "p" by decide,
      Disk.folderAt?_join hcontests (by decide) (by decide +kernel)]
    rfl
  have h : Relocation disk disk "p" "contests/p" f f :=
    ⟨⟨⟨hthere, by decide +kernel, rfl⟩, by decide +kernel⟩, ⟨⟨hthere', by decide +kernel, rfl⟩, by decide +kernel⟩,
      rfl, rfl⟩
  exact ⟨h, by decide +kernel, by decide +kernel, by decide +kernel⟩

end Scrutiny
