import Mathlib.Data.List.Flatten
import Mathlib.Data.List.Nodup
import Mathlib.Data.List.TakeWhile
import Scrutiny.Project
import Scrutiny.Proofs.Walks

/-! What is below a folder.

`Folder.spread` lists what the folders from a folder on hold, each thing with the names of the folders on the way to it.
A walk that skips folders meets those whose way has no name to skip, in the same order (`flatMap_visits`). In a sound
folder they are what following names leads to (`mem_spread_iff`), and if each folder holds a name only once, each comes
once (`nodup_spread`).

`Folder.contents` are the files so listed, and leave nothing out. A look-up by name finds the first of that name
(`Project.fileNamed_eq_find?`), and files in different places have different paths (`nodup_paths`). -/
namespace Scrutiny

/-! ### Following names -/

namespace Folder

/-- The folder that names lead to. -/
def descend (f : Folder) : List String → Option Folder
  | [] => some f
  | name :: rest => (f.folder? name).bind (·.descend rest)

theorem descend_append (f : Folder) (way rest : List String) :
    f.descend (way ++ rest) = (f.descend way).bind (·.descend rest) := by
  induction way generalizing f with
  | nil => rfl
  | cons name more ih => simp only [List.cons_append, descend, ih, Option.bind_assoc]

theorem mem_of_folder? {f g : Folder} {name : String} (h : f.folder? name = some g) :
    g ∈ f.children ∧ g.label.name = name :=
  ⟨List.mem_of_find?_eq_some h, by simpa using List.find?_some h⟩

theorem isSound_of_mem {f g : Folder} (h : f.isSound = true) (hg : g ∈ f.children) : g.isSound = true := by
  obtain ⟨listing, children⟩ := f
  exact (isSound_node_iff.mp h).2.2 g hg

theorem isName_of_mem {f g : Folder} (h : f.isSound = true) (hg : g ∈ f.children) :
    Path.isName g.label.name = true := by
  obtain ⟨listing, children⟩ := f
  exact (isSound_node_iff.mp h).1 _ (List.mem_append_right _ (List.mem_map.mpr ⟨g, hg, rfl⟩))

theorem isName_of_file? {f : Folder} (h : f.isSound = true) {name : String} {file : File}
    (hfile : f.file? name = some file) : Path.isName name = true := by
  obtain ⟨listing, children⟩ := f
  exact (isSound_node_iff.mp h).1 _ (List.mem_append_left _ (List.mem_map.mpr ⟨_, mem_of_file? hfile, rfl⟩))

/-- All names that lead on from a sound folder are proper ones, and where they lead is sound. -/
theorem isName_of_descend {f g : Folder} (h : f.isSound = true) {way : List String}
    (hg : f.descend way = some g) : (∀ name ∈ way, Path.isName name = true) ∧ g.isSound = true := by
  induction way generalizing f with
  | nil =>
    cases hg
    exact ⟨by simp, h⟩
  | cons name rest ih =>
    obtain ⟨child, hchild, hrest⟩ := Option.bind_eq_some_iff.mp hg
    obtain ⟨hmem, hname⟩ := mem_of_folder? hchild
    obtain ⟨hnames, hsound⟩ := ih (isSound_of_mem h hmem) hrest
    exact ⟨List.forall_mem_cons.mpr ⟨hname ▸ isName_of_mem h hmem, hnames⟩, hsound⟩

/-! ### What folders hold -/

mutual

/-- What a folder and those below it hold, each thing with the names of the folders on the way to it: first what the
folder itself holds, then what the folders in it do, in order. -/
def spread {α : Type} (held : Folder → List α) : Folder → List (List String × α)
  | .node listing children => (held (.node listing children)).map ([], ·) ++ spreadBelow held children

def spreadBelow {α : Type} (held : Folder → List α) : List Folder → List (List String × α)
  | [] => []
  | f :: rest => (spread held f).map (Prod.map (f.label.name :: ·) id) ++ spreadBelow held rest

end

section Spread
variable {α : Type} {held : Folder → List α}

theorem spread_node (listing : Listing) (children : List Folder) :
    spread held (.node listing children) = (held (.node listing children)).map ([], ·) ++
      children.flatMap fun f => (f.spread held).map (Prod.map (f.label.name :: ·) id) := by
  have hbelow : spreadBelow held children =
      children.flatMap fun f => (f.spread held).map (Prod.map (f.label.name :: ·) id) := by
    induction children with
    | nil => rfl
    | cons f rest ih => rw [spreadBelow, ih, List.flatMap_cons]
  rw [spread, hbelow]

/-- What is held below a sound folder is what names lead to. -/
theorem mem_spread_iff {f : Folder} (h : f.isSound = true) {way : List String} {a : α} :
    (way, a) ∈ f.spread held ↔ ∃ g, f.descend way = some g ∧ a ∈ held g := by
  induction f using Tree.induction generalizing way with
  | h listing children ih =>
    rw [spread_node, List.mem_append, List.mem_map, List.mem_flatMap]
    constructor
    · rintro (⟨a, ha, hsame⟩ | ⟨f, hf, hbelow⟩)
      · cases hsame
        exact ⟨_, rfl, ha⟩
      · obtain ⟨⟨rest, b⟩, hrest, hsame⟩ := List.mem_map.mp hbelow
        cases hsame
        obtain ⟨g, hdescend, hb⟩ := (ih f hf (isSound_of_mem h hf)).mp hrest
        refine ⟨g, ?_, hb⟩
        rw [descend, folder?_of_mem h hf]
        exact hdescend
    · rintro ⟨g, hdescend, ha⟩
      cases way with
      | nil =>
        cases hdescend
        exact .inl ⟨a, ha, rfl⟩
      | cons name rest =>
        obtain ⟨f, hf, hrest⟩ := Option.bind_eq_some_iff.mp hdescend
        obtain ⟨hmem, hname⟩ := mem_of_folder? hf
        have hinner : (rest, a) ∈ f.spread held := (ih f hmem (isSound_of_mem h hmem)).mpr ⟨g, hrest, ha⟩
        exact .inr ⟨f, hmem, List.mem_map.mpr ⟨_, hinner, by rw [hname]; rfl⟩⟩

/-- Ways through folders of different names differ, if they do in each of the folders. -/
theorem nodup_flatMap_cons {children : List Folder} (hnames : (children.map (·.label.name)).Nodup)
    {ways : Folder → List (List String)} (h : ∀ f ∈ children, (ways f).Nodup) :
    (children.flatMap fun f => (ways f).map (f.label.name :: ·)).Nodup := by
  refine List.nodup_flatMap.mpr ⟨fun f hf => (h f hf).map List.cons_injective, ?_⟩
  refine (List.pairwise_map.mp hnames).imp fun {f g} hne => List.disjoint_left.mpr fun way hf hg => hne ?_
  obtain ⟨_, _, rfl⟩ := List.mem_map.mp hf
  obtain ⟨_, _, hsame⟩ := List.mem_map.mp hg
  exact (List.cons.inj hsame).1.symm

/-- No two things below a sound folder are in one place, if no two are in any one folder. -/
theorem nodup_spread {name : α → String} (hheld : ∀ g : Folder, g.isSound = true → ((held g).map name).Nodup)
    {f : Folder} (h : f.isSound = true) : ((f.spread held).map fun e => e.1 ++ [name e.2]).Nodup := by
  induction f using Tree.induction with
  | h listing children ih =>
    obtain ⟨_, hnodup, _⟩ := isSound_node_iff.mp h
    have hbelow := nodup_flatMap_cons (List.nodup_append.mp hnodup).2.1 fun f hf => ih f hf (isSound_of_mem h hf)
    rw [spread_node, List.map_append, List.map_flatMap]
    simp only [List.map_map] at hbelow ⊢
    refine List.Nodup.append ?_ hbelow ?_
    · -- Directly in the folder, the names tell things apart.
      have hsingle := (hheld _ h).map (List.singleton_injective (α := String))
      rwa [List.map_map] at hsingle
    · -- What is directly in the folder is one step away, all else is more.
      refine List.disjoint_left.mpr fun steps hdirect hbelow => ?_
      simp only [List.mem_map, Function.comp_apply, List.mem_flatMap] at hdirect hbelow
      obtain ⟨_, _, rfl⟩ := hdirect
      obtain ⟨_, _, _, _, hsame⟩ := hbelow
      simp at hsame

/-- A walk meets what is held where its way goes, in order. -/
theorem flatMap_visits (held : Folder → List α) {seen : Visit → List α} (hseen : ∀ path listing children,
      seen ⟨path, children.map (·.label.name), listing.files⟩ = held (.node listing children))
    (keep : String → Bool) (f : Folder) (start : String) :
    (visits keep start f).flatMap (fun v => (seen v).map (v.path, ·)) =
      ((f.spread held).filter (·.1.all keep)).map fun e => (e.1.foldl Path.join start, e.2) := by
  induction f using Tree.induction generalizing start with
  | h listing children ih =>
    rw [visits_node, List.flatMap_cons, hseen, spread_node, List.filter_append, List.map_append, List.flatMap_assoc]
    congr 1
    · have hdirect : ∀ e ∈ (held (.node listing children)).map (([], ·) : α → List String × α),
          e.1.all keep = true := List.forall_mem_map.mpr fun _ _ => rfl
      rw [List.filter_eq_self.mpr hdirect, List.map_map]
      rfl
    · rw [List.filter_flatMap, List.map_flatMap]
      refine List.flatMap_congr fun child hchild => ?_
      rw [List.filter_map, List.map_map]
      cases hkeep : keep child.label.name with
      | true =>
        rw [if_pos rfl, ih child hchild]
        simp [Function.comp_def, hkeep]
      | false => simp [Function.comp_def, hkeep]

end Spread

end Folder

/-! ### The files below a folder -/

/-- A file below a folder, with the names of the folders on the way to it. -/
structure Leaf where
  way : List String
  name : String
  file : File

namespace Leaf

/-- The names that lead to the file, its own the last. -/
def steps (l : Leaf) : List String :=
  l.way ++ [l.name]

/-- The path of the folder that the file is in. -/
def folderPath (start : String) (l : Leaf) : String :=
  l.way.foldl Path.join start

def path (start : String) (l : Leaf) : String :=
  Path.join (l.folderPath start) l.name

/-- The path of the file from the folder on. -/
def trail (l : Leaf) : String :=
  l.way.foldr (fun folder rest => folder ++ "/" ++ rest) l.name

/-- The file as a walk meets it. -/
def met (start : String) (l : Leaf) : String × String × File :=
  (l.folderPath start, l.name, l.file)

/-- Whether no folder on the way has a name to skip. -/
def isOutside (skip : Words) (l : Leaf) : Bool :=
  l.way.all (!skip.has ·)

end Leaf

namespace Folder

/-- The files below a folder: those directly in it, then those of the folders in it, in order. -/
def contents (f : Folder) : List Leaf :=
  (f.spread (·.label.files)).map fun e => ⟨e.1, e.2.1, e.2.2⟩

/-- The contents of a sound folder are what names lead to. -/
theorem mem_contents_iff {f : Folder} (h : f.isSound = true) {l : Leaf} :
    l ∈ f.contents ↔ ∃ g, f.descend l.way = some g ∧ g.file? l.name = some l.file := by
  have hspread : l ∈ f.contents ↔ (l.way, l.name, l.file) ∈ f.spread (·.label.files) := by
    refine List.mem_map.trans ⟨?_, fun hl => ⟨_, hl, rfl⟩⟩
    rintro ⟨e, he, rfl⟩
    exact he
  rw [hspread, mem_spread_iff h]
  refine exists_congr fun g => and_congr_right fun hg => ⟨file?_of_mem (isName_of_descend h hg).2, mem_of_file?⟩

/-- All names on the way to a file are proper ones. -/
theorem isName_of_mem_steps {f : Folder} (h : f.isSound = true) {l : Leaf} (hl : l ∈ f.contents) :
    ∀ name ∈ l.steps, Path.isName name = true := by
  obtain ⟨g, hdescend, hfile⟩ := (mem_contents_iff h).mp hl
  obtain ⟨hway, hsound⟩ := isName_of_descend h hdescend
  rw [Leaf.steps, List.forall_mem_append, List.forall_mem_singleton]
  exact ⟨hway, isName_of_file? hsound hfile⟩

theorem slash_not_mem_name {f : Folder} (h : f.isSound = true) {l : Leaf} (hl : l ∈ f.contents) :
    '/' ∉ l.name.toList := by
  have hname := isName_of_mem_steps h hl l.name (by simp [Leaf.steps])
  exact (Path.isName_iff.mp hname).2.2.2.1

/-- No two files of a sound folder are in one place. -/
theorem nodup_contents {f : Folder} (h : f.isSound = true) : (f.contents.map Leaf.steps).Nodup := by
  have hfiles (g : Folder) (hg : g.isSound = true) : (g.label.files.map (·.1)).Nodup := by
    obtain ⟨listing, children⟩ := g
    exact (List.nodup_append.mp (isSound_node_iff.mp hg).2.1).1
  rw [contents, List.map_map]
  exact nodup_spread hfiles h

end Folder

/-! ### Walks -/

/-- A walk meets the contents whose way it goes, in order. -/
theorem filesOf_visits_eq (keep : String → Bool) (f : Folder) (start : String) :
    Disk.filesOf (visits keep start f) = (f.contents.filter (·.way.all keep)).map (Leaf.met start) := by
  rw [Disk.filesOf, Folder.flatMap_visits (·.label.files) (fun _ _ _ => rfl), Folder.contents,
    List.filter_map, List.map_map]
  rfl

namespace Disk

/-- All files below a path. -/
def leaves (disk : Disk) (path : String) : List Leaf :=
  match disk.folderAt? path with
  | some f => f.contents
  | none => []

/-- The files below a path that lie in no folder to skip. -/
def reachable (disk : Disk) (skip : Words) (path : String) : List Leaf :=
  (disk.leaves path).filter (·.isOutside skip)

theorem leaves_of_folderAt? {disk : Disk} {path : String} {f : Folder} (h : disk.folderAt? path = some f) :
    disk.leaves path = f.contents := by
  simp only [leaves, h]

theorem mem_contents_of_reachable {disk : Disk} {skip : Words} {path : String} {f : Folder}
    (h : disk.folderAt? path = some f) {l : Leaf} (hl : l ∈ disk.reachable skip path) : l ∈ f.contents := by
  rw [← leaves_of_folderAt? h]
  exact (List.mem_filter.mp hl).1

theorem filesOf_visitsFrom (disk : Disk) (path : String) :
    filesOf (disk.visitsFrom path) = (disk.leaves path).map (Leaf.met path) := by
  unfold visitsFrom leaves
  cases disk.folderAt? path with
  | none => rfl
  | some f =>
    have hall : ∀ l ∈ f.contents, (l.way.all fun _ => true) = true := fun l _ => by simp
    show filesOf (visits (fun _ => true) path f) = f.contents.map (Leaf.met path)
    rw [filesOf_visits_eq, List.filter_eq_self.mpr hall]

theorem filesOf_visitsOutside (disk : Disk) (skip : Words) (path : String) :
    filesOf (disk.visitsOutside skip path) = (disk.reachable skip path).map (Leaf.met path) := by
  unfold visitsOutside reachable leaves
  cases disk.folderAt? path with
  | none => rfl
  | some f => exact filesOf_visits_eq _ f path

end Disk

/-! ### Files by name -/

theorem lookup_eq_find? (files : List (String × File)) (name : String) :
    files.lookup name = (files.find? (·.1 = name)).map (·.2) := by
  induction files with
  | nil => rfl
  | cons entry rest ih =>
    rw [List.lookup_cons, List.find?_cons]
    by_cases h : entry.1 = name
    · simp [h]
    · have hne : (name == entry.1) = false := beq_eq_false_iff_ne.mpr (Ne.symm h)
      simp [h, hne, ih]

/-- A look-up by name finds the first file of that name, in the order of the contents. -/
theorem Project.fileNamed_eq_find? (disk : Disk) (p : Project) (name : String) :
    p.fileNamed disk name =
      match ((disk.leaves p.path).find? (·.name = name)).map (·.file) with
      | some file => do return some (← file.text)
      | none => .ok none := by
  have hfirst : ((disk.visitsFrom p.path).findSome? fun v => v.files.lookup name) =
      ((Disk.filesOf (disk.visitsFrom p.path)).find? (·.2.1 = name)).map (·.2.2) := by
    induction disk.visitsFrom p.path with
    | nil => rfl
    | cons v rest ih =>
      have hsplit : Disk.filesOf (v :: rest) = v.files.map (v.path, ·) ++ Disk.filesOf rest := rfl
      rw [List.findSome?_cons, hsplit, List.find?_append, List.find?_map, lookup_eq_find?, ih]
      simp only [Function.comp_def]
      cases v.files.find? (·.1 = name) <;> simp
  rw [fileNamed, hfirst, Disk.filesOf_visitsFrom, List.find?_map, Option.map_map]
  rfl

/-! ### Paths -/

namespace Text

theorem endsWith_slash_append {path name : String} (hne : name ≠ "") (h : '/' ∉ name.toList) :
    endsWith "/" (path ++ name) = false := by
  rw [Bool.eq_false_iff]
  intro hend
  have hchars : name.toList ≠ [] := fun hempty => hne (String.toList_inj.mp hempty)
  obtain ⟨before, hbefore⟩ := endsWith_iff.mp hend
  have hlast := congrArg List.getLast? hbefore
  rw [String.toList_append, List.getLast?_append_of_ne_nil _ hchars] at hlast
  exact h (List.mem_of_getLast? (hlast.symm.trans (by simp)))

theorem afterLast_append {mark : Char} {last : List Char} (h : mark ∉ last) (first : List Char) :
    afterLast mark (first ++ mark :: last) = last := by
  have hall : ∀ c ∈ last.reverse, decide (c ≠ mark) = true := fun c hc =>
    decide_eq_true fun heq => h (heq ▸ List.mem_reverse.mp hc)
  rw [afterLast, List.reverse_append, List.reverse_cons, List.append_assoc,
    List.takeWhile_append_of_pos hall]
  simp

theorem afterLast_of_not_mem {mark : Char} {text : List Char} (h : mark ∉ text) : afterLast mark text = text := by
  have hall : ∀ c ∈ text.reverse, decide (c ≠ mark) = true := fun c hc =>
    decide_eq_true fun heq => h (heq ▸ List.mem_reverse.mp hc)
  rw [afterLast, List.takeWhile_eq_self_iff.mpr hall, List.reverse_reverse]

/-- A text with a mark goes on with the mark and what stands after the last one. -/
theorem eq_append_afterLast {mark : Char} {text : List Char} (h : mark ∈ text) :
    ∃ first, text = first ++ mark :: afterLast mark text ∧ mark ∉ afterLast mark text := by
  obtain ⟨last, first, hrev, hlast⟩ := List.eq_append_cons_of_mem (List.mem_reverse.mpr h)
  have htext : text = first.reverse ++ mark :: last.reverse := by
    simpa using congrArg List.reverse hrev
  have hnot : mark ∉ last.reverse := fun hmem => hlast (List.mem_reverse.mp hmem)
  refine ⟨first.reverse, ?_⟩
  rw [htext, afterLast_append hnot]
  exact ⟨rfl, hnot⟩

/-- The base name of a path is its last component. -/
theorem getLast?_cut (path : String) : (cut '/' path).getLast? = some (baseName path) := by
  rw [cut, List.getLast?_map, baseName]
  by_cases hslash : '/' ∈ path.toList
  · obtain ⟨first, hpath, hnot⟩ := eq_append_afterLast hslash
    rw [hpath, pieces_append, afterLast_append hnot, pieces_of_not_mem hnot]
    simp
  · rw [pieces_of_not_mem hslash, afterLast_of_not_mem hslash]
    rfl

end Text

namespace Path

theorem join_eq_append {name : String} (path : String) (h : '/' ∉ name.toList) :
    join path name = join path "" ++ name := by
  have hname := Text.startsWith_slash_of_not_mem h
  have hempty : Text.startsWith "/" "" = false := by decide
  simp only [join, hname, hempty, Bool.false_eq_true, if_false]
  split
  · simp
  · simp

theorem join_empty {path : String} (hne : path ≠ "") (hend : Text.endsWith "/" path = false) :
    join path "" = path ++ "/" := by
  have hempty : Text.startsWith "/" "" = false := by decide
  simp [join, hempty, hend, hne]

theorem join_join_empty {name : String} (path : String) (h : isName name = true) :
    join (join path name) "" = join path "" ++ name ++ "/" := by
  obtain ⟨hne, _, _, hslash, _⟩ := isName_iff.mp h
  have hend : Text.endsWith "/" (join path name) = false := by
    rw [join_eq_append path hslash]
    exact Text.endsWith_slash_append hne hslash
  rw [join_empty (join_ne_empty path h) hend, join_eq_append path hslash]

/-- A slash stands before the name, unless the path is empty. -/
theorem join_eq_or {name : String} (path : String) (h : '/' ∉ name.toList) :
    (path = "" ∧ join path name = name) ∨ ∃ before, join path name = before ++ "/" ++ name := by
  rw [join_eq_append path h]
  by_cases hne : path = ""
  · exact .inl ⟨hne, by rw [hne]; rfl⟩
  · right
    cases hend : Text.endsWith "/" path with
    | false => exact ⟨path, by rw [join_empty hne hend]⟩
    | true =>
      obtain ⟨before, hbefore⟩ := Text.endsWith_iff.mp hend
      refine ⟨String.ofList before, ?_⟩
      have hpath : path = String.ofList before ++ "/" := by
        rw [← String.toList_inj, ← hbefore]
        simp
      have hempty : Text.startsWith "/" "" = false := by decide
      simp [join, hempty, hend, ← hpath]

theorem baseName_join {name : String} (path : String) (h : '/' ∉ name.toList) :
    Text.baseName (join path name) = name := by
  unfold Text.baseName
  rcases join_eq_or path h with ⟨_, hjoin⟩ | ⟨before, hjoin⟩
  · rw [hjoin, Text.afterLast_of_not_mem h, String.ofList_toList]
  · have hlist : (before ++ "/" ++ name).toList = before.toList ++ '/' :: name.toList := by
      simp [String.toList_append]
    rw [hjoin, hlist, Text.afterLast_append h, String.ofList_toList]

end Path

namespace Leaf

/-- The path of a file is that of the folder, a slash, and the names that lead to it. -/
theorem path_eq {l : Leaf} (h : ∀ name ∈ l.steps, Path.isName name = true) (start : String) :
    l.path start = Path.join start "" ++ l.trail := by
  obtain ⟨way, name, file⟩ := l
  induction way generalizing start with
  | nil => exact Path.join_eq_append start (Path.isName_iff.mp (h name (by simp [steps]))).2.2.2.1
  | cons folder rest ih =>
    obtain ⟨hfolder, hrest⟩ := List.forall_mem_cons.mp h
    have hbelow := ih (Path.join start folder) hrest
    rw [Path.join_join_empty start hfolder] at hbelow
    show path (Path.join start folder) ⟨rest, name, file⟩ = _
    rw [hbelow]
    simp [trail, String.append_assoc]

theorem cut_trail {l : Leaf} (h : ∀ name ∈ l.steps, Path.isName name = true) : Text.cut '/' l.trail = l.steps := by
  obtain ⟨way, name, file⟩ := l
  induction way with
  | nil => exact Text.cut_of_not_mem (Path.isName_iff.mp (h name (by simp [steps]))).2.2.2.1
  | cons folder rest ih =>
    obtain ⟨hfolder, hrest⟩ := List.forall_mem_cons.mp h
    show Text.cut '/' (folder ++ "/" ++ trail ⟨rest, name, file⟩) = folder :: steps ⟨rest, name, file⟩
    rw [Text.cut_append_slash, Text.cut_of_not_mem (Path.isName_iff.mp hfolder).2.2.2.1, ih hrest]
    rfl

end Leaf

/-- Files in different places have different paths. -/
theorem Folder.nodup_paths {f : Folder} (h : f.isSound = true) (start : String) :
    (f.contents.map (Leaf.path start)).Nodup := by
  refine List.pairwise_map.mpr ((List.pairwise_map.mp (nodup_contents h)).imp_of_mem fun {l k} hl hk hne hsame => ?_)
  have hl' := isName_of_mem_steps h hl
  have hk' := isName_of_mem_steps h hk
  rw [Leaf.path_eq hl', Leaf.path_eq hk'] at hsame
  have htrail : l.trail = k.trail := by
    simpa using hsame
  rw [← Leaf.cut_trail hl', ← Leaf.cut_trail hk', htrail] at hne
  exact hne rfl

end Scrutiny
