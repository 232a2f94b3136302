import Mathlib.Data.List.Nodup
import Scrutiny.Project
import Scrutiny.Proofs.Paths

/-! Walks over folders.

A walk that enters no folder of a name to skip sees the same files whether those folders are there or not
(`filesOf_visits_without`). On a disk whose folders hold proper names, each only once, the path of every visited file
leads back to that very file (`reach_file`). -/
namespace Scrutiny

/-- Induction over trees: a property passes from the children to the tree above them. -/
theorem Tree.induction {α : Type} {P : Tree α → Prop}
    (h : ∀ label children, (∀ t ∈ children, P t) → P (.node label children)) : ∀ t, P t
  | .node label children => h label children fun t _ => Tree.induction h t

/-! ### Visits -/

theorem visitsBelow_eq (keep : String → Bool) (path : String) (folders : List Folder) :
    visitsBelow keep path folders = folders.flatMap fun f =>
      if keep f.label.name then visits keep (Path.join path f.label.name) f else [] := by
  induction folders with
  | nil => rfl
  | cons f rest ih => rw [visitsBelow, ih, List.flatMap_cons]

theorem visits_node (keep : String → Bool) (path : String) (listing : Listing) (children : List Folder) :
    visits keep path (.node listing children) =
      ⟨path, children.map (·.label.name), listing.files⟩ :: children.flatMap fun f =>
        if keep f.label.name then visits keep (Path.join path f.label.name) f else [] := by
  rw [visits, visitsBelow_eq]

theorem filesOf_visits_node (keep : String → Bool) (path : String) (listing : Listing)
    (children : List Folder) :
    Disk.filesOf (visits keep path (.node listing children)) =
      listing.files.map (path, ·) ++ children.flatMap fun f =>
        if keep f.label.name then Disk.filesOf (visits keep (Path.join path f.label.name) f) else [] := by
  rw [visits_node]
  unfold Disk.filesOf
  rw [List.flatMap_cons, List.flatMap_assoc]
  congr 2
  funext f
  split <;> rfl

/-! ### Without the folders to skip -/

namespace Folder

/-- The folder in which a history is kept. -/
def historyName : String := ".git"

mutual

/-- A folder without those below it that have a name to skip, and all that is in them. A history goes with the folder
it is kept in. -/
def without (skip : Words) : Folder → Folder
  | .node listing children =>
    .node { listing with repository := if skip.has historyName then none else listing.repository }
      (withoutAll skip children)

def withoutAll (skip : Words) : List Folder → List Folder
  | [] => []
  | f :: rest =>
    if skip.has f.label.name then withoutAll skip rest else without skip f :: withoutAll skip rest

end

theorem name_without (skip : Words) (f : Folder) : (f.without skip).label.name = f.label.name := by
  cases f
  rfl

theorem files_without (skip : Words) (f : Folder) : (f.without skip).label.files = f.label.files := by
  cases f
  rfl

theorem withoutAll_eq (skip : Words) (folders : List Folder) :
    withoutAll skip folders = (folders.filter fun f => !skip.has f.label.name).map (without skip) := by
  induction folders with
  | nil => rfl
  | cons f rest ih =>
    rw [withoutAll, ih]
    cases hskip : skip.has f.label.name <;> simp [hskip]

end Folder

/-- Folders to skip are not seen by a walk that skips them. -/
theorem filesOf_visits_without (skip : Words) (f : Folder) (path : String) :
    Disk.filesOf (visits (fun name => !skip.has name) path (f.without skip)) =
      Disk.filesOf (visits (fun name => !skip.has name) path f) := by
  induction f using Tree.induction generalizing path with
  | h listing children ih =>
    rw [Folder.without, filesOf_visits_node, filesOf_visits_node, Folder.withoutAll_eq]
    congr 1
    induction children with
    | nil => rfl
    | cons f rest ihrest =>
      have hf := ih f List.mem_cons_self (Path.join path f.label.name)
      have hrest := ihrest fun t ht => ih t (List.mem_cons_of_mem _ ht)
      cases hskip : skip.has f.label.name with
      | true =>
        rw [List.filter_cons_of_neg (by simp [hskip]), hrest]
        simp [hskip]
      | false =>
        rw [List.filter_cons_of_pos (by simp [hskip]), List.map_cons, List.flatMap_cons, List.flatMap_cons,
          hrest, Folder.name_without, hf]

/-! ### Folders as they are on a disk -/

namespace Folder

/-- The names of all that is directly in a folder. -/
def names (listing : Listing) (children : List Folder) : List String :=
  listing.files.map (·.1) ++ children.map (·.label.name)

mutual

/-- Whether a folder and those below it hold proper names, each only once, as every file system sees to it. -/
def isSound : Folder → Bool
  | .node listing children =>
    (names listing children).all Path.isName && decide (names listing children).Nodup && areSound children

def areSound : List Folder → Bool
  | [] => true
  | f :: rest => isSound f && areSound rest

end

theorem areSound_iff (folders : List Folder) : areSound folders = true ↔ ∀ f ∈ folders, f.isSound = true := by
  induction folders with
  | nil => simp [areSound]
  | cons f rest ih => simp [areSound, ih]

theorem isSound_node_iff {listing : Listing} {children : List Folder} :
    isSound (.node listing children) = true ↔
      (∀ name ∈ names listing children, Path.isName name = true) ∧ (names listing children).Nodup ∧
        ∀ f ∈ children, f.isSound = true := by
  simp only [isSound, Bool.and_eq_true, List.all_eq_true, decide_eq_true_eq, areSound_iff, and_assoc]

theorem folder?_of_mem {listing : Listing} {children : List Folder}
    (h : isSound (.node listing children) = true) {f : Folder} (hf : f ∈ children) :
    folder? (.node listing children) f.label.name = some f := by
  obtain ⟨_, hnodup, _⟩ := isSound_node_iff.mp h
  have hchildren : (children.map (·.label.name)).Nodup := (List.nodup_append.mp hnodup).2.1
  show children.find? (fun g => decide (g.label.name = f.label.name)) = some f
  cases hfind : children.find? (fun g => decide (g.label.name = f.label.name)) with
  | none =>
    have hnot := List.find?_eq_none.mp hfind f hf
    simp at hnot
  | some g =>
    have hname : g.label.name = f.label.name := by simpa using List.find?_some hfind
    rw [List.inj_on_of_nodup_map hchildren (List.mem_of_find?_eq_some hfind) hf hname]

theorem mem_of_file? {f : Folder} {name : String} {file : File} (h : f.file? name = some file) :
    (name, file) ∈ f.label.files := by
  obtain ⟨before, rest, hfiles, _⟩ := List.lookup_eq_some_iff.mp h
  rw [hfiles]
  simp

theorem file?_of_mem {f : Folder} (h : f.isSound = true) {name : String} {file : File}
    (hmem : (name, file) ∈ f.label.files) : f.file? name = some file := by
  obtain ⟨listing, children⟩ := f
  obtain ⟨_, hnodup, _⟩ := isSound_node_iff.mp h
  have hfiles : (listing.files.map (·.1)).Nodup := (List.nodup_append.mp hnodup).1
  cases hlookup : file? (.node listing children) name with
  | none =>
    have hnot := List.lookup_eq_none_iff.mp hlookup (name, file) hmem
    simp at hnot
  | some other =>
    have hother := mem_of_file? hlookup
    have hsame := List.inj_on_of_nodup_map hfiles hother hmem rfl
    rw [(Prod.mk.inj hsame).2]

/-- No folder has the name of a file. -/
theorem folder?_eq_none {f : Folder} (h : f.isSound = true) {name : String} {file : File}
    (hfile : f.file? name = some file) : f.folder? name = none := by
  obtain ⟨listing, children⟩ := f
  obtain ⟨_, hnodup, _⟩ := isSound_node_iff.mp h
  have hapart := (List.nodup_append.mp hnodup).2.2
  refine List.find?_eq_none.mpr fun g hg hname => ?_
  have hfiles : name ∈ listing.files.map (·.1) := List.mem_map.mpr ⟨_, mem_of_file? hfile, rfl⟩
  have hfolders : g.label.name ∈ children.map (·.label.name) := List.mem_map.mpr ⟨g, hg, rfl⟩
  exact hapart name hfiles _ hfolders (of_decide_eq_true hname).symm

/-- A folder shows its files under their names. -/
theorem look_eq_file {f : Folder} (h : f.isSound = true) {name : String} {file : File} :
    f.look name = .ok (.file file) ↔ f.file? name = some file := by
  unfold look
  constructor
  · intro hlook
    split at hlook
    · cases hlook
    · split at hlook
      · rename_i hfile
        cases hlook
        exact hfile
      · cases hlook
  · intro hfile
    rw [folder?_eq_none h hfile, hfile]

end Folder

/-! ### The way back from a visit -/

/-- The path of a visit leads to the folder visited. -/
theorem reach_visit {disk : Disk} {keep : String → Bool} {f : Folder} {path : String} (hpath : path ≠ "")
    (hsound : f.isSound = true) (hreach : disk.reach path = .ok (.folder f)) :
    ∀ v ∈ visits keep path f, v.path ≠ "" ∧
      ∃ g : Folder, g.isSound = true ∧ g.label.files = v.files ∧ disk.reach v.path = .ok (.folder g) := by
  induction f using Tree.induction generalizing path with
  | h listing children ih =>
    intro v hv
    rw [visits_node] at hv
    rcases List.mem_cons.mp hv with rfl | hv
    · exact ⟨hpath, _, hsound, rfl, hreach⟩
    · obtain ⟨sub, hsub, hin⟩ := List.mem_flatMap.mp hv
      obtain ⟨hnames, _, hall⟩ := Folder.isSound_node_iff.mp hsound
      have hname : Path.isName sub.label.name = true :=
        hnames _ (List.mem_append_right _ (List.mem_map.mpr ⟨sub, hsub, rfl⟩))
      have hlook : Folder.look (.node listing children) sub.label.name = .ok (.folder sub) := by
        unfold Folder.look
        rw [Folder.folder?_of_mem hsound hsub]
      split at hin
      · refine ih sub hsub (Path.join_ne_empty path hname) (hall sub hsub) ?_ v hin
        rw [Disk.reach_join hpath hname hreach, hlook]
      · cases hin

/-- The path of a visited file leads to that file. -/
theorem reach_file {disk : Disk} {keep : String → Bool} {f : Folder} {path : String} (hpath : path ≠ "")
    (hsound : f.isSound = true) (hreach : disk.reach path = .ok (.folder f))
    {entry : String × String × File} (h : entry ∈ Disk.filesOf (visits keep path f)) :
    disk.reach (Path.join entry.1 entry.2.1) = .ok (.file entry.2.2) := by
  obtain ⟨v, hv, hentry⟩ := List.mem_flatMap.mp h
  obtain ⟨⟨name, file⟩, hmem, rfl⟩ := List.mem_map.mp hentry
  obtain ⟨hne, g, hg, hfiles, hgreach⟩ := reach_visit hpath hsound hreach v hv
  rw [← hfiles] at hmem
  have hname : Path.isName name = true := by
    obtain ⟨listing, children⟩ := g
    exact (Folder.isSound_node_iff.mp hg).1 _ (List.mem_append_left _ (List.mem_map.mpr ⟨_, hmem, rfl⟩))
  rw [Disk.reach_join hne hname hgreach]
  exact (Folder.look_eq_file hg).mpr (Folder.file?_of_mem hg hmem)

end Scrutiny
