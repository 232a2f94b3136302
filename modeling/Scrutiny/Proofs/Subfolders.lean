import Scrutiny.Proofs.Contents

/-! The folders below a folder.

`Folder.subfolders` lists them, each with the names on the way to it, in the order in which a walk through everything
lists what it finds in the folders that it visits (`foldersOf_visits_eq`). In a sound folder they are what following
names leads to (`mem_subfolders_iff`), each of them once (`nodup_subfolders`). -/
namespace Scrutiny

/-- A folder below another one: the names of the folders on the way to it, and its own. -/
structure Subfolder where
  way : List String
  name : String
  deriving DecidableEq

namespace Subfolder

/-- The names that lead to the folder, its own the last. -/
def steps (s : Subfolder) : List String :=
  s.way ++ [s.name]

/-- The path of the folder that it is in. -/
def parentPath (start : String) (s : Subfolder) : String :=
  s.way.foldl Path.join start

theorem steps_ne_nil (s : Subfolder) : s.steps ≠ [] := by simp [steps]

end Subfolder

namespace Folder

/-- The folders below a folder: those directly in it, then those below each of them, in order. -/
def subfolders (f : Folder) : List Subfolder :=
  (f.spread (·.children.map (·.label.name))).map fun e => ⟨e.1, e.2⟩

theorem mem_names_iff {f : Folder} {name : String} :
    name ∈ f.children.map (·.label.name) ↔ ∃ g, f.folder? name = some g := by
  rw [← Option.isSome_iff_exists, folder?, List.find?_isSome]
  simp [eq_comm]

/-- The folders below a sound folder are what names lead to. -/
theorem mem_subfolders_iff {f : Folder} (h : f.isSound = true) {s : Subfolder} :
    s ∈ f.subfolders ↔ ∃ g, f.descend s.steps = some g := by
  have hspread : s ∈ f.subfolders ↔ (s.way, s.name) ∈ f.spread (·.children.map (·.label.name)) := by
    refine List.mem_map.trans ⟨?_, fun hs => ⟨_, hs, rfl⟩⟩
    rintro ⟨e, he, rfl⟩
    exact he
  rw [hspread, mem_spread_iff h, Subfolder.steps, descend_append]
  simp only [mem_names_iff, Option.bind_eq_some_iff, descend, Option.some.injEq]
  grind

theorem isName_of_mem_subfolders {f : Folder} (h : f.isSound = true) {s : Subfolder} (hs : s ∈ f.subfolders) :
    ∀ name ∈ s.steps, Path.isName name = true := by
  obtain ⟨g, hg⟩ := (mem_subfolders_iff h).mp hs
  exact (isName_of_descend h hg).1

/-- No two folders below a sound folder are in one place. -/
theorem nodup_subfolders {f : Folder} (h : f.isSound = true) : (f.subfolders.map Subfolder.steps).Nodup := by
  have hfolders (g : Folder) (hg : g.isSound = true) : ((g.children.map (·.label.name)).map id).Nodup := by
    obtain ⟨listing, children⟩ := g
    rw [List.map_id]
    exact (List.nodup_append.mp (isSound_node_iff.mp hg).2.1).2.1
  rw [subfolders, List.map_map]
  exact nodup_spread hfolders h

/-- The folders that a walk through everything lists, each with the path of the one it is in. -/
theorem foldersOf_visits_eq (f : Folder) (start : String) :
    (visits (fun _ => true) start f).flatMap (fun v => v.folders.map (v.path, ·)) =
      f.subfolders.map fun s => (s.parentPath start, s.name) := by
  have hall : ∀ e ∈ f.spread (·.children.map (·.label.name)), (e.1.all fun _ => true) = true :=
    fun e _ => by simp
  rw [flatMap_visits (·.children.map (·.label.name)) (fun _ _ _ => rfl),
    List.filter_eq_self.mpr hall, subfolders, List.map_map]
  rfl

end Folder

end Scrutiny
