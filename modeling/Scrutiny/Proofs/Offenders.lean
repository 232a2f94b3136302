import Mathlib.Data.List.Find
import Scrutiny.Check.Preflight
import Scrutiny.Proofs.Contents

/-! What the preflight reports, without its walks.

Below a path that leads to a folder, each check of the preflight is a question about the reachable files in their order:
how many are named like sources, or which is the first that offends. Where the folder lies does not enter into it: a
file has to be UTF-8 by the end of its path, and that is the end of its name. -/
namespace Scrutiny

theorem Outcome.firstFinding_map {α β γ : Type} (judge : β → Outcome (Option γ)) (g : α → β) (as : List α) :
    firstFinding judge (as.map g) = firstFinding (judge ∘ g) as := by
  induction as with
  | nil => rfl
  | cons a rest ih =>
    simp only [List.map_cons, firstFinding, ih]
    rfl

/-- A path ends as its last component does. -/
theorem Text.endsWith_join {tail : String} (htail : '/' ∉ tail.toList) (path : String) {name : String}
    (hname : '/' ∉ name.toList) : endsWith tail (Path.join path name) = endsWith tail name := by
  rcases Path.join_eq_or path hname with ⟨_, hjoin⟩ | ⟨before, hjoin⟩
  · rw [hjoin]
  · have hlist : (before ++ "/" ++ name).toList = before.toList ++ '/' :: name.toList := by
      simp [String.toList_append]
    rw [hjoin, Bool.eq_iff_iff, endsWith_iff, endsWith_iff, hlist]
    constructor
    · intro hsuffix
      -- Of two ends of one text one is the end of the other; the end without a slash is the shorter.
      rcases List.suffix_or_suffix_of_suffix hsuffix (List.suffix_append _ ('/' :: name.toList)) with hshort | hlong
      · rcases List.suffix_cons_iff.mp hshort with heq | hin
        · exact absurd (by rw [heq]; exact List.mem_cons_self) htail
        · exact hin
      · exact absurd (hlong.subset List.mem_cons_self) htail
    · exact fun hsuffix => hsuffix.trans ((List.suffix_cons _ _).trans (List.suffix_append _ _))

theorem isTextName_join_eq (path : String) {name : String} (h : '/' ∉ name.toList) :
    isTextName (Path.join path name) = isTextName name := by
  have hpy : '/' ∉ ".py".toList := by decide
  have htxt : '/' ∉ ".txt".toList := by decide
  rw [isTextName, isTextName, Text.endsWith_join hpy path h, Text.endsWith_join htxt path h]

theorem Disk.entry_of_folderAt? {disk : Disk} {path : String} {f : Folder} (h : disk.folderAt? path = some f) :
    disk.entry path = .ok (.folder f) := by
  unfold folderAt? at h
  split at h
  · rename_i hentry
    cases h
    exact hentry
  · cases h

theorem Disk.visitable_of_folderAt? {disk : Disk} {path : String} {f : Folder} (h : disk.folderAt? path = some f) :
    visitable path = .ok () := by
  obtain ⟨_, _, hnul⟩ := reach_of_entry (entry_of_folderAt? h)
  simp [visitable, hnul]

namespace Preflight
variable {c : Context} {f : Folder}

/-- The reachable files of a context. -/
abbrev leaves (c : Context) : List Leaf :=
  c.disk.reachable c.settings.directoriesToSkip c.path

theorem files_eq (h : c.disk.folderAt? c.path = some f) : files c = .ok ((leaves c).map (Leaf.met c.path)) := by
  rw [files, Disk.visitable_of_folderAt? h, Disk.filesOf_visitsOutside]
  rfl

theorem notUtf8_eq (h : c.disk.folderAt? c.path = some f) (hsound : f.isSound = true) :
    notUtf8 c = .ok (((leaves c).find? fun l => isTextName l.name && !l.file.isUtf8).map (·.name)) := by
  have hjudge : ∀ l ∈ leaves c, (isTextName (l.path c.path) && !l.file.isUtf8) =
      (isTextName l.name && !l.file.isUtf8) := by
    intro l hl
    rw [Leaf.path, isTextName_join_eq _ (Folder.slash_not_mem_name hsound (Disk.mem_contents_of_reachable h hl))]
  rw [notUtf8, files_eq h]
  show Except.ok _ = _
  rw [List.find?_map, Option.map_map, ← List.find?_congr hjudge]
  rfl

theorem marked_eq (h : c.disk.folderAt? c.path = some f) :
    marked c = .ok (((leaves c).find? (·.file.hasMark)).map (·.name)) := by
  rw [marked, files_eq h]
  show Except.ok _ = _
  rw [List.find?_map, Option.map_map]
  rfl

theorem tooLong_eq (h : c.disk.folderAt? c.path = some f) :
    tooLong c = firstFinding
      (fun l => do return if ← l.file.hasLines c.settings.maxNumberOfLines then some l.name else none)
      ((leaves c).filter fun l => Text.endsWith ".py" l.name) := by
  rw [tooLong, files_eq h]
  show firstFinding _ (((leaves c).map (Leaf.met c.path)).filter _) = _
  rw [List.filter_map, Outcome.firstFinding_map]
  rfl

end Preflight
end Scrutiny
