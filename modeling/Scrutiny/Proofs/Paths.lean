import Scrutiny.Disk.Visit

/-! Paths and the names they are made of.

Joining a name to a path adds one step to it (`reach_join`): where the path leads to a folder, the longer one leads to
what the folder holds under that name. Names are told apart by how they end: the extension of a name ends it, and so
does the name end every path that it is joined to. -/
namespace Scrutiny

/-! ### Parts and ends of names -/

namespace Text

theorem endsWith_iff {tail whole : String} : endsWith tail whole = true ↔ tail.toList <:+ whole.toList := by
  unfold endsWith
  rw [List.isSuffixOf_iff_suffix]

theorem startsWith_iff {start whole : String} :
    startsWith start whole = true ↔ start.toList <+: whole.toList := by
  unfold startsWith
  rw [List.isPrefixOf_iff_prefix]

theorem contains_iff {part whole : List Char} : contains part whole = true ↔ part <:+: whole := by
  induction whole with
  | nil => simp [contains]
  | cons c rest ih => simp [contains, ih, List.infix_cons_iff]

theorem startsWith_append {mark first rest : String} (hmark : mark.toList.length = 1) (h : first ≠ "") :
    startsWith mark (first ++ rest) = startsWith mark first := by
  obtain ⟨c, hc⟩ := List.length_eq_one_iff.mp hmark
  obtain ⟨d, more, hfirst⟩ := List.exists_cons_of_ne_nil fun hnil => h (String.toList_inj.mp hnil)
  simp [startsWith, hc, hfirst, String.toList_append, List.isPrefixOf]

theorem startsWith_slash_of_not_mem {name : String} (h : '/' ∉ name.toList) : startsWith "/" name = false := by
  rw [Bool.eq_false_iff]
  intro hstart
  exact h ((startsWith_iff.mp hstart).subset (by simp))

end Text

namespace Path

theorem toList_suffix_join (path name : String) : name.toList <:+ (join path name).toList := by
  unfold join
  split
  · exact List.suffix_refl _
  · split
    · rw [String.toList_append]
      exact List.suffix_append _ _
    · rw [String.toList_append]
      exact List.suffix_append _ _

theorem extension_suffix (name : String) : (extension name).toList <:+ name.toList := by
  unfold extension
  simp only
  split
  · exact List.nil_suffix
  · rename_i hdots
    -- The name backwards is its extension without the dot, the dot, and what stands before.
    have hsplit := List.takeWhile_append_dropWhile (p := (· ≠ '.')) (l := name.toList.reverse)
    cases hd : name.toList.reverse.dropWhile (· ≠ '.') with
    | nil =>
      rw [hd] at hdots
      exact absurd rfl hdots
    | cons dot before =>
      have hdot : dot = '.' := by
        have hhead := List.head?_dropWhile_not (· ≠ '.') name.toList.reverse
        rw [hd] at hhead
        simpa using hhead
      rw [hd, hdot] at hsplit
      have hname : name.toList =
          before.reverse ++ '.' :: (name.toList.reverse.takeWhile (· ≠ '.')).reverse := by
        have := congrArg List.reverse hsplit
        simpa using this.symm
      rw [String.toList_ofList]
      exact ⟨before.reverse, hname.symm⟩

end Path

/-! ### Components -/

namespace Text

theorem pieces_append (separator : Char) (first second : List Char) :
    pieces separator (first ++ separator :: second) = pieces separator first ++ pieces separator second := by
  induction first with
  | nil => simp [pieces]
  | cons c rest ih =>
    simp only [List.cons_append, pieces, ih]
    split
    · rfl
    · cases hp : pieces separator rest with
      | nil => exact absurd hp (pieces_ne_nil separator rest)
      | cons piece more => rfl

theorem pieces_of_not_mem {separator : Char} {text : List Char} (h : separator ∉ text) :
    pieces separator text = [text] := by
  induction text with
  | nil => rfl
  | cons c rest ih =>
    obtain ⟨hc, hrest⟩ := List.ne_and_not_mem_of_not_mem_cons h
    simp only [pieces, ih hrest]
    rw [if_neg fun heq => hc heq.symm]
    rfl

theorem cut_append_slash (first second : String) :
    cut '/' (first ++ "/" ++ second) = cut '/' first ++ cut '/' second := by
  have hlist : (first ++ "/" ++ second).toList = first.toList ++ '/' :: second.toList := by
    simp [String.toList_append]
  rw [cut, hlist, pieces_append, List.map_append]
  rfl

theorem cut_of_not_mem {name : String} (h : '/' ∉ name.toList) : cut '/' name = [name] := by
  unfold cut
  rw [pieces_of_not_mem h]
  simp

theorem cut_append {path name : String} (h : '/' ∉ name.toList) :
    cut '/' (path ++ "/" ++ name) = cut '/' path ++ [name] := by
  rw [cut_append_slash, cut_of_not_mem h]

end Text

/-! ### Where a name leads -/

namespace Path

/-- Whether a text can be the name of something in a folder. -/
def isName (name : String) : Bool :=
  name ≠ "" && name ≠ "." && name ≠ ".." && !name.toList.contains '/' && !name.toList.contains '\x00' &&
    name.utf8ByteSize ≤ Disk.longestName

theorem isName_iff {name : String} : isName name = true ↔
    name ≠ "" ∧ name ≠ "." ∧ name ≠ ".." ∧ '/' ∉ name.toList ∧ '\x00' ∉ name.toList ∧
      name.utf8ByteSize ≤ Disk.longestName := by
  simp [isName, and_assoc]

theorem join_ne_empty (path : String) {name : String} (h : isName name = true) : join path name ≠ "" := by
  intro hjoin
  have hsuffix := toList_suffix_join path name
  rw [hjoin] at hsuffix
  exact (isName_iff.mp h).1 (String.toList_inj.mp (List.suffix_nil.mp hsuffix))

end Path

/-- What a folder holds under a name. -/
def Folder.look (f : Folder) (name : String) : Except DeadEnd Entry :=
  match f.folder? name with
  | some sub => .ok (.folder sub)
  | none =>
    match f.file? name with
    | some file => .ok (.file file)
    | none => .error .missing

namespace Disk

/-- Follows one component, from the folders gone through and an entry. -/
def step : List Folder × Entry → String → Except DeadEnd (List Folder × Entry)
  | (_, .file _), _ => .error .belowFile
  | (trail, .folder f), part =>
    if part = "" || part = "." then .ok (trail, .folder f)
    else if part = ".." then
      match trail with
      | up :: more => .ok (more, .folder up)
      | [] => .ok ([], .folder f)
    else if longestName < part.utf8ByteSize then .error .tooLong
    else (f.look part).map (f :: trail, ·)

theorem follow_cons (trail : List Folder) (entry : Entry) (part : String) (rest : List String) :
    follow trail entry (part :: rest) =
      (step (trail, entry) part).bind fun reached => follow reached.1 reached.2 rest := by
  cases entry with
  | file file => rfl
  | folder f =>
    simp only [follow, step, Folder.look]
    split
    · rfl
    · split
      · cases trail <;> rfl
      · split
        · rfl
        · cases f.folder? part with
          | some sub => rfl
          | none => cases f.file? part <;> rfl

/-- Following a path is taking its steps one after the other. -/
theorem follow_eq (trail : List Folder) (entry : Entry) (parts : List String) :
    follow trail entry parts = (parts.foldlM step (trail, entry)).map (·.2) := by
  induction parts generalizing trail entry with
  | nil => rfl
  | cons part rest ih =>
    rw [follow_cons, List.foldlM_cons]
    cases step (trail, entry) part with
    | error deadEnd => rfl
    | ok reached => exact ih reached.1 reached.2

/-- An empty component before another one changes nothing. -/
theorem step_blank (reached : List Folder × Entry) (part : String) :
    (do step (← step reached "") part) = step reached part := by
  obtain ⟨trail, entry⟩ := reached
  cases entry <;> rfl

theorem step_name {name : String} (h : Path.isName name = true) (trail : List Folder) (f : Folder) :
    step (trail, .folder f) name = (f.look name).map (f :: trail, ·) := by
  obtain ⟨hempty, hdot, hdots, _, _, hsize⟩ := Path.isName_iff.mp h
  have hfits : ¬ longestName < name.utf8ByteSize := by omega
  simp only [step, hempty, hdot, hdots, hfits, decide_false, Bool.or_self, Bool.false_eq_true, if_false]

/-- Where a path leads, whatever its length. -/
def reach (disk : Disk) (path : String) : Except DeadEnd Entry :=
  follow [] (.folder disk.top) (disk.components path)

/-- After components that lead to a folder, one more is one more step from there. -/
theorem follow_append {top f : Folder} {parts : List String}
    (h : follow [] (.folder top) parts = .ok (.folder f)) :
    ∃ trail, ∀ part, follow [] (.folder top) (parts ++ [part]) = (step (trail, .folder f) part).map (·.2) := by
  rw [follow_eq] at h
  cases hsteps : parts.foldlM step ([], .folder top) with
  | error deadEnd => rw [hsteps] at h; cases h
  | ok reached =>
    obtain ⟨trail, entry⟩ := reached
    rw [hsteps] at h
    cases h
    refine ⟨trail, fun part => ?_⟩
    rw [follow_eq, List.foldlM_append, hsteps]
    show ([part].foldlM step (trail, .folder f)).map (·.2) = _
    rw [List.foldlM_cons]
    cases step (trail, .folder f) part <;> rfl

theorem follow_append_blank (top : Folder) (parts : List String) (name : String) :
    follow [] (.folder top) (parts ++ [""] ++ [name]) = follow [] (.folder top) (parts ++ [name]) := by
  simp only [follow_eq, List.append_assoc, List.singleton_append, List.foldlM_append]
  congr 1
  congr 1
  funext reached
  simp only [List.foldlM_cons, List.foldlM_nil, ← step_blank reached name, bind_assoc]

/-- What is put after a path does not change where it starts. -/
theorem components_append (disk : Disk) {path : String} (hpath : path ≠ "") (rest : String) :
    disk.components (path ++ rest) =
      (if Text.startsWith "/" path then [] else disk.way) ++ Text.cut '/' (path ++ rest) := by
  rw [components, Text.startsWith_append (by decide) hpath]

/-- A component joined to a path is one step more. -/
theorem reach_join_step {disk : Disk} {path : String} {f : Folder} (hpath : path ≠ "")
    (h : disk.reach path = .ok (.folder f)) :
    ∃ trail, ∀ part : String, '/' ∉ part.toList →
      disk.reach (Path.join path part) = (step (trail, .folder f) part).map (·.2) := by
  unfold reach at h
  obtain ⟨trail, htrail⟩ := follow_append h
  refine ⟨trail, fun part hslash => ?_⟩
  have hrelative := Text.startsWith_slash_of_not_mem hslash
  unfold reach Path.join
  rw [hrelative]
  by_cases hend : Text.endsWith "/" path = true
  · obtain ⟨before, hbefore⟩ := Text.endsWith_iff.mp hend
    have hpath' : path = String.ofList before ++ "/" ++ "" := by
      rw [← String.toList_inj, ← hbefore]
      simp
    have hcut : Text.cut '/' path = Text.cut '/' (String.ofList before) ++ [""] := by
      rw [hpath', Text.cut_append (by simp)]
    have hjoin : path ++ part = String.ofList before ++ "/" ++ part := by
      rw [hpath']
      simp
    simp only [hend, Bool.or_true, Bool.false_eq_true, if_false, if_true]
    rw [components_append disk hpath, hjoin, Text.cut_append hslash, ← List.append_assoc, ← follow_append_blank,
      List.append_assoc _ _ [""], ← hcut]
    exact htrail part
  · simp only [hpath, hend, decide_false, Bool.or_self, Bool.false_eq_true, if_false]
    rw [String.append_assoc, components_append disk hpath, ← String.append_assoc, Text.cut_append hslash,
      ← List.append_assoc]
    exact htrail part

/-- A name joined to the path of a folder leads to what the folder holds under it. -/
theorem reach_join {disk : Disk} {path name : String} {f : Folder} (hpath : path ≠ "")
    (hname : Path.isName name = true) (h : disk.reach path = .ok (.folder f)) :
    disk.reach (Path.join path name) = f.look name := by
  obtain ⟨trail, hstep⟩ := reach_join_step hpath h
  rw [hstep name (Path.isName_iff.mp hname).2.2.2.1, step_name hname]
  cases f.look name <;> rfl

/-! ### Entries -/

theorem entry_congr {disk disk' : Disk} {path : String} (h : disk'.reach path = disk.reach path) :
    disk'.entry path = disk.entry path := by
  unfold reach at h
  unfold entry
  rw [h]

theorem reach_of_entry {disk : Disk} {path : String} {entry : Entry} (h : disk.entry path = .ok entry) :
    disk.reach path = .ok entry ∧ path ≠ "" ∧ '\x00' ∉ path.toList := by
  unfold Disk.entry at h
  split at h
  · cases h
  · rename_i hnul
    split at h
    · cases h
    · split at h
      · cases h
      · rename_i hstart
        refine ⟨h, fun hempty => hstart (by simp [hempty]), by simpa using hnul⟩

theorem reach_of_folderAt? {disk : Disk} {path : String} {f : Folder} (h : disk.folderAt? path = some f) :
    disk.reach path = .ok (.folder f) ∧ path ≠ "" := by
  unfold folderAt? at h
  split at h
  · rename_i hentry
    cases h
    obtain ⟨hreach, hne, _⟩ := reach_of_entry hentry
    exact ⟨hreach, hne⟩
  · cases h

/-- Where the working folder is the top, a proper name alone leads to what it holds under it. -/
theorem entry_of_isName {disk : Disk} {name : String} (hway : disk.way = []) (h : Path.isName name = true) :
    disk.entry name = disk.top.look name := by
  obtain ⟨hempty, _, _, hslash, hnul, hsize⟩ := Path.isName_iff.mp h
  have hfits : ¬ longestPath < name.utf8ByteSize := by
    unfold longestName at hsize
    unfold longestPath
    omega
  have hrelative := Text.startsWith_slash_of_not_mem hslash
  have hcomponents : disk.components name = [name] := by
    rw [components, hrelative, hway, Text.cut_of_not_mem hslash]
    rfl
  unfold entry
  rw [hcomponents, follow_cons, step_name h]
  simp only [List.contains_eq_mem, hnul, hfits, hempty, decide_false, Bool.false_eq_true, if_false]
  cases disk.top.look name <;> rfl

theorem folderAt?_of_isName {disk : Disk} {name : String} (hway : disk.way = []) (h : Path.isName name = true) :
    disk.folderAt? name = disk.top.folder? name := by
  unfold folderAt?
  rw [entry_of_isName hway h]
  unfold Folder.look
  cases disk.top.folder? name with
  | some sub => rfl
  | none => cases disk.top.file? name <;> rfl

theorem step_eq_file {trail trail' : List Folder} {f : Folder} {part : String} {file : File}
    (h : step (trail, .folder f) part = .ok (trail', .file file)) :
    part ≠ "" ∧ part ≠ "." ∧ part ≠ ".." ∧ part.utf8ByteSize ≤ longestName ∧ f.look part = .ok (.file file) := by
  simp only [step] at h
  split at h
  · cases h
  · rename_i hstays
    split at h
    · split at h <;> cases h
    · rename_i hup
      split at h
      · cases h
      · rename_i hfits
        cases hlook : f.look part with
        | error deadEnd => rw [hlook] at h; cases h
        | ok entry =>
          rw [hlook] at h
          cases h
          simp only [Bool.or_eq_true, decide_eq_true_eq, not_or] at hstays
          exact ⟨hstays.1, hstays.2, hup, by omega, rfl⟩

/-- Only a proper name leads from a folder to a file in it. -/
theorem look_of_entry {disk : Disk} {path part : String} {f : Folder} {file : File}
    (hfolder : disk.folderAt? path = some f) (hslash : '/' ∉ part.toList)
    (h : disk.entry (Path.join path part) = .ok (.file file)) :
    Path.isName part = true ∧ f.look part = .ok (.file file) := by
  obtain ⟨hpath, hne⟩ := reach_of_folderAt? hfolder
  obtain ⟨trail, hstep⟩ := reach_join_step hne hpath
  obtain ⟨hreach, _, hnul⟩ := reach_of_entry h
  have hpart : '\x00' ∉ part.toList := fun hmem => hnul ((Path.toList_suffix_join path part).subset hmem)
  rw [hstep part hslash] at hreach
  cases hs : step (trail, .folder f) part with
  | error deadEnd => rw [hs] at hreach; cases hreach
  | ok reached =>
    obtain ⟨trail', entry⟩ := reached
    rw [hs] at hreach
    cases hreach
    obtain ⟨hempty, hdot, hdots, hsize, hlook⟩ := step_eq_file hs
    exact ⟨Path.isName_iff.mpr ⟨hempty, hdot, hdots, hslash, hpart, hsize⟩, hlook⟩

end Disk
end Scrutiny
