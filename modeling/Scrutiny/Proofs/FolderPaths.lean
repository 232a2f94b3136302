import Mathlib.Data.List.Forall2
import Scrutiny.Check.Layout
import Scrutiny.Proofs.Location
import Scrutiny.Proofs.Outcome
import Scrutiny.Proofs.Requests
import Scrutiny.Proofs.Subfolders

/-! The folders of a project, as they are listed.

A listing should name each folder below a project once, by its path from the project on. The listing cuts one character
more than the project's path off the path of a walk: the slash after it, or, where the path ends in a slash already, the
first character of a name (`clipped`). So it is right for a path that does not end in a slash, and else only where no
folder lies in another one (`listsFolders_iff`). -/
namespace Scrutiny

namespace Subfolder

/-- The path from the start on, with a dot for the start itself. -/
def spelling (s : Subfolder) : String :=
  (if s.way = [] then "." else "/".intercalate s.way) ++ "/" ++ s.name

/-- The same without the first character of the first name on the way. -/
def clipped (s : Subfolder) : String :=
  let rest := String.ofList (("/".intercalate s.way).toList.drop 1)
  (if rest = "" then "." else rest) ++ "/" ++ s.name

theorem spells_spelling (s : Subfolder) : Spells s.steps s.spelling := by
  unfold spelling
  split
  · next hway => exact .inr (by simp [steps, hway])
  · next hway =>
    left
    rw [steps, String.intercalate_append_of_ne_nil hway (List.cons_ne_nil _ _), String.intercalate_singleton]

theorem clipped_eq_spelling {s : Subfolder} (h : s.way = []) : s.clipped = s.spelling := by
  simp [clipped, spelling, h]

end Subfolder

/-! ### The listing -/

/-- A slash at the end of a path leads nowhere else. -/
theorem Disk.folderAt?_append_slash {disk : Disk} {path : String} {f : Folder} (h : disk.folderAt? path = some f)
    (hfits : (path ++ "/").utf8ByteSize ≤ longestPath) : disk.folderAt? (path ++ "/") = some f := by
  have hpath := isSound_of_entry (entry_of_folderAt? h)
  have hslash : Path.IsSound (path ++ "/") := ⟨by simp, by simp [hpath.nul]⟩
  obtain ⟨trail, htrail⟩ := follow_append (reach_of_folderAt? h).1
  have hreach : disk.reach (path ++ "/") = .ok (.folder f) := by
    have hcut := Text.cut_append_slash path ""
    rw [String.append_empty] at hcut
    rw [reach, components_append disk hpath.nonempty, hcut, ← List.append_assoc]
    exact htrail ""
  rw [folderAt?, entry_eq_reach hslash hfits, hreach]

theorem Path.foldl_join {way : List String} (hne : way ≠ []) (h : ∀ name ∈ way, isName name = true) (start : String) :
    way.foldl join start = join start "" ++ "/".intercalate way := by
  induction way generalizing start with
  | nil => exact absurd rfl hne
  | cons name rest ih =>
    obtain ⟨hname, hrest⟩ := List.forall_mem_cons.mp h
    rw [List.foldl_cons]
    cases rest with
    | nil => rw [List.foldl_nil, String.intercalate_singleton, join_eq_append start (isName_iff.mp hname).2.2.2.1]
    | cons next rest =>
      rw [ih (List.cons_ne_nil _ _) hrest, join_join_empty start hname, String.intercalate_cons_cons]
      simp [String.append_assoc]

namespace Project
variable {disk : Disk} {p : Project} {f : Folder}

theorem folders_eq (h : disk.folderAt? p.path = some f) :
    p.folders disk = f.subfolders.map fun s => p.relative (s.parentPath p.path) ++ "/" ++ s.name := by
  have hmap := congrArg (List.map fun q : String × String => p.relative q.1 ++ "/" ++ q.2)
    (f.foldersOf_visits_eq p.path)
  rw [List.map_flatMap, List.map_map] at hmap
  simp only [List.map_map] at hmap
  unfold folders Disk.visitsFrom
  rw [h]
  exact hmap

theorem relative_append (p : Project) (rest : String) :
    p.relative (p.path ++ rest) =
      if String.ofList (rest.toList.drop 1) = "" then "." else String.ofList (rest.toList.drop 1) := by
  have hdrop : (p.path ++ rest).toList.drop (p.path.length + 1) = rest.toList.drop 1 := by
    rw [String.toList_append, ← String.length_toList, List.drop_length_add_append]
  rw [relative, hdrop]

theorem relative_self (p : Project) : p.relative p.path = "." := by
  have hself := p.relative_append ""
  rwa [String.append_empty] at hself

/-- Without a slash at the end of the project's path, what is left of a path is the way to it. -/
theorem relative_parentPath (hne : p.path ≠ "") (hend : Text.endsWith "/" p.path = false) {s : Subfolder}
    (h : ∀ name ∈ s.steps, Path.isName name = true) :
    p.relative (s.parentPath p.path) ++ "/" ++ s.name = s.spelling := by
  obtain ⟨way, name⟩ := s
  cases way with
  | nil =>
    show p.relative p.path ++ "/" ++ name = _
    rw [relative_self]
    rfl
  | cons folder rest =>
    have hway : ∀ part ∈ folder :: rest, Path.isName part = true := fun part hpart =>
      h part (List.mem_append_left _ hpart)
    have hleft : "/".intercalate (folder :: rest) ≠ "" := Spells.ne_empty (.inl rfl) (List.cons_ne_nil _ _) hway
    have hgap : p.path ++ "/" ++ "/".intercalate (folder :: rest) =
        p.path ++ ("/" ++ "/".intercalate (folder :: rest)) :=
      String.append_assoc ..
    show p.relative ((folder :: rest).foldl Path.join p.path) ++ "/" ++ name = _
    rw [Path.foldl_join (List.cons_ne_nil _ _) hway, Path.join_empty hne hend, hgap, relative_append]
    have hdrop : String.ofList (("/" ++ "/".intercalate (folder :: rest)).toList.drop 1) =
        "/".intercalate (folder :: rest) := by
      rw [String.toList_append]
      exact String.ofList_toList
    rw [hdrop, if_neg hleft, Subfolder.spelling, if_neg (List.cons_ne_nil _ _)]

/-- With one, a character of it is lost. -/
theorem relative_parentPath_of_slash (hend : Text.endsWith "/" p.path = true) {s : Subfolder}
    (h : ∀ name ∈ s.steps, Path.isName name = true) :
    p.relative (s.parentPath p.path) ++ "/" ++ s.name = s.clipped := by
  obtain ⟨way, name⟩ := s
  cases way with
  | nil =>
    show p.relative p.path ++ "/" ++ name = _
    rw [relative_self]
    rfl
  | cons folder rest =>
    have hway : ∀ part ∈ folder :: rest, Path.isName part = true := fun part hpart =>
      h part (List.mem_append_left _ hpart)
    have hjoin : Path.join p.path "" = p.path := by
      have hempty : Text.startsWith "/" "" = false := by decide
      simp [Path.join, hempty, hend]
    show p.relative ((folder :: rest).foldl Path.join p.path) ++ "/" ++ name = _
    rw [Path.foldl_join (List.cons_ne_nil _ _) hway, hjoin, relative_append]
    rfl

end Project

/-! ### What is lost -/

namespace Folder

/-- The number of characters in names. -/
def weight (names : List String) : Nat :=
  (names.flatMap String.toList).length

theorem weight_cons (name : String) (rest : List String) :
    weight (name :: rest) = name.toList.length + weight rest := by
  rw [weight, List.flatMap_cons, List.length_append]
  rfl

theorem weight_append (first second : List String) : weight (first ++ second) = weight first + weight second := by
  rw [weight, List.flatMap_append, List.length_append]
  rfl

theorem weight_flatMap_le {α : Type} {as : List α} {f g : α → List String} (h : ∀ a ∈ as, weight (f a) ≤ weight (g a)) :
    weight (as.flatMap f) ≤ weight (as.flatMap g) := by
  induction as with
  | nil => exact Nat.le_refl _
  | cons a rest ih =>
    obtain ⟨ha, hrest⟩ := List.forall_mem_cons.mp h
    rw [List.flatMap_cons, List.flatMap_cons, weight_append, weight_append]
    exact Nat.add_le_add ha (ih hrest)

/-- What loses characters in one place, and gains none elsewhere, loses some on the whole. -/
theorem weight_flatMap_lt {α : Type} {as : List α} {f g : α → List String} (h : ∀ a ∈ as, weight (f a) ≤ weight (g a))
    {a : α} (ha : a ∈ as) (hless : weight (f a) < weight (g a)) : weight (as.flatMap f) < weight (as.flatMap g) := by
  obtain ⟨before, after, rfl⟩ := List.append_of_mem ha
  have hbefore := weight_flatMap_le fun k hk => h k (List.mem_append_left _ hk)
  have hafter := weight_flatMap_le fun k hk => h k (List.mem_append_right _ (List.mem_cons_of_mem _ hk))
  simp only [List.flatMap_append, List.flatMap_cons, weight_append]
  omega

theorem steps_append_slash (first second : String) : steps (first ++ "/" ++ second) = steps first ++ steps second := by
  rw [steps, Text.cut_append_slash, List.filter_append]
  rfl

theorem steps_of_isName {names : List String} (h : ∀ name ∈ names, Path.isName name = true) :
    names.filter (fun part => part ≠ "" && part ≠ ".") = names := by
  refine List.filter_eq_self.mpr fun name hname => ?_
  obtain ⟨hempty, hdot, _⟩ := Path.isName_iff.mp (h name hname)
  simp [hempty, hdot]

/-- A text spells the names of its steps, and no other ones. -/
theorem steps_of_spells {names : List String} {text : String} (h : Spells names text) (hne : names ≠ [])
    (hnames : ∀ name ∈ names, Path.isName name = true) : steps text = names := by
  rcases h.cut_eq hne hnames with hcut | hcut
  · rw [steps, hcut, steps_of_isName hnames]
  · rw [steps, hcut, List.filter_cons_of_neg (by simp), steps_of_isName hnames]

/-- A dot in place of nothing is no step. -/
theorem steps_dot (text : String) : steps (if text = "" then "." else text) = steps text := by
  split
  · next hempty => rw [hempty]; decide
  · rfl

end Folder

/-- The steps of a clipped path are those of the names with the first character taken off. -/
theorem Subfolder.steps_clipped {folder name : String} {rest : List String} {c : Char} {cs : List Char}
    (hchars : folder.toList = c :: cs) (hnoslash : ∀ part ∈ folder :: rest ++ [name], '/' ∉ part.toList) :
    Folder.steps (clipped ⟨folder :: rest, name⟩) =
      (String.ofList cs :: rest ++ [name]).filter fun part => part ≠ "" && part ≠ "." := by
  obtain ⟨hfolder, hbelow⟩ := List.forall_mem_cons.mp hnoslash
  have hsplit : folder = String.singleton c ++ String.ofList cs := by
    rw [← String.toList_inj, hchars]
    simp
  have hleft : String.ofList (("/".intercalate (folder :: rest)).toList.drop 1) =
      "/".intercalate (String.ofList cs :: rest) := by
    rw [hsplit, String.intercalate_cons_append, String.toList_append, String.toList_singleton]
    exact String.ofList_toList
  have htail : ∀ part ∈ String.ofList cs :: rest ++ [name], '/' ∉ part.toList := by
    refine List.forall_mem_cons.mpr ⟨fun hmem => hfolder ?_, hbelow⟩
    rw [hchars]
    exact List.mem_cons_of_mem _ (by simpa using hmem)
  unfold clipped
  simp only [hleft]
  rw [Folder.steps_append_slash, Folder.steps_dot, ← Folder.steps_append_slash]
  conv => lhs; arg 1; arg 2; rw [← String.intercalate_singleton (s := "/") (t := name)]
  rw [← String.intercalate_append_of_ne_nil (List.cons_ne_nil _ _) (List.cons_ne_nil _ _), Folder.steps,
    Text.cut_intercalate (by simp) htail]

/-- On the way through a folder, a character of its name is lost. -/
theorem Subfolder.weight_clipped {s : Subfolder} (h : ∀ name ∈ s.steps, Path.isName name = true) (hdeep : s.way ≠ []) :
    Folder.weight (Folder.steps s.clipped) < Folder.weight s.steps := by
  obtain ⟨_ | ⟨folder, rest⟩, name⟩ := s
  · exact absurd rfl hdeep
  have hnoslash : ∀ part ∈ folder :: rest ++ [name], '/' ∉ part.toList := fun part hpart =>
    (Path.isName_iff.mp (h part hpart)).2.2.2.1
  obtain ⟨c, cs, hchars⟩ := List.exists_cons_of_ne_nil fun hnil =>
    (Path.isName_iff.mp (h folder List.mem_cons_self)).1 (String.toList_inj.mp hnil)
  have hless : Folder.weight (Folder.steps (Subfolder.clipped ⟨folder :: rest, name⟩)) ≤
      Folder.weight (String.ofList cs :: rest ++ [name]) := by
    rw [steps_clipped hchars hnoslash]
    exact (List.filter_sublist.flatMap String.toList).length_le
  refine Nat.lt_of_le_of_lt hless ?_
  simp only [steps, List.cons_append, Folder.weight_cons, String.toList_ofList, hchars, List.length_cons]
  omega

/-! ### When the listing is right -/

/-- Texts that name each folder below a folder once, in some order, by its path from there on. -/
def ListsFolders (f : Folder) (texts : List String) : Prop :=
  ∃ ways : List (List String), ways.Nodup ∧ (∀ way, way ∈ ways ↔ way ≠ [] ∧ ∃ g, f.descend way = some g) ∧
    List.Forall₂ Spells ways texts

namespace Folder
variable {f : Folder}

theorem mem_steps_iff (h : f.isSound = true) {way : List String} :
    way ∈ f.subfolders.map Subfolder.steps ↔ way ≠ [] ∧ ∃ g, f.descend way = some g := by
  rw [List.mem_map]
  constructor
  · rintro ⟨s, hs, rfl⟩
    exact ⟨s.steps_ne_nil, (mem_subfolders_iff h).mp hs⟩
  · rintro ⟨hne, hleads⟩
    obtain rfl | ⟨init, last, rfl⟩ := List.eq_nil_or_concat way
    · exact absurd rfl hne
    · rw [List.concat_eq_append] at hleads ⊢
      exact ⟨⟨init, last⟩, (mem_subfolders_iff h).mpr hleads, rfl⟩

theorem listsFolders_spellings (h : f.isSound = true) : ListsFolders f (f.subfolders.map Subfolder.spelling) := by
  refine ⟨f.subfolders.map Subfolder.steps, nodup_subfolders h, fun way => mem_steps_iff h, ?_⟩
  rw [List.forall₂_map_left_iff, List.forall₂_map_right_iff, List.forall₂_same]
  exact fun s _ => s.spells_spelling

/-- What is listed has as many characters as all the folders' ways have. -/
theorem weight_of_listsFolders (h : f.isSound = true) {texts : List String} (hlists : ListsFolders f texts) :
    weight (texts.flatMap steps) = weight (f.subfolders.flatMap Subfolder.steps) := by
  obtain ⟨ways, hnodup, hmem, hspells⟩ := hlists
  have hperm : ways.Perm (f.subfolders.map Subfolder.steps) :=
    (List.perm_ext_iff_of_nodup hnodup (nodup_subfolders h)).mpr fun way => (hmem way).trans (mem_steps_iff h).symm
  have hproper : ∀ way ∈ ways, way ≠ [] ∧ ∀ name ∈ way, Path.isName name = true := by
    intro way hway
    obtain ⟨s, hs, rfl⟩ := List.mem_map.mp (hperm.subset hway)
    exact ⟨s.steps_ne_nil, isName_of_mem_subfolders h hs⟩
  have hsame : List.Forall₂ (· = ·) ways (texts.map steps) := by
    rw [List.forall₂_map_right_iff]
    refine ((List.forall₂_and_left _ _).mpr ⟨hproper, hspells⟩).imp fun way text ⟨⟨hne, hnames⟩, htext⟩ => ?_
    exact (steps_of_spells htext hne hnames).symm
  rw [List.forall₂_eq_eq_eq] at hsame
  rw [List.flatMap_def, List.flatMap_def, ← hsame]
  exact (hperm.flatten.flatMap_right String.toList).length_eq

end Folder

/-- Once a folder lies in another one, clipped paths have fewer characters. -/
theorem Folder.weight_clipped_lt {f : Folder} (h : f.isSound = true) {s : Subfolder} (hs : s ∈ f.subfolders)
    (hdeep : s.way ≠ []) :
    weight (f.subfolders.flatMap fun k => steps k.clipped) < weight (f.subfolders.flatMap Subfolder.steps) := by
  have hless : ∀ k ∈ f.subfolders, weight (steps k.clipped) ≤ weight k.steps := by
    intro k hk
    have hnames := isName_of_mem_subfolders h hk
    by_cases hway : k.way = []
    · have hsame : steps k.clipped = k.steps := by
        rw [Subfolder.clipped_eq_spelling hway, steps_of_spells k.spells_spelling k.steps_ne_nil hnames]
      exact Nat.le_of_eq (congrArg weight hsame)
    · exact Nat.le_of_lt (Subfolder.weight_clipped hnames hway)
  exact weight_flatMap_lt hless hs (Subfolder.weight_clipped (isName_of_mem_subfolders h hs) hdeep)

/-- Whether no folder lies in a folder that lies in this one. -/
def Folder.IsFlat (f : Folder) : Prop :=
  ∀ way g, f.descend way = some g → way.length ≤ 1

namespace Project
variable {disk : Disk} {p : Project} {f : Folder}

theorem way_eq_nil_of_isFlat (hsound : f.isSound = true) (h : f.IsFlat) {s : Subfolder} (hs : s ∈ f.subfolders) :
    s.way = [] := by
  obtain ⟨g, hg⟩ := (Folder.mem_subfolders_iff hsound).mp hs
  have hlength := h _ g hg
  simp only [Subfolder.steps, List.length_append, List.length_singleton] at hlength
  exact List.eq_nil_of_length_eq_zero (by omega)

theorem folders_eq_clipped (h : disk.folderAt? p.path = some f) (hsound : f.isSound = true)
    (hend : Text.endsWith "/" p.path = true) : p.folders disk = f.subfolders.map Subfolder.clipped := by
  rw [folders_eq h]
  exact List.map_congr_left fun s hs =>
    relative_parentPath_of_slash hend (Folder.isName_of_mem_subfolders hsound hs)

theorem folders_eq_spellings (h : disk.folderAt? p.path = some f) (hsound : f.isSound = true)
    (hright : Text.endsWith "/" p.path = false ∨ f.IsFlat) : p.folders disk = f.subfolders.map Subfolder.spelling := by
  cases hend : Text.endsWith "/" p.path with
  | false =>
    rw [folders_eq h]
    exact List.map_congr_left fun s hs =>
      relative_parentPath (Disk.reach_of_folderAt? h).2 hend (Folder.isName_of_mem_subfolders hsound hs)
  | true =>
    have hflat : f.IsFlat := hright.resolve_left (by simp [hend])
    rw [folders_eq_clipped h hsound hend]
    exact List.map_congr_left fun s hs => Subfolder.clipped_eq_spelling (way_eq_nil_of_isFlat hsound hflat hs)

/-- The listing is right for a path without a slash at its end, and for a folder in which none lies in another one. -/
theorem listsFolders_iff (h : disk.folderAt? p.path = some f) (hsound : f.isSound = true) :
    ListsFolders f (p.folders disk) ↔ Text.endsWith "/" p.path = false ∨ f.IsFlat := by
  constructor
  · intro hlists
    refine Classical.or_iff_not_imp_left.mpr fun hend => Classical.byContradiction fun hdeep => ?_
    rw [Bool.not_eq_false] at hend
    -- All clipped paths together have fewer characters than the ways, so they cannot spell them.
    have hweight := Folder.weight_of_listsFolders hsound hlists
    rw [folders_eq_clipped h hsound hend, List.flatMap_map] at hweight
    obtain ⟨way, g, hg, hlong⟩ : ∃ way g, f.descend way = some g ∧ 1 < way.length := by
      simpa [Folder.IsFlat] using hdeep
    obtain ⟨s, hs, rfl⟩ := List.mem_map.mp
      ((Folder.mem_steps_iff hsound).mpr ⟨fun hnil => by simp [hnil] at hlong, g, hg⟩)
    have hway : s.way ≠ [] := fun hnil => by simp [Subfolder.steps, hnil] at hlong
    exact Nat.ne_of_lt (Folder.weight_clipped_lt hsound hs hway) hweight
  · intro hright
    rw [folders_eq_spellings h hsound hright]
    exact Folder.listsFolders_spellings hsound

end Project

/-! ### What the repository is asked -/

/-- Whether its names mean nothing to a repository: the first on the way starts neither a flag nor an option, and there
are no wildcards in any. -/
def Subfolder.isPlain (s : Subfolder) : Bool :=
  s.way.head?.all (fun first => !Text.startsWith "-" first && !Text.startsWith ":" first) &&
    s.steps.all fun name => name.toList.all (!Text.isWild ·)

theorem Subfolder.isPlain_iff {s : Subfolder} : s.isPlain = true ↔
    (∀ first ∈ s.way.head?, Text.startsWith "-" first = false ∧ Text.startsWith ":" first = false) ∧
      ∀ name ∈ s.steps, ∀ c ∈ name.toList, Text.isWild c = false := by
  rw [isPlain, Bool.and_eq_true, Option.all_eq_true]
  simp

theorem Subfolder.startsWith_spelling {s : Subfolder} (hnames : ∀ name ∈ s.steps, Path.isName name = true)
    (mark : String) (hmark : mark.toList.length = 1) (hdot : Text.startsWith mark "." = false)
    (h : ∀ first ∈ s.way.head?, Text.startsWith mark first = false) : Text.startsWith mark s.spelling = false := by
  obtain ⟨_ | ⟨first, rest⟩, name⟩ := s
  · show Text.startsWith mark ("." ++ ("/" ++ name)) = false
    rw [Text.startsWith_append hmark (by decide), hdot]
  · have hne : first ≠ "" := (Path.isName_iff.mp (hnames first List.mem_cons_self)).1
    have hspelling : Subfolder.spelling ⟨first :: rest, name⟩ =
        first ++ ("/".intercalate ("" :: rest) ++ "/" ++ name) := by
      rw [spelling, if_neg (List.cons_ne_nil _ _), ← String.append_assoc, ← String.append_assoc,
        ← String.intercalate_cons_append, String.append_empty]
    rw [hspelling, Text.startsWith_append hmark hne]
    exact h first rfl

/-- The question about a plain folder is whether something is tracked at it or below it. -/
theorem Repository.tracks_spelling (r : Repository) {s : Subfolder} (hnames : ∀ name ∈ s.steps, Path.isName name = true)
    (h : s.isPlain = true) : r.tracks s.spelling = .ok (r.holds s.steps) := by
  obtain ⟨hstart, hwild⟩ := Subfolder.isPlain_iff.mp h
  have hdash := s.startsWith_spelling hnames "-" (by decide) (by decide) fun first hfirst =>
    (hstart first hfirst).1
  have hcolon := s.startsWith_spelling hnames ":" (by decide) (by decide) fun first hfirst =>
    (hstart first hfirst).2
  exact r.tracks_of_plain s.spells_spelling s.steps_ne_nil hnames hdash hcolon hwild

/-- The first data directory in the path of a folder that holds something tracked. -/
def Repository.dataIn? (r : Repository) (data : List String) (s : Subfolder) : Option String :=
  if r.holds s.steps then data.find? (Text.hasText · s.spelling) else none

theorem Layout.trackedData_eq {c : Context} {p : Project} {f : Folder} {r : Repository}
    (h : c.disk.folderAt? p.path = some f) (hsound : f.isSound = true)
    (hright : Text.endsWith "/" p.path = false ∨ f.IsFlat) (hr : f.label.repository = some r)
    (hplain : ∀ s ∈ f.subfolders, s.isPlain = true) :
    trackedData c p = .ok (f.subfolders.findSome? (r.dataIn? c.settings.dataDirectories.items)) := by
  have hrepository : p.repository? c.disk = some r := by
    simp [Project.repository?, Disk.repositoryAt?, h, hr]
  have hfolder : ∀ s ∈ f.subfolders,
      firstFinding (fun data => do return if ← r.tracks s.spelling then some data else none)
        (c.settings.dataDirectories.items.filter fun data => Text.hasText data s.spelling) =
      .ok (r.dataIn? c.settings.dataDirectories.items s) := by
    intro s hs
    have hjudge : ∀ data ∈ c.settings.dataDirectories.items.filter fun data => Text.hasText data s.spelling,
        (do return if ← r.tracks s.spelling then some data else none : Outcome (Option String)) =
          .ok (if r.holds s.steps then some data else none) := fun data _ => by
      rw [r.tracks_spelling (Folder.isName_of_mem_subfolders hsound hs) (hplain s hs)]
      rfl
    rw [Outcome.firstFinding_eq_findSome? hjudge, Repository.dataIn?]
    cases r.holds s.steps with
    | true =>
      simp only [if_true, ← List.head?_filter]
      cases c.settings.dataDirectories.items.filter fun data => Text.hasText data s.spelling with
      | nil => rfl
      | cons data rest => rfl
    | false => simp
  rw [trackedData, hrepository]
  show firstFinding _ (p.folders c.disk) = _
  rw [p.folders_eq_spellings h hsound hright, Outcome.firstFinding_map]
  exact Outcome.firstFinding_eq_findSome? hfolder

/-- **The folders of a project are listed as they should be just when its path does not end in a slash, or no folder
lies in another one.** Else every path of more than one name loses its first character. Where the listing is right, a
repository is asked about these folders and nothing outside of them. -/
theorem folder_listing_is_exact_iff {c : Context} {p : Project} {f : Folder} (hthere : c.disk.folderAt? p.path = some f)
    (hsound : f.isSound = true) :
    (ListsFolders f (p.folders c.disk) ↔ Text.endsWith "/" p.path = false ∨ f.IsFlat) ∧
    (Text.endsWith "/" p.path = true → p.folders c.disk = f.subfolders.map Subfolder.clipped) ∧
    (ListsFolders f (p.folders c.disk) →
      (∀ text ∈ p.folders c.disk, ∃ way g, f.descend way = some g ∧
        Pathspec.shorten? text = some ("/".intercalate way)) ∧
      ∀ r, f.label.repository = some r → (∀ s ∈ f.subfolders, s.isPlain = true) →
        Layout.trackedData c p = .ok (f.subfolders.findSome? (r.dataIn? c.settings.dataDirectories.items))) := by
  have hiff := p.listsFolders_iff hthere hsound
  refine ⟨hiff, p.folders_eq_clipped hthere hsound, fun hlists => ⟨fun text htext => ?_, fun r hr hplain => ?_⟩⟩
  · rw [p.folders_eq_spellings hthere hsound (hiff.mp hlists)] at htext
    obtain ⟨s, hs, rfl⟩ := List.mem_map.mp htext
    obtain ⟨g, hg⟩ := (Folder.mem_subfolders_iff hsound).mp hs
    have hnames := Folder.isName_of_mem_subfolders hsound hs
    exact ⟨s.steps, g, hg,
      Pathspec.shorten?_of_cut s.steps_ne_nil hnames (s.spells_spelling.cut_eq s.steps_ne_nil hnames)⟩
  · exact Layout.trackedData_eq hthere hsound (hiff.mp hlists) hr hplain

/-- A nested folder is listed by its whole path, and found to be tracked. -/
theorem nested_folders_are_listed :
    let idea : Folder := .node { name := ".idea" } []
    let r : Repository := { branch := "main", messages := [], tracked := ["lib/.idea/workspace.xml", "z.py"] }
    let f : Folder := .node { name := "p", repository := some r }
      [.node { name := ".vscode" } [], .node { name := "lib" } [idea]]
    let c : Context := { disk := { top := .node { name := "" } [f] }, path := "p" }
    let p : Project := { path := "p", sources := [] }
    (c.disk.folderAt? p.path = some f ∧ f.isSound = true ∧ ListsFolders f (p.folders c.disk)) ∧
      p.folders c.disk = ["./.vscode", "./lib", "lib/.idea"] ∧ Layout.trackedData c p = .ok (some ".idea") := by
  intro idea r f c p
  have hthere : c.disk.folderAt? p.path = some f := Disk.folderAt?_of_isName rfl (by decide)
  have hsound : f.isSound = true := by decide +kernel
  obtain ⟨hiff, _, hasked⟩ := folder_listing_is_exact_iff hthere hsound
  have hlists := hiff.mpr (.inl (by decide))
  refine ⟨⟨hthere, hsound, hlists⟩, by decide +kernel, ?_⟩
  rw [(hasked hlists).2 r rfl (by decide +kernel)]
  decide +kernel

/-- With a slash at the end of the path, names are cut, and the repository is asked about a path outside of it. -/
theorem trailing_slash_cuts_names :
    let idea : Folder := .node { name := ".idea" } []
    let r : Repository := { branch := "main", messages := [], tracked := ["a/lib/.idea/workspace.xml", "z.py"] }
    let f : Folder := .node { name := "p", repository := some r }
      [.node { name := "a" } [.node { name := "lib" } [idea]], .node { name := "docs" } [.node { name := "images" } []]]
    let c : Context := { disk := { top := .node { name := "" } [f] }, path := "p/" }
    let p : Project := { path := "p/", sources := [] }
    (c.disk.folderAt? p.path = some f ∧ f.isSound = true ∧ ¬ ListsFolders f (p.folders c.disk)) ∧
      p.folders c.disk = ["./a", "./docs", "./lib", "/lib/.idea", "ocs/images"] ∧
      Layout.trackedData c p = .error .outsideRepository := by
  intro idea r f c p
  have hopen : c.disk.folderAt? "p" = some f := Disk.folderAt?_of_isName rfl (by decide)
  have hpath : p.path = "p" ++ "/" := by decide
  have hthere : c.disk.folderAt? p.path = some f := by
    rw [hpath]
    exact Disk.folderAt?_append_slash hopen (by decide +kernel)
  have hsound : f.isSound = true := by decide +kernel
  refine ⟨⟨hthere, hsound, ?_⟩, by decide +kernel, by decide +kernel⟩
  rw [p.listsFolders_iff hthere hsound]
  rintro (hend | hflat)
  · exact absurd hend (by decide)
  · exact absurd (hflat ["docs", "images"] _ rfl) (by decide)

end Scrutiny
