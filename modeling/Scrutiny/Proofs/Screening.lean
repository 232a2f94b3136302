import Mathlib.Data.List.Find
import Scrutiny.Proofs.Collection
import Scrutiny.Proofs.Encoding
import Scrutiny.Proofs.Lines
import Scrutiny.Proofs.Offenders
import Scrutiny.Proofs.Outcome
import Scrutiny.Proofs.Reading

/-! The preflight names the first offender.

Three checks of the preflight look for a file that offends: one that is not UTF-8, one with a byte order mark, one of
too many lines. What offends is said here of the bytes of a file (`IsMisencoded`, `IsMarked`, `IsLong`), and what a
check owes is said once for all three (`NamesFirst`): it finds nothing just when no file that names lead to offends,
past folders to skip, and else it names the first in the order of the walk. -/
namespace Scrutiny

/-! ### What offends -/

namespace Leaf

/-- Named like a source or a text, and not the bytes of any text. -/
def IsMisencoded (l : Leaf) : Prop :=
  (Text.endsWith ".py" l.name = true ∨ Text.endsWith ".txt" l.name = true) ∧
    ¬ ∃ text, Text.Utf8.encode text = l.file.bytes

def IsMarked (l : Leaf) : Prop :=
  [0xEF, 0xBB, 0xBF] <+: l.file.bytes

/-- Named like a source, and a text of at least so many lines once its line ends are translated. -/
def IsLong (limit : Nat) (l : Leaf) : Prop :=
  Text.endsWith ".py" l.name = true ∧
    ∃ text, Text.Utf8.encode text = l.file.bytes ∧ limit ≤ (Text.wholeLines (Text.translateLineEnds text)).length

theorem isOutside_iff {skip : Words} {l : Leaf} :
    l.isOutside skip = true ↔ ∀ folder ∈ l.way, skip.has folder = false := by
  simp [isOutside]

end Leaf

theorem File.isUtf8_iff {file : File} : file.isUtf8 = true ↔ ∃ text, Text.Utf8.encode text = file.bytes := by
  rw [isUtf8, Option.isSome_iff_exists]
  exact exists_congr fun _ => Text.Utf8.decode_eq_some_iff

theorem isMisencoded_iff {l : Leaf} : (isTextName l.name && !l.file.isUtf8) = true ↔ l.IsMisencoded := by
  rw [Bool.and_eq_true, isTextName, Bool.or_eq_true, Bool.not_eq_true', Bool.eq_false_iff, ne_eq, File.isUtf8_iff]
  rfl

theorem isMarked_iff {l : Leaf} : l.file.hasMark = true ↔ l.IsMarked :=
  List.isPrefixOf_iff_prefix

/-- A text is read to the limit just when it has that many lines; for a limit of zero it need not be read. -/
theorem File.hasLines_eq {file : File} {text : List Char} (h : Text.Utf8.encode text = file.bytes) (limit : Nat) :
    file.hasLines limit = .ok (limit ≤ (Text.wholeLines (Text.translateLineEnds text)).length) := by
  have htext : file.text = .ok (String.ofList (Text.translateLineEnds text)) :=
    text_eq_ok_iff.mpr ⟨text, Text.Utf8.decode_eq_some_iff.mpr h, rfl⟩
  cases limit with
  | zero => simp [hasLines]
  | succ limit =>
    have hpos : ¬ ((limit + 1 : Nat) : Int) ≤ 0 := by omega
    rw [hasLines, if_neg hpos, htext]
    simp only [Int.toNat_natCast, String.toList_ofList, Text.countLines_eq_iff]

/-! ### What a check owes -/

/-- A file that names lead to, none of them the name of a folder to skip. -/
def Folder.LeadsTo (f : Folder) (skip : Words) (l : Leaf) : Prop :=
  (∃ g, f.descend l.way = some g ∧ g.file? l.name = some l.file) ∧ ∀ folder ∈ l.way, skip.has folder = false

/-- The answer of a check that looks for a file that offends, outside of the folders to skip. -/
structure NamesFirst (f : Folder) (skip : Words) (Offends : Leaf → Prop) (found : Outcome (Option String)) : Prop where
  answers : ∃ answer, found = .ok answer
  none_iff : found = .ok none ↔ ∀ l, f.LeadsTo skip l → ¬ Offends l
  some_iff : ∀ name, found = .ok (some name) ↔
    ∃ before l after, f.contents = before ++ l :: after ∧ (f.LeadsTo skip l ∧ Offends l ∧ l.name = name) ∧
      ∀ k ∈ before, f.LeadsTo skip k → ¬ Offends k

theorem Folder.leadsTo_iff {f : Folder} (h : f.isSound = true) {skip : Words} {l : Leaf} :
    f.LeadsTo skip l ↔ l ∈ f.contents ∧ l.isOutside skip = true := by
  rw [LeadsTo, mem_contents_iff h, Leaf.isOutside_iff]

/-- The first of the reachable files that passes a test is named as it should be, if the test is for the offence. -/
theorem namesFirst_find? {f : Folder} (h : f.isSound = true) {skip : Words} {Offends : Leaf → Prop} {test : Leaf → Bool}
    (htest : ∀ l, f.LeadsTo skip l → (test l = true ↔ Offends l)) :
    NamesFirst f skip Offends (.ok (((f.contents.filter (·.isOutside skip)).find? test).map (·.name))) := by
  have hboth : ∀ l ∈ f.contents, decide (l.isOutside skip = true ∧ test l = true) = true ↔
      f.LeadsTo skip l ∧ Offends l := by
    intro l hl
    rw [decide_eq_true_iff]
    constructor
    · rintro ⟨houtside, htrue⟩
      have hleads := (Folder.leadsTo_iff h).mpr ⟨hl, houtside⟩
      exact ⟨hleads, (htest l hleads).mp htrue⟩
    · rintro ⟨hleads, hoffends⟩
      exact ⟨((Folder.leadsTo_iff h).mp hleads).2, (htest l hleads).mpr hoffends⟩
  rw [List.find?_filter]
  refine ⟨⟨_, rfl⟩, ?_, fun name => ?_⟩
  · rw [Except.ok.injEq, Option.map_eq_none_iff, List.find?_eq_none]
    constructor
    · intro hnone l hleads hoffends
      have hl := ((Folder.leadsTo_iff h).mp hleads).1
      exact hnone l hl ((hboth l hl).mpr ⟨hleads, hoffends⟩)
    · intro hclear l hl htrue
      obtain ⟨hleads, hoffends⟩ := (hboth l hl).mp htrue
      exact hclear l hleads hoffends
  · rw [Except.ok.injEq, Option.map_eq_some_iff]
    constructor
    · rintro ⟨l, hfind, hname⟩
      obtain ⟨htrue, before, after, hsplit, hbefore⟩ := List.find?_eq_some_iff_append.mp hfind
      have hl : l ∈ f.contents := by simp [hsplit]
      obtain ⟨hleads, hoffends⟩ := (hboth l hl).mp htrue
      refine ⟨before, l, after, hsplit, ⟨hleads, hoffends, hname⟩, fun k hk hkleads hkoffends => ?_⟩
      have hk' : k ∈ f.contents := by simp [hsplit, hk]
      have hnot := hbefore k hk
      rw [(hboth k hk').mpr ⟨hkleads, hkoffends⟩] at hnot
      cases hnot
    · rintro ⟨before, l, after, hsplit, ⟨hleads, hoffends, hname⟩, hbefore⟩
      have hl : l ∈ f.contents := by simp [hsplit]
      refine ⟨l, List.find?_eq_some_iff_append.mpr
        ⟨(hboth l hl).mpr ⟨hleads, hoffends⟩, before, after, hsplit, fun k hk => ?_⟩, hname⟩
      have hk' : k ∈ f.contents := by simp [hsplit, hk]
      rw [Bool.not_eq_true', Bool.eq_false_iff]
      intro htrue
      obtain ⟨hkleads, hkoffends⟩ := (hboth k hk').mp htrue
      exact hbefore k hk hkleads hkoffends

/-- Where every member is judged, the first finding is on the first member that is wanted. -/
theorem Outcome.firstFinding_eq_find? {α β : Type} {judge : α → Outcome (Option β)} {wanted : α → Bool} {name : α → β}
    {as : List α} (h : ∀ a ∈ as, judge a = .ok (if wanted a then some (name a) else none)) :
    firstFinding judge as = .ok ((as.find? wanted).map name) := by
  rw [firstFinding_eq_findSome? h, ← List.findSome?_guard, List.map_findSome?]
  congr 2
  funext a
  cases hwanted : wanted a with
  | true => simp [Option.guard, hwanted]
  | false => simp [Option.guard, hwanted]

namespace Preflight
variable {c : Context} {f : Folder}

theorem leaves_eq (h : c.disk.folderAt? c.path = some f) :
    leaves c = f.contents.filter (·.isOutside c.settings.directoriesToSkip) := by
  rw [leaves, Disk.reachable, Disk.leaves_of_folderAt? h]

/-- Where the sources are texts, each is read, and the first long one is named. -/
theorem namesFirst_tooLong (h : c.disk.folderAt? c.path = some f) (hsound : f.isSound = true) {limit : Nat}
    (hlimit : c.settings.maxNumberOfLines = limit)
    (htexts : ∀ l, f.LeadsTo c.settings.directoriesToSkip l → Text.endsWith ".py" l.name = true →
      ∃ text, Text.Utf8.encode text = l.file.bytes) :
    NamesFirst f c.settings.directoriesToSkip (Leaf.IsLong limit) (tooLong c) := by
  classical
  have hjudge : ∀ l ∈ (leaves c).filter (fun l => Text.endsWith ".py" l.name),
      (do return if ← l.file.hasLines c.settings.maxNumberOfLines then some l.name else none :
          Outcome (Option String)) =
        .ok (if decide (l.IsLong limit) then some l.name else none) := by
    intro l hl
    rw [leaves_eq h] at hl
    obtain ⟨hreached, hname⟩ := List.mem_filter.mp hl
    obtain ⟨text, htext⟩ := htexts l ((Folder.leadsTo_iff hsound).mpr (List.mem_filter.mp hreached)) hname
    have hlong : l.IsLong limit ↔ limit ≤ (Text.wholeLines (Text.translateLineEnds text)).length := by
      constructor
      · rintro ⟨_, text', htext', hlines⟩
        rwa [Text.Utf8.encode_injective (htext.trans htext'.symm)]
      · exact fun hlines => ⟨hname, text, htext, hlines⟩
    rw [hlimit, File.hasLines_eq htext, ← decide_eq_decide.mpr hlong]
    rfl
  have hfirst : ((leaves c).filter fun l => Text.endsWith ".py" l.name).find? (fun l => decide (l.IsLong limit)) =
      (leaves c).find? fun l => decide (l.IsLong limit) := by
    rw [List.find?_filter]
    refine List.find?_congr fun l _ => decide_eq_decide.mpr ?_
    rw [decide_eq_true_iff]
    exact ⟨And.right, fun hlong => ⟨hlong.1, hlong⟩⟩
  rw [tooLong_eq h, Outcome.firstFinding_eq_find? hjudge, hfirst, leaves_eq h]
  exact namesFirst_find? hsound fun l _ => decide_eq_true_iff

end Preflight

/-- **The preflight names the first offender and misses none.** The order is that of a walk through everything; folders
to skip take files out of it and change nothing else. -/
theorem preflight_names_first_offender {c : Context} {f : Folder} {limit : Nat}
    (hthere : c.disk.folderAt? c.path = some f) (hsound : f.isSound = true)
    (hlimit : c.settings.maxNumberOfLines = limit) :
    Disk.filesOf (c.disk.visitsFrom c.path) = f.contents.map (Leaf.met c.path) ∧
    NamesFirst f c.settings.directoriesToSkip Leaf.IsMisencoded (Preflight.notUtf8 c) ∧
    NamesFirst f c.settings.directoriesToSkip Leaf.IsMarked (Preflight.marked c) ∧
    ((∀ l, f.LeadsTo c.settings.directoriesToSkip l → Text.endsWith ".py" l.name = true →
        ∃ text, Text.Utf8.encode text = l.file.bytes) →
      NamesFirst f c.settings.directoriesToSkip (Leaf.IsLong limit) (Preflight.tooLong c)) := by
  refine ⟨?_, ?_, ?_, Preflight.namesFirst_tooLong hthere hsound hlimit⟩
  · rw [Disk.filesOf_visitsFrom, Disk.leaves_of_folderAt? hthere]
  · rw [Preflight.notUtf8_eq hthere hsound, Preflight.leaves_eq hthere]
    exact namesFirst_find? hsound fun l _ => isMisencoded_iff
  · rw [Preflight.marked_eq hthere, Preflight.leaves_eq hthere]
    exact namesFirst_find? hsound fun l _ => isMarked_iff

/-- Files that offend lie in a folder to skip, at any depth, and are not named; others lie behind them, and are. -/
theorem offenders_behind_skipped_folder :
    let broken : File := { bytes := [0xFF] }
    let marked : File := { bytes := [0xEF, 0xBB, 0xBF] }
    let long : File := { bytes := [0x78, 0x0D, 0x0A, 0x79] }
    let skipped : Folder :=
      .node { name := "build", files := [("b.txt", broken), ("c.bin", marked), ("d.py", long)] } []
    let f : Folder := .node { name := "p", files := [("a.bin", broken), ("a.py", { bytes := [0x78, 0x0A] })] }
      [.node { name := "lib", files := [("z.py", long)] } [skipped],
        .node { name := "text", files := [("c.bin", marked), ("e.txt", broken), ("f.txt", broken)] } []]
    let disk : Disk := { top := .node { name := "" } [f] }
    let c : Context := { disk, path := "p", settings := { maxNumberOfLines := 2 } }
    (c.disk.folderAt? c.path = some f ∧ f.isSound = true ∧
      NamesFirst f c.settings.directoriesToSkip Leaf.IsMisencoded (Preflight.notUtf8 c) ∧
      NamesFirst f c.settings.directoriesToSkip Leaf.IsMarked (Preflight.marked c) ∧
      NamesFirst f c.settings.directoriesToSkip (Leaf.IsLong 2) (Preflight.tooLong c)) ∧
    Preflight.notUtf8 c = .ok (some "e.txt") ∧ Preflight.marked c = .ok (some "c.bin") ∧
      Preflight.tooLong c = .ok (some "z.py") := by
  intro broken marked long skipped f disk c
  have hthere : c.disk.folderAt? c.path = some f := Disk.folderAt?_of_isName rfl (by decide)
  have hsound : f.isSound = true := by decide +kernel
  have hutf8 : ∀ l ∈ f.contents, Text.endsWith ".py" l.name = true → l.file.isUtf8 = true := by decide +kernel
  have hlimit : c.settings.maxNumberOfLines = (2 : Nat) := rfl
  obtain ⟨_, hmisencoded, hmarked, hlong⟩ := preflight_names_first_offender hthere hsound hlimit
  refine ⟨⟨hthere, hsound, hmisencoded, hmarked, hlong fun l hleads hname => ?_⟩, ?_⟩
  · exact File.isUtf8_iff.mp (hutf8 l ((Folder.leadsTo_iff hsound).mp hleads).1 hname)
  · decide +kernel

end Scrutiny
