import Scrutiny.Proofs.Passing
import Scrutiny.Proofs.Reading
import Scrutiny.Proofs.SkippedFolders

/-! A project that is not there.

Whether a path leads to a folder is asked when the project is loaded, after the preflight. The preflight has nothing to
say of such a path: there is no file below it that could be too long or not UTF-8. Only the guard on the size goes
further, to the project that this one started from. What it finds there is the whole review, and then nobody is told
that the path is wrong. -/
namespace Scrutiny

/-! ### The guard on the size -/

theorem Outcome.returnIf_eq_some {β : Type} {x : Outcome Bool} {b found : β} :
    (do return if ← x then some b else none) = (.ok (some found) : Outcome (Option β)) ↔ x = .ok true ∧ b = found := by
  rw [bind_eq_ok]
  simp [pure, Except.pure]

namespace Disk
variable {disk : Disk} {path : String}

theorem visitsOutside_of_missing (h : disk.folderAt? path = none) (skip : Words) :
    disk.visitsOutside skip path = [] := by
  unfold visitsOutside
  rw [h]

theorem countSources_of_missing (h : disk.folderAt? path = none) (skip : Words) : disk.countSources skip path = 0 := by
  unfold countSources
  rw [visitsOutside_of_missing h]
  rfl

theorem folderAt?_empty (disk : Disk) : disk.folderAt? "" = none := rfl

end Disk

namespace Preflight
variable {c : Context} {path : String}

/-- The limit on the files named like sources is kept below a path that can be asked for. -/
def KeepsLimit (c : Context) (path : String) : Prop :=
  '\x00' ∉ path.toList ∧ (c.disk.countSources c.settings.directoriesToSkip path : Int) ≤ c.settings.maxNumOfPyFiles

/-- The limit is passed there. -/
def PassesLimit (c : Context) (path : String) : Prop :=
  '\x00' ∉ path.toList ∧ c.settings.maxNumOfPyFiles < c.disk.countSources c.settings.directoriesToSkip path

theorem isTooLarge_eq_ok_iff {answer : Bool} :
    isTooLarge c path = .ok answer ↔ '\x00' ∉ path.toList ∧
      decide (c.settings.maxNumOfPyFiles < c.disk.countSources c.settings.directoriesToSkip path) = answer := by
  unfold isTooLarge Disk.visitable Disk.isLargerThan
  by_cases hnul : '\x00' ∈ path.toList
  · simp [hnul, bind, Except.bind]
  · simp [hnul, bind, Except.bind, pure, Except.pure]

theorem isTooLarge_eq_false_iff : isTooLarge c path = .ok false ↔ KeepsLimit c path := by
  rw [isTooLarge_eq_ok_iff, decide_eq_false_iff_not, Int.not_lt]
  exact Iff.rfl

theorem isTooLarge_eq_true_iff : isTooLarge c path = .ok true ↔ PassesLimit c path := by
  rw [isTooLarge_eq_ok_iff, decide_eq_true_eq]
  exact Iff.rfl

/-- The guard finds nothing where both projects keep to the limit, and only there. -/
theorem tooLarge_eq_none_iff : tooLarge c = .ok none ↔ ∀ path ∈ paths c, KeepsLimit c path := by
  unfold tooLarge
  rw [Outcome.firstFinding_eq_none_iff]
  refine forall₂_congr fun path _ => ?_
  rw [Outcome.returnIf_eq_none, isTooLarge_eq_false_iff]

/-- What it finds is on a path that passes the limit, and nothing was found on those before. -/
theorem tooLarge_eq_some_iff {message : String} :
    tooLarge c = .ok (some message) ↔ message = "" ∧ ∃ before path after, paths c = before ++ path :: after ∧
      PassesLimit c path ∧ ∀ other ∈ before, KeepsLimit c other := by
  unfold tooLarge
  simp only [Outcome.firstFinding_eq_some_iff, Outcome.returnIf_eq_some, Outcome.returnIf_eq_none,
    isTooLarge_eq_true_iff, isTooLarge_eq_false_iff]
  constructor
  · intro ⟨before, path, after, hpaths, ⟨hpasses, hmessage⟩, hbefore⟩
    exact ⟨hmessage.symm, before, path, after, hpaths, hpasses, hbefore⟩
  · intro ⟨hmessage, before, path, after, hpaths, hpasses, hbefore⟩
    exact ⟨before, path, after, hpaths, ⟨hpasses, hmessage.symm⟩, hbefore⟩

/-! ### The guard on a project that is not there -/

theorem mem_paths_iff : path ∈ paths c ↔ path = c.path ∨ c.basePath = some path ∧ path ≠ "" := by
  simp [paths, Option.filter_eq_some_iff]

/-- Below a path that leads nowhere, every limit is kept. -/
theorem keepsLimit_of_missing (hlimit : 0 ≤ c.settings.maxNumOfPyFiles) (h : c.disk.folderAt? path = none) :
    KeepsLimit c path ↔ '\x00' ∉ path.toList := by
  unfold KeepsLimit
  rw [Disk.countSources_of_missing h]
  exact and_iff_left hlimit

theorem not_passesLimit_of_missing (hlimit : 0 ≤ c.settings.maxNumOfPyFiles) (h : c.disk.folderAt? path = none) :
    ¬ PassesLimit c path := by
  unfold PassesLimit
  rw [Disk.countSources_of_missing h]
  omega

theorem tooLarge_eq_none_of_missing_iff (hlimit : 0 ≤ c.settings.maxNumOfPyFiles)
    (hmissing : c.disk.folderAt? c.path = none) :
    tooLarge c = .ok none ↔ '\x00' ∉ c.path.toList ∧ ∀ base, c.basePath = some base → KeepsLimit c base := by
  rw [tooLarge_eq_none_iff, ← keepsLimit_of_missing hlimit hmissing]
  constructor
  · intro h
    refine ⟨h c.path (mem_paths_iff.mpr (.inl rfl)), fun base hbase => ?_⟩
    by_cases hempty : base = ""
    · rw [hempty, keepsLimit_of_missing hlimit c.disk.folderAt?_empty]
      decide
    · exact h base (mem_paths_iff.mpr (.inr ⟨hbase, hempty⟩))
  · intro ⟨hown, hbase⟩ path hpath
    rcases mem_paths_iff.mp hpath with heq | ⟨hgiven, _⟩
    · rwa [heq]
    · exact hbase path hgiven

theorem tooLarge_eq_some_of_missing_iff (hlimit : 0 ≤ c.settings.maxNumOfPyFiles)
    (hmissing : c.disk.folderAt? c.path = none) {message : String} :
    tooLarge c = .ok (some message) ↔
      message = "" ∧ '\x00' ∉ c.path.toList ∧ ∃ base, c.basePath = some base ∧ PassesLimit c base := by
  rw [tooLarge_eq_some_iff, ← keepsLimit_of_missing hlimit hmissing]
  refine and_congr_right fun _ => ⟨?_, ?_⟩
  · intro ⟨before, path, after, hpaths, hpasses, hbefore⟩
    cases before with
    | nil =>
      -- The project itself is not what passes the limit.
      obtain ⟨hown, _⟩ := List.cons.inj hpaths
      exact absurd hpasses (hown ▸ not_passesLimit_of_missing hlimit hmissing)
    | cons own before =>
      obtain ⟨hown, hrest⟩ := List.cons.inj hpaths
      have hgiven : path ∈ (c.basePath.filter (· ≠ "")).toList := by
        rw [hrest]
        exact List.mem_append_right _ List.mem_cons_self
      have hbase := (Option.filter_eq_some_iff.mp (Option.mem_toList.mp hgiven)).1
      exact ⟨hown ▸ hbefore own List.mem_cons_self, path, hbase, hpasses⟩
  · intro ⟨hown, base, hbase, hpasses⟩
    have hne : base ≠ "" := by
      intro hempty
      exact not_passesLimit_of_missing hlimit c.disk.folderAt?_empty (hempty ▸ hpasses)
    have hpaths : paths c = [c.path] ++ base :: [] := by
      simp [paths, hbase, hne]
    exact ⟨[c.path], base, [], hpaths, hpasses, List.forall_mem_singleton.mpr hown⟩

/-- The other checks of the preflight have no files to look at. -/
theorem files_of_missing (hmissing : c.disk.folderAt? c.path = none) (hnul : '\x00' ∉ c.path.toList) :
    files c = .ok [] := by
  unfold files Disk.visitable
  rw [Disk.visitsOutside_of_missing hmissing]
  simp [hnul, bind, Except.bind, pure, Except.pure, Disk.filesOf]

end Preflight

/-! ### The preflight -/

/-- Groups of checks that all pass have no findings. -/
theorem Groups.outcome_of_passed {c : Context} {groups : Groups}
    (h : ∀ check ∈ groups.flatMap (·.checks), check.run c = .ok .passed) (after : Groups) :
    groups.outcome c after = .ok [] := by
  have hfinding {check : Check} (hcheck : check ∈ groups.flatMap (·.checks)) : check.finding? c = none :=
    Check.finding?_of_run (h check hcheck)
  have hstop : groups.stop? c = none := by
    refine List.find?_eq_none.mpr fun g hg hfinds => ?_
    obtain ⟨check, hcheck, hsome⟩ := List.any_eq_true.mp hfinds
    rw [hfinding (List.mem_flatMap.mpr ⟨g, hg, hcheck⟩)] at hsome
    cases hsome
  have hexecuted := executed_of_no_stop hstop after
  rw [outcome_of_no_failure fun check hcheck => Check.failure?_of_run (h check (hexecuted ▸ hcheck)), hexecuted,
    List.filterMap_eq_nil_iff.mpr fun check hcheck => hfinding hcheck]

namespace Registry
variable {c : Context}

theorem preflight_of_size_failure {failure : Failure} (h : Preflight.tooLarge c = .error failure) :
    preflight.outcome c [] = .error failure := by
  have hrun : sizeCheck.run c = .error failure := by
    rw [sizeCheck, Check.run_onContext, h]
    rfl
  rw [Groups.outcome, Groups.run, preflight_eq, Groups.runFrom, judgeAll, List.mapM_cons, Check.judge_of_failure hrun]
  rfl

theorem preflight_of_size_finding {message : String} (h : Preflight.tooLarge c = .ok (some message)) :
    preflight.outcome c [] = .ok [⟨"repo_is_too_large", message⟩] := by
  have hrun : sizeCheck.run c = .ok (.failed message) := by
    rw [sizeCheck, Check.run_onContext, h]
    rfl
  rw [Groups.outcome, Groups.run, preflight_eq, Groups.runFrom, judgeAll, List.mapM_cons, Check.judge_of_run hrun]
  rfl

theorem preflight_of_no_files (hsize : Preflight.tooLarge c = .ok none) (hfiles : Preflight.files c = .ok []) :
    preflight.outcome c [] = .ok [] := by
  have hencoding : Preflight.notUtf8 c = .ok none := by
    rw [Preflight.notUtf8, hfiles]
    rfl
  have hmark : Preflight.marked c = .ok none := by
    rw [Preflight.marked, hfiles]
    rfl
  have hlength : Preflight.tooLong c = .ok none := by
    rw [Preflight.tooLong, hfiles]
    rfl
  apply Groups.outcome_of_passed
  have hchecks : preflight.flatMap (·.checks) = [sizeCheck, encodingCheck, markCheck, lengthCheck] := rfl
  rw [hchecks]
  simp only [List.forall_mem_cons, sizeCheck, encodingCheck, markCheck, lengthCheck, Check.passed_onContext]
  exact ⟨hsize, hencoding, hmark, hlength, by simp⟩

end Registry

/-! ### The review -/

/-- A review of a project that is not there is decided by the guard on the size. -/
theorem review_of_missing {disk : Disk} {r : Request} (hpreflight : r.plan.preflight = Registry.preflight)
    (hmarks : r.marking.isConflicting = false) (hmissing : disk.folderAt? r.path = none) :
    (review disk r = .error (.notAFolder r.path) ↔ Preflight.tooLarge (r.context disk) = .ok none) ∧
    ∀ found, review disk r = .ok found ↔
      ∃ message, Preflight.tooLarge (r.context disk) = .ok (some message) ∧
        found = [⟨"repo_is_too_large", message⟩] := by
  have hreview : review disk r = _ := review_eq hmarks
  rw [hpreflight] at hreview
  match hsize : Preflight.tooLarge (r.context disk) with
  | .error failure =>
    have hnul := Preflight.failure_of_tooLarge hsize
    rw [hreview, Registry.preflight_of_size_failure hsize, hnul]
    simp [bind, Except.bind]
  | .ok (some message) =>
    rw [hreview, Registry.preflight_of_size_finding hsize]
    simp [bind, Except.bind, pure, Except.pure, eq_comm]
  | .ok none =>
    have hown := (Preflight.tooLarge_eq_none_iff.mp hsize r.path (Preflight.mem_paths_iff.mpr (.inl rfl))).1
    have hload : (r.context disk).load = .error (.notAFolder r.path) := by
      unfold Context.load Project.load
      rw [show (r.context disk).disk.folderAt? (r.context disk).path = none from hmissing]
      rfl
    rw [hreview, Registry.preflight_of_no_files hsize (Preflight.files_of_missing hmissing hown), hload]
    simp [bind, Except.bind]

/-- **A wrong path is reported, unless something else is found first.** A review of a project that is not there, with
the usual preflight, fails for that reason just when its path and that of the project it started from can be asked for,
and the latter keeps to the limit on sources. If it comes to an end instead, its one finding is that this other project
is too large. -/
theorem missing_project_is_reported_iff {disk : Disk} {r : Request} (hpreflight : r.plan.preflight = Registry.preflight)
    (hmarks : r.marking.isConflicting = false) (hmissing : disk.folderAt? r.path = none)
    (hlimit : 0 ≤ r.settings.maxNumOfPyFiles) :
    (review disk r = .error (.notAFolder r.path) ↔
      '\x00' ∉ r.path.toList ∧ ∀ base, r.basePath = some base → '\x00' ∉ base.toList ∧
        (disk.countSources r.settings.directoriesToSkip base : Int) ≤ r.settings.maxNumOfPyFiles) ∧
    ∀ found, review disk r = .ok found ↔
      found = [⟨"repo_is_too_large", ""⟩] ∧ '\x00' ∉ r.path.toList ∧ ∃ base, r.basePath = some base ∧
        '\x00' ∉ base.toList ∧ r.settings.maxNumOfPyFiles < disk.countSources r.settings.directoriesToSkip base := by
  obtain ⟨hfails, hends⟩ := review_of_missing hpreflight hmarks hmissing
  -- The guard is asked in the context of the request; both facts are said of that context first.
  have hcontext : 0 ≤ (r.context disk).settings.maxNumOfPyFiles := hlimit
  have hfolder : (r.context disk).disk.folderAt? (r.context disk).path = none := hmissing
  constructor
  · rw [hfails, Preflight.tooLarge_eq_none_of_missing_iff hcontext hfolder]
    exact Iff.rfl
  · intro found
    rw [hends]
    simp only [Preflight.tooLarge_eq_some_of_missing_iff hcontext hfolder]
    constructor
    · intro ⟨message, ⟨hmessage, hlarge⟩, hfound⟩
      rw [hmessage] at hfound
      exact ⟨hfound, hlarge⟩
    · intro ⟨hfound, hlarge⟩
      exact ⟨"", ⟨rfl, hlarge⟩, hfound⟩

/-- The path of a file and a project that keeps to its limit: the path is reported. -/
theorem path_of_file_is_reported :
    let source : File := { bytes := [0x78] }
    let start : Folder := .node { name := "o", files := [("a.py", source)] } []
    let disk : Disk := { top := .node { name := "", files := [("p.py", source)] } [start] }
    let r : Request := { path := "p.py", basePath := some "o", changes := [.amount .maxNumOfPyFiles 1] }
    disk.folderAt? r.path = none ∧ review disk r = .error (.notAFolder "p.py") := by
  intro source start disk r
  have hmissing : disk.folderAt? r.path = none := by decide +kernel
  have hkept : (disk.countSources r.settings.directoriesToSkip "o" : Int) ≤ r.settings.maxNumOfPyFiles := by
    decide +kernel
  refine ⟨hmissing, (missing_project_is_reported_iff rfl rfl hmissing (by decide)).1.mpr ⟨by decide, ?_⟩⟩
  intro base hbase
  cases hbase
  exact ⟨by decide, hkept⟩

/-- A path that leads nowhere, and a project with one source more than allowed: the review ends with the latter. -/
theorem missing_project_is_called_too_large :
    let source : File := { bytes := [0x78] }
    let start : Folder := .node { name := "o", files := [("a.py", source), ("b.py", source)] } []
    let disk : Disk := { top := .node { name := "" } [start] }
    let r : Request := { path := "p", basePath := some "o", changes := [.amount .maxNumOfPyFiles 1] }
    disk.folderAt? r.path = none ∧ review disk r = .ok [⟨"repo_is_too_large", ""⟩] ∧
      review disk r ≠ .error (.notAFolder r.path) := by
  intro source start disk r
  have hmissing : disk.folderAt? r.path = none := by decide +kernel
  have hreview : review disk r = .ok [⟨"repo_is_too_large", ""⟩] := by decide +kernel
  refine ⟨hmissing, hreview, ?_⟩
  rw [hreview]
  simp

end Scrutiny
