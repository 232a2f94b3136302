import Mathlib.Algebra.Order.Group.Nat
import Mathlib.Algebra.Order.BigOperators.Group.List
import Scrutiny.Proofs.Passing

/-! More lenient parameters.

A parameter of a check is a limit, a list of things that it lets pass, or a list of things that it minds. `Eases` says
for every check which changes of its own parameters are in its favour: a limit further away, more to let pass, less to
mind. What passes before such a change passes after it (`passed_of_eases`), and so after any number of them. -/
namespace Scrutiny

/-! ### More words -/

namespace Words

/-- Every name that is among some words is among others. -/
def Within (v w : Words) : Prop :=
  ∀ name, v.has name = true → w.has name = true

theorem anyIn_mono {v w : Words} (h : v.items ⊆ w.items) {whole : String} (hv : v.anyIn whole = true) :
    w.anyIn whole = true := by
  obtain ⟨part, hpart, hin⟩ := List.any_eq_true.mp hv
  exact List.any_eq_true.mpr ⟨part, h hpart, hin⟩

end Words

/-! ### Fewer sources -/

namespace Project
variable {v w : Words}

/-- The longer the list of ignored parts, the fewer sources are left. -/
theorem sourcesOutside_sublist (p : Project) (h : v.items ⊆ w.items) :
    (p.sourcesOutside w).Sublist (p.sourcesOutside v) := by
  refine List.monotone_filter_right p.sources fun s hs => ?_
  cases hv : s.isIgnored v with
  | false => rfl
  | true => rw [show s.isIgnored w = true from Words.anyIn_mono h hv] at hs; cases hs

theorem firstFinding_outside {β : Type} {p : Project} {judge : Source → Outcome (Option β)} (h : v.items ⊆ w.items)
    (hpass : firstFinding judge (p.sourcesOutside v) = .ok none) :
    firstFinding judge (p.sourcesOutside w) = .ok none := by
  rw [Outcome.firstFinding_eq_none_iff] at hpass ⊢
  exact fun s hs => hpass s ((p.sourcesOutside_sublist h).subset hs)

theorem styleFaults_mono (p : Project) (disk : Disk) (h : v.items ⊆ w.items) :
    p.styleFaults disk w ≤ p.styleFaults disk v := by
  unfold styleFaults
  exact ((p.sourcesOutside_sublist h).map _).sum_le_sum fun _ _ => Nat.zero_le _

end Project

/-! ### Lines of a file -/

/-- A text that has a number of lines has any smaller number of lines. -/
theorem Text.countLines_of_le {n m : Nat} (h : n ≤ m) {text : List Char} (hm : countLines m text = m) :
    countLines n text = n := by
  induction n generalizing m text with
  | zero => rfl
  | succ n ih =>
    obtain ⟨m, rfl⟩ : ∃ k, m = k + 1 := ⟨m - 1, by omega⟩
    cases text with
    | nil => simp [countLines] at hm
    | cons c rest =>
      simp only [countLines, Nat.add_right_cancel_iff] at hm ⊢
      exact ih (by omega) hm

theorem File.hasLines_mono {file : File} {limit limit' : Int} (h0 : 0 ≤ limit) (h : limit ≤ limit')
    (hlines : file.hasLines limit = .ok false) : file.hasLines limit' = .ok false := by
  have hpos : 0 < limit := by
    by_contra hneg
    have hzero : limit = 0 := by omega
    simp [hasLines, hzero] at hlines
  unfold hasLines at hlines ⊢
  rw [if_neg (by omega)] at hlines ⊢
  cases htext : file.text with
  | error failure =>
    rw [htext] at hlines
    simp only at hlines
    split at hlines <;> cases hlines
  | ok text =>
    rw [htext] at hlines
    simp only [Except.ok.injEq, decide_eq_false_iff_not] at hlines ⊢
    exact fun hmore => hlines (Text.countLines_of_le (by omega) hmore)

/-! ### Limits further away -/

section Limits
variable {c : Context} {p : Project}

theorem Preflight.tooLarge_mono {limit : Int} (h : c.settings.maxNumOfPyFiles ≤ limit)
    (hpass : tooLarge c = .ok none) :
    tooLarge { c with settings := { c.settings with maxNumOfPyFiles := limit } } = .ok none := by
  unfold tooLarge at hpass ⊢
  rw [Outcome.firstFinding_eq_none_iff] at hpass ⊢
  intro path hpath
  have hsmall := Outcome.returnIf_eq_none.mp (hpass path hpath)
  obtain ⟨_, hvisit, hcount⟩ := Outcome.bind_eq_ok.mp hsmall
  refine Outcome.returnIf_eq_none.mpr (Outcome.bind_eq_ok.mpr ⟨_, hvisit, ?_⟩)
  simp only [pure, Except.pure, Except.ok.injEq, Disk.isLargerThan, decide_eq_false_iff_not] at hcount ⊢
  omega

theorem Preflight.tooLong_mono {limit : Int} (h0 : 0 ≤ c.settings.maxNumberOfLines)
    (h : c.settings.maxNumberOfLines ≤ limit) (hpass : tooLong c = .ok none) :
    tooLong { c with settings := { c.settings with maxNumberOfLines := limit } } = .ok none := by
  obtain ⟨fs, hfiles, hshort⟩ := Outcome.bind_eq_ok.mp hpass
  refine Outcome.bind_eq_ok.mpr ⟨fs, hfiles, ?_⟩
  rw [Outcome.firstFinding_eq_none_iff] at hshort ⊢
  intro f hf
  have hlines := Outcome.returnIf_eq_none.mp (hshort f hf)
  exact Outcome.returnIf_eq_none.mpr (File.hasLines_mono h0 h hlines)

theorem Idioms.styleFaults_mono {limit : Int} (h : c.settings.allowedMaxPep8Violations ≤ limit)
    (hpass : styleFaults c p = .ok none) :
    styleFaults { c with settings := { c.settings with allowedMaxPep8Violations := limit } } p = .ok none := by
  rw [styleFaults_eq_none] at hpass ⊢
  exact hpass.trans h

theorem Layout.tangled_mono {limit : Int} (h : c.settings.maxComplexity ≤ limit) (hpass : tangled c p = .ok none) :
    tangled { c with settings := { c.settings with maxComplexity := limit } } p = .ok none := by
  rw [tangled_eq_none] at hpass ⊢
  intro s hs
  obtain ⟨file, hfile, hblocks⟩ := Outcome.bind_eq_ok.mp (hpass s hs)
  refine Outcome.bind_eq_ok.mpr ⟨file, hfile, ?_⟩
  obtain ⟨root, hroot, hnone⟩ := Outcome.bind_eq_ok.mp hblocks
  refine Outcome.bind_eq_ok.mpr ⟨root, hroot, ?_⟩
  simp only [pure, Except.pure, Except.ok.injEq, Code.tangled, List.map_eq_nil_iff, List.filter_eq_nil_iff,
    decide_eq_true_eq] at hnone ⊢
  intro b hb hreach
  exact hnone b hb (h.trans hreach)

theorem Layout.nestedLine?_mono {size level level' : Int} (h0 : 0 ≤ size) (h : level ≤ level') {before : Int}
    {number : Nat} {lines : List (List Char)} (hnone : nestedLine? size level before number lines = none) :
    nestedLine? size level' before number lines = none := by
  have hproduct : size * level ≤ size * level' := Int.mul_le_mul_of_nonneg_left h h0
  induction lines generalizing before number with
  | nil => rfl
  | cons line rest ih =>
    simp only [nestedLine?, Bool.and_eq_true, decide_eq_true_eq] at hnone ⊢
    split at hnone
    · cases hnone
    · rename_i hfine
      rw [if_neg fun hdeep => hfine ⟨by omega, hdeep.2⟩]
      exact ih hnone

theorem Layout.nested_mono {level : Int} (h0 : 0 ≤ c.settings.tabSize)
    (h : c.settings.maxIndentationLevel ≤ level) (hpass : nested c p = .ok none) :
    nested { c with settings := { c.settings with maxIndentationLevel := level } } p = .ok none := by
  unfold nested at hpass ⊢
  rw [Outcome.firstFinding_eq_none_iff] at hpass ⊢
  intro s hs
  obtain ⟨size, hsize, hlines⟩ := Outcome.return_eq_none.mp (hpass s hs)
  refine Outcome.return_eq_none.mpr ⟨size, hsize, ?_⟩
  have hsame : c.settings.tabSize = size := by
    unfold tabSize at hsize
    split at hsize
    · exact Except.ok.inj hsize
    · cases hsize
  rw [Option.map_eq_none_iff] at hlines ⊢
  exact nestedLine?_mono (hsame ▸ h0) h hlines

end Limits

/-! ### More to let pass -/

section Allowed
variable {c : Context} {p : Project} {words : Words}

theorem Naming.short_mono {settings : Settings}
    (h : ∀ name, isTooShort settings name = true → isTooShort c.settings name = true)
    (hpass : short c p = .ok none) : short { c with settings } p = .ok none := by
  rw [short_eq_none] at hpass ⊢
  intro s hs
  obtain ⟨walk, hwalk, hnames⟩ := Outcome.bind_eq_ok.mp (hpass s hs)
  refine Outcome.bind_eq_ok.mpr ⟨walk, hwalk, ?_⟩
  simp only [pure, Except.pure, Except.ok.injEq, List.filter_eq_nil_iff] at hnames ⊢
  exact fun name hname hshort => hnames name hname (h name hshort)

theorem Words.Within.not_has {v w : Words} (h : v.Within w) {name : String} (hw : (!w.has name) = true) :
    (!v.has name) = true := by
  cases hv : v.has name with
  | false => rfl
  | true => rw [h name hv] at hw; exact hw

theorem Naming.mixedNames_mono {order : Text.Enumeration} {settings : Settings} {s : Source}
    (h : settings.validNonSnakeCaseLeftHandValues.Within words) (hnone : mixedNames order settings s = .ok []) :
    mixedNames order { settings with validNonSnakeCaseLeftHandValues := words } s = .ok [] := by
  obtain ⟨walk, hwalk, hrest⟩ := Outcome.bind_eq_ok.mp hnone
  obtain ⟨excused, hexcused, hrest⟩ := Outcome.bind_eq_ok.mp hrest
  obtain ⟨records, hrecords, hnames⟩ := Outcome.bind_eq_ok.mp hrest
  refine Outcome.bind_eq_ok.mpr ⟨walk, hwalk, Outcome.bind_eq_ok.mpr ⟨excused, hexcused,
    Outcome.bind_eq_ok.mpr ⟨records, hrecords, ?_⟩⟩⟩
  simp only [pure, Except.pure, Except.ok.injEq, List.filter_eq_nil_iff, Bool.and_eq_true] at hnames ⊢
  rintro name hname ⟨⟨hplain, hallowed⟩, hexcuse⟩
  exact hnames name hname ⟨⟨hplain, h.not_has hallowed⟩, hexcuse⟩

theorem Naming.camelCase_mono (h : c.settings.validNonSnakeCaseLeftHandValues.Within words)
    (hpass : camelCase c p = .ok none) :
    camelCase { c with settings := { c.settings with validNonSnakeCaseLeftHandValues := words } } p = .ok none := by
  unfold camelCase at hpass ⊢
  rw [Outcome.firstFinding_eq_none_iff] at hpass ⊢
  intro s hs
  have hnone := Outcome.returnUnlessEmpty_eq_none.mp (hpass s hs)
  exact Outcome.returnUnlessEmpty_eq_none.mpr (mixedNames_mono h hnone)

theorem Code.isGivenNumber_mono {v w : Words} (h : v.Within w) {i : Code.Place}
    (hw : Code.isGivenNumber i w = true) : Code.isGivenNumber i v = true := by
  unfold isGivenNumber at hw ⊢
  split
  · rename_i hclass
    rw [if_pos hclass] at hw
    exact hw
  · rename_i hclass
    rw [if_neg hclass] at hw
    cases hname : calleeName? i.here with
    | none => rw [hname] at hw; exact hw
    | some name =>
      rw [hname] at hw
      simp only [Bool.and_eq_true] at hw ⊢
      exact ⟨⟨hw.1.1, h.not_has hw.1.2⟩, hw.2⟩

theorem Idioms.firstPlace_mono {isFault isFault' : Code.Place → Bool}
    (h : ∀ i, isFault' i = true → isFault i = true) (hpass : firstPlace p isFault = .ok none) :
    firstPlace p isFault' = .ok none := by
  unfold firstPlace at hpass ⊢
  rw [Outcome.firstFinding_eq_none_iff] at hpass ⊢
  intro s hs
  obtain ⟨walk, hwalk, hnone⟩ := Outcome.return_eq_none.mp (hpass s hs)
  refine Outcome.return_eq_none.mpr ⟨walk, hwalk, ?_⟩
  rw [Option.map_eq_none_iff, List.find?_eq_none] at hnone ⊢
  exact fun i hi hfault => hnone i hi (h i hfault)

theorem Idioms.numberInCall_mono (h : c.settings.validCallsWithConstants.Within words)
    (hpass : numberInCall c p = .ok none) :
    numberInCall { c with settings := { c.settings with validCallsWithConstants := words } } p = .ok none := by
  refine firstPlace_mono (fun i hi => ?_) hpass
  rw [Bool.and_eq_true] at hi ⊢
  exact ⟨hi.1, Code.isGivenNumber_mono h hi.2⟩

theorem Idioms.exitCall_mono (h : c.settings.functionsAllowedToHaveExitCalls.Within words)
    (hpass : exitCall c p = .ok none) :
    exitCall { c with settings := { c.settings with functionsAllowedToHaveExitCalls := words } } p = .ok none := by
  unfold exitCall at hpass ⊢
  rw [Outcome.firstFinding_eq_none_iff] at hpass ⊢
  intro s hs
  obtain ⟨walk, hwalk, hnone⟩ := Outcome.return_eq_none.mp (hpass s hs)
  refine Outcome.return_eq_none.mpr ⟨walk, hwalk, ?_⟩
  rw [Option.map_eq_none_iff, List.find?_eq_none] at hnone ⊢
  intro f hf hexit
  rw [Bool.and_eq_true] at hexit
  exact hnone f hf (by rw [h.not_has hexit.1, hexit.2]; rfl)

/-- A longer list of ignored parts is in favour of the sum of faults, too. -/
theorem Idioms.styleFaults_outside (h : c.settings.pep8PathsToIgnore.items ⊆ words.items)
    (hpass : styleFaults c p = .ok none) :
    styleFaults { c with settings := { c.settings with pep8PathsToIgnore := words } } p = .ok none := by
  rw [styleFaults_eq_none] at hpass ⊢
  have hfewer := p.styleFaults_mono c.disk h
  exact (Int.ofNat_le.mpr hfewer).trans hpass

theorem Layout.encodingDeclaration_outside
    (h : c.settings.encodingDeclarationsPathsToIgnore.items ⊆ words.items)
    (hpass : encodingDeclaration c p = .ok none) :
    encodingDeclaration { c with settings := { c.settings with encodingDeclarationsPathsToIgnore := words } } p =
      .ok none := by
  simp only [encodingDeclaration, Except.ok.injEq, Option.map_eq_none_iff, List.find?_eq_none] at hpass ⊢
  exact fun s hs => hpass s ((p.sourcesOutside_sublist h).subset hs)

end Allowed

/-! ### Less to mind -/

section Minded
variable {c : Context} {p : Project} {words : Words}

theorem Naming.common_eq_none {order : Text.Enumeration} {names words : List String} :
    common order names words = none ↔ ∀ name ∈ names, name ∉ words := by
  simp [common]

theorem Naming.blacklisted_mono (h : words.items ⊆ c.settings.badVariableNames.items)
    (hpass : blacklisted c p = .ok none) :
    blacklisted { c with settings := { c.settings with badVariableNames := words } } p = .ok none := by
  unfold blacklisted at hpass ⊢
  rw [Outcome.firstFinding_eq_none_iff] at hpass ⊢
  intro s hs
  obtain ⟨walk, hwalk, hnone⟩ := Outcome.return_eq_none.mp (hpass s hs)
  refine Outcome.return_eq_none.mpr ⟨walk, hwalk, ?_⟩
  rw [common_eq_none] at hnone ⊢
  exact fun name hname hbad => hnone name hname (h hbad)

theorem Commits.emptyMessage_mono (h : words.Within c.settings.badCommitMessages)
    (hpass : emptyMessage c p = .ok none) :
    emptyMessage { c with settings := { c.settings with badCommitMessages := words } } p = .ok none := by
  unfold emptyMessage at hpass ⊢
  cases hrepository : p.repository? c.disk with
  | none => rfl
  | some repository =>
    rw [hrepository] at hpass
    obtain ⟨messages, hmessages, hnone⟩ := Outcome.return_eq_none.mp hpass
    refine Outcome.return_eq_none.mpr ⟨messages, hmessages, ?_⟩
    rw [List.find?_eq_none] at hnone ⊢
    exact fun message hmessage hbad => hnone message hmessage (h message hbad)

theorem Layout.trackedData_mono (h : words.items ⊆ c.settings.dataDirectories.items)
    (hpass : trackedData c p = .ok none) :
    trackedData { c with settings := { c.settings with dataDirectories := words } } p = .ok none := by
  unfold trackedData at hpass ⊢
  cases hrepository : p.repository? c.disk with
  | none => rfl
  | some repository =>
    rw [hrepository] at hpass
    simp only [Outcome.firstFinding_eq_none_iff] at hpass ⊢
    intro folder hfolder data hdata
    rw [List.mem_filter] at hdata
    exact hpass folder hfolder data (List.mem_filter.mpr ⟨h hdata.1, hdata.2⟩)

end Minded

/-! ### Changes in favour of a check -/

section Changes
open Check (onContext onProject)

/-- The changes of its own parameters that are in favour of a check. A limit on lines is no less than zero, nor is the
size of a tab that the depth of lines is measured by. -/
inductive Eases (s : Settings) : Check → Change → Prop
  | sources {limit : Int} (h : s.maxNumOfPyFiles ≤ limit) :
      Eases s (onContext "repo_is_too_large" Preflight.tooLarge) (.amount .maxNumOfPyFiles limit)
  | lines {limit : Int} (h0 : 0 ≤ s.maxNumberOfLines) (h : s.maxNumberOfLines ≤ limit) :
      Eases s (onContext "file_too_long" Preflight.tooLong) (.amount .maxNumberOfLines limit)
  | faults {limit : Int} (h : s.allowedMaxPep8Violations ≤ limit) :
      Eases s (onProject "too_many_pep8_violations" Idioms.styleFaults) (.amount .allowedMaxPep8Violations limit)
  | faultsOutside {words : Words} (h : s.pep8PathsToIgnore.items ⊆ words.items) :
      Eases s (onProject "too_many_pep8_violations" Idioms.styleFaults) (.vocabulary .pep8PathsToIgnore words)
  | branches {limit : Int} (h : s.maxComplexity ≤ limit) :
      Eases s (onProject "too_difficult_by_mccabe" Layout.tangled) (.amount .maxComplexity limit)
  | depth {level : Int} (h0 : 0 ≤ s.tabSize) (h : s.maxIndentationLevel ≤ level) :
      Eases s (onProject "code_too_nested" Layout.nested) (.amount .maxIndentationLevel level)
  | depthOutside {words : Words} (h : s.deepNestingPathsToIgnore.items ⊆ words.items) :
      Eases s (onProject "code_too_nested" Layout.nested) (.vocabulary .deepNestingPathsToIgnore words)
  | length {limit : Int} (h : limit ≤ s.minimumNameLength) :
      Eases s (onProject "short_variable_name" Naming.short) (.amount .minimumNameLength limit)
  | shortNames {words : Words} (h : s.validShortVariableNames.Within words) :
      Eases s (onProject "short_variable_name" Naming.short) (.vocabulary .validShortVariableNames words)
  | mixedNames {words : Words} (h : s.validNonSnakeCaseLeftHandValues.Within words) :
      Eases s (onProject "camel_case_variable_name" Naming.camelCase)
        (.vocabulary .validNonSnakeCaseLeftHandValues words)
  | calls {words : Words} (h : s.validCallsWithConstants.Within words) :
      Eases s (onProject "call_with_constants" Idioms.numberInCall) (.vocabulary .validCallsWithConstants words)
  | exits {words : Words} (h : s.functionsAllowedToHaveExitCalls.Within words) :
      Eases s (onProject "exit_call_in_function" Idioms.exitCall)
        (.vocabulary .functionsAllowedToHaveExitCalls words)
  | badNames {words : Words} (h : words.items ⊆ s.badVariableNames.items) :
      Eases s (onProject "has_variables_from_blacklist" Naming.blacklisted) (.vocabulary .badVariableNames words)
  | badNamesOutside {words : Words} (h : s.badVariablesPathsToIgnore.items ⊆ words.items) :
      Eases s (onProject "has_variables_from_blacklist" Naming.blacklisted)
        (.vocabulary .badVariablesPathsToIgnore words)
  | messages {words : Words} (h : words.Within s.badCommitMessages) :
      Eases s (onProject "commit_messages_from_blacklist" Commits.emptyMessage)
        (.vocabulary .badCommitMessages words)
  | data {words : Words} (h : words.items ⊆ s.dataDirectories.items) :
      Eases s (onProject "data_in_repo" Layout.trackedData) (.vocabulary .dataDirectories words)
  | declarationsOutside {words : Words} (h : s.encodingDeclarationsPathsToIgnore.items ⊆ words.items) :
      Eases s (onProject "encoding_declaration" Layout.encodingDeclaration)
        (.vocabulary .encodingDeclarationsPathsToIgnore words)
  | importsOutside {words : Words} (h : s.localImportsPathsToIgnore.items ⊆ words.items) :
      Eases s (onProject "local_import" Imports.inner) (.vocabulary .localImportsPathsToIgnore words)
  | constantsOutside {words : Words} (h : s.localVarNamedAsGlobalPathsToIgnore.items ⊆ words.items) :
      Eases s (onProject "has_local_var_named_as_global" Naming.localConstants)
        (.vocabulary .localVarNamedAsGlobalPathsToIgnore words)
  | docstringsOutside {words : Words} (h : s.extraDocstringsPathsToIgnore.items ⊆ words.items) :
      Eases s (onProject "extra_docstrings" Idioms.docstrings) (.vocabulary .extraDocstringsPathsToIgnore words)

theorem Check.passed_with {name : String} {judge : Context → Project → Outcome (Option String)} {c : Context}
    {settings : Settings} (h : ∀ p, judge c p = .ok none → judge { c with settings } p = .ok none)
    (hpass : (onProject name judge).run c = .ok .passed) :
    (onProject name judge).run { c with settings } = .ok .passed := by
  cases hp : c.project with
  | none =>
    unfold onProject at hpass
    rw [passed_onContext, hp] at hpass
    cases hpass
  | some p =>
    rw [hp] at h
    rw [passed_onProject hp] at hpass
    rw [passed_onProject rfl]
    exact h p hpass

/-- One change in favour of a check leaves it passing. -/
theorem passed_of_eases {c : Context} {check : Check} {change : Change} (h : Eases c.settings check change)
    (hpass : check.run c = .ok .passed) :
    check.run { c with settings := c.settings.apply change } = .ok .passed := by
  cases h with
  | sources h =>
    rw [Check.passed_onContext] at hpass ⊢
    exact Preflight.tooLarge_mono h hpass
  | lines h0 h =>
    rw [Check.passed_onContext] at hpass ⊢
    exact Preflight.tooLong_mono h0 h hpass
  | faults h => exact Check.passed_with (fun _ => Idioms.styleFaults_mono h) hpass
  | faultsOutside h => exact Check.passed_with (fun _ => Idioms.styleFaults_outside h) hpass
  | branches h => exact Check.passed_with (fun _ => Layout.tangled_mono h) hpass
  | depth h0 h => exact Check.passed_with (fun _ => Layout.nested_mono h0 h) hpass
  | length h =>
    refine Check.passed_with (fun _ => Naming.short_mono fun name hshort => ?_) hpass
    rw [Naming.isTooShort, Bool.and_eq_true, decide_eq_true_eq] at hshort ⊢
    exact ⟨hshort.1.trans_le h, hshort.2⟩
  | shortNames h =>
    refine Check.passed_with (fun _ => Naming.short_mono fun name hshort => ?_) hpass
    rw [Naming.isTooShort, Bool.and_eq_true] at hshort ⊢
    exact ⟨hshort.1, h.not_has hshort.2⟩
  | mixedNames h => exact Check.passed_with (fun _ => Naming.camelCase_mono h) hpass
  | calls h => exact Check.passed_with (fun _ => Idioms.numberInCall_mono h) hpass
  | exits h => exact Check.passed_with (fun _ => Idioms.exitCall_mono h) hpass
  | badNames h => exact Check.passed_with (fun _ => Naming.blacklisted_mono h) hpass
  | messages h => exact Check.passed_with (fun _ => Commits.emptyMessage_mono h) hpass
  | data h => exact Check.passed_with (fun _ => Layout.trackedData_mono h) hpass
  | declarationsOutside h => exact Check.passed_with (fun _ => Layout.encodingDeclaration_outside h) hpass
  | depthOutside h => exact Check.passed_with (fun _ => Project.firstFinding_outside h) hpass
  | badNamesOutside h => exact Check.passed_with (fun _ => Project.firstFinding_outside h) hpass
  | importsOutside h => exact Check.passed_with (fun _ => Project.firstFinding_outside h) hpass
  | constantsOutside h => exact Check.passed_with (fun _ => Project.firstFinding_outside h) hpass
  | docstringsOutside h => exact Check.passed_with (fun _ => Project.firstFinding_outside h) hpass

/-- Changes one after the other, each of them in favour of the check. -/
def EasesAll (check : Check) : Settings → List Change → Prop
  | _, [] => True
  | s, change :: rest => Eases s check change ∧ EasesAll check (s.apply change) rest

/-- **Leniency creates no finding.** A check that passes under some parameters passes under all that come of them by
changes in its favour: further limits, more to let pass, less to mind, longer lists of parts of paths to ignore. -/
theorem passing_survives_leniency (check : Check) (c : Context) (changes : List Change)
    (h : EasesAll check c.settings changes) (hpass : check.run c = .ok .passed) :
    check.run { c with settings := changes.foldl Settings.apply c.settings } = .ok .passed := by
  induction changes generalizing c with
  | nil => exact hpass
  | cons change rest ih =>
    have hone := passed_of_eases h.1 hpass
    exact ih { c with settings := c.settings.apply change } h.2 hone

/-- A source that is nested just as deep as allowed passes, and still does with a deeper level and more to ignore. -/
theorem nested_source_survives_leniency :
    let source : Source := ⟨"p/a.py", "if a:\n    if b:\n        c", none⟩
    let c : Context := { disk := { top := Folder.empty "" }, path := "p", project := some ⟨"p", [source]⟩,
                         settings := { maxIndentationLevel := 2, deepNestingPathsToIgnore := .list ["old/"] } }
    let changes : List Change := [.amount .maxIndentationLevel 3,
      .vocabulary .deepNestingPathsToIgnore (.list ["older/", "old/"])]
    let check := onProject "code_too_nested" Layout.nested
    check.run { c with settings := { c.settings with maxIndentationLevel := 1 } } = .ok (.failed "a.py:2") ∧
      EasesAll check c.settings changes ∧ check.run c = .ok .passed ∧
      check.run { c with settings := changes.foldl Settings.apply c.settings } = .ok .passed := by
  intro source c changes check
  have heases : EasesAll check c.settings changes :=
    ⟨.depth (by decide) (by decide), .depthOutside (by decide), trivial⟩
  have hpass : check.run c = .ok .passed := by decide +kernel
  exact ⟨by decide +kernel, heases, hpass, passing_survives_leniency check c changes heases hpass⟩

end Changes
end Scrutiny
