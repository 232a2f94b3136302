import Mathlib.Data.List.Forall2
import Scrutiny.Proofs.SkippedFolders

/-! A project that has moved.

The checks name a source by the last component of its path and look at its content and its tree. The rest of the path
enters in two ways: sources are opened anew by it, and lists of parts of paths tell which sources a check leaves out.
Two loaded projects whose sources go together in all of this (`MovedProject`) are judged alike by every check of the
usual groups (`MovedProject.run_eq`), wherever they lie. -/
namespace Scrutiny

/-! ### Lists that go together -/

namespace Outcome
variable {α β γ : Type} {R : α → β → Prop} {as : List α} {bs : List β}

/-- The same failure, or results that go together. -/
inductive Agree (R : α → β → Prop) : Outcome α → Outcome β → Prop where
  | ok {a : α} {b : β} (h : R a b) : Agree R (.ok a) (.ok b)
  | error (failure : Failure) : Agree R (.error failure) (.error failure)

theorem Agree.bind {γ δ : Type} {S : γ → δ → Prop} {x : Outcome α} {y : Outcome β} {f : α → Outcome γ}
    {g : β → Outcome δ} (h : Agree R x y) (hfg : ∀ a b, R a b → Agree S (f a) (g b)) :
    Agree S (x >>= f) (y >>= g) := by
  cases h with
  | ok hab => exact hfg _ _ hab
  | error failure => exact .error failure

theorem Agree.bind_eq {x : Outcome α} {y : Outcome β} {f : α → Outcome γ} {g : β → Outcome γ} (h : Agree R x y)
    (hfg : ∀ a b, R a b → g b = f a) : (y >>= g) = (x >>= f) := by
  cases h with
  | ok hab => exact hfg _ _ hab
  | error failure => rfl

/-- Results that go together are the results. -/
theorem Agree.and_eq {x : Outcome α} {y : Outcome β} (h : Agree R x y) :
    Agree (fun a b => R a b ∧ x = .ok a ∧ y = .ok b) x y := by
  cases h with
  | ok hab => exact .ok ⟨hab, rfl, rfl⟩
  | error failure => exact .error failure

/-- Work on one list in two ways that agree on each member. -/
theorem agree_mapM {δ : Type} {ds : List δ} {f : δ → Outcome α} {g : δ → Outcome β}
    (h : ∀ d ∈ ds, Agree R (f d) (g d)) : Agree (List.Forall₂ R) (ds.mapM f) (ds.mapM g) := by
  induction ds with
  | nil => exact .ok .nil
  | cons d rest ih =>
    obtain ⟨hd, hrest⟩ := List.forall_mem_cons.mp h
    rw [List.mapM_cons, List.mapM_cons]
    exact hd.bind fun a b hab => (ih hrest).bind fun as bs hall => .ok (.cons hab hall)

theorem firstFinding_of_forall₂ (h : List.Forall₂ R as bs) {judge : α → Outcome (Option γ)}
    {judge' : β → Outcome (Option γ)} (hj : ∀ a b, R a b → judge' b = judge a) :
    firstFinding judge' bs = firstFinding judge as := by
  induction h with
  | nil => rfl
  | cons hab _ ih => rw [firstFinding, firstFinding, hj _ _ hab, ih]

theorem mapM_of_forall₂ (h : List.Forall₂ R as bs) {f : α → Outcome γ} {g : β → Outcome γ}
    (hfg : ∀ a b, R a b → g b = f a) : bs.mapM g = as.mapM f := by
  induction h with
  | nil => rfl
  | cons hab _ ih => rw [List.mapM_cons, List.mapM_cons, hfg _ _ hab, ih]

end Outcome

section Lists
variable {α β γ : Type} {R : α → β → Prop} {as : List α} {bs : List β}

theorem find?_of_forall₂ (h : List.Forall₂ R as bs) {isFault : α → Bool} {isFault' : β → Bool} {say : α → γ}
    {say' : β → γ} (hfault : ∀ a b, R a b → isFault' b = isFault a) (hsay : ∀ a b, R a b → say' b = say a) :
    (bs.find? isFault').map say' = (as.find? isFault).map say := by
  induction h with
  | nil => rfl
  | @cons a b _ _ hab _ ih =>
    rw [List.find?_cons, List.find?_cons, hfault a b hab]
    cases isFault a with
    | true => simp [hsay a b hab]
    | false => exact ih

end Lists

/-! ### Sources -/

/-- The lists of parts of a path by which checks leave out sources. -/
def Settings.exemptions (s : Settings) : List Words :=
  [s.pep8PathsToIgnore, s.encodingDeclarationsPathsToIgnore, s.localImportsPathsToIgnore,
   s.localVarNamedAsGlobalPathsToIgnore, s.badVariablesPathsToIgnore, s.extraDocstringsPathsToIgnore,
   s.deepNestingPathsToIgnore, .list ["tests"]]

/-- A source that goes together with one of a context, on another disk: it has the same name, content and tree, its path
leads to the same file, and checks leave out both or neither. -/
structure MovedSource (c : Context) (disk : Disk) (s t : Source) : Prop where
  name : t.name = s.name
  content : t.content = s.content
  tree : t.tree = s.tree
  opened : disk.openFile t.path = c.disk.openFile s.path
  exempt : ∀ words ∈ c.settings.exemptions, t.isIgnored words = s.isIgnored words

namespace MovedSource
variable {c : Context} {disk : Disk} {s t : Source}

theorem walk (h : MovedSource c disk s t) : t.walk = s.walk := by
  rw [Source.walk, Source.walk, h.tree]

theorem lines (h : MovedSource c disk s t) : t.lines = s.lines := by
  rw [Source.lines, Source.lines, h.content]

theorem atLine (h : MovedSource c disk s t) : (t.atLine : Nat → String) = s.atLine := by
  funext line
  rw [Source.atLine, Source.atLine, h.name]

theorem nameIf (h : MovedSource c disk s t) (fault : Bool) : nameIf t fault = nameIf s fault := by
  rw [Scrutiny.nameIf, Scrutiny.nameIf, h.name]

end MovedSource

/-! ### Projects -/

/-- A path and a text that go together with another: the last component and the text are the same. -/
def SameText (entry entry' : String × String) : Prop :=
  Text.baseName entry'.1 = Text.baseName entry.1 ∧ entry'.2 = entry.2

/-- The context with a project on a disk. -/
def Context.holding (c : Context) (disk : Disk) (p : Project) : Context :=
  { c with disk, path := p.path, project := some p }

/-- A project on another disk that goes together with the one of a context: neither has a history or a project that it
started from, their sources and further texts go together, and they have one readme. The checks that are supplied have
to say the same of both. -/
structure MovedProject (c : Context) (p : Project) (disk : Disk) (p' : Project) : Prop where
  alone : c.base = none
  unversioned : p.repository? c.disk = none
  unversioned' : p'.repository? disk = none
  sources : List.Forall₂ (MovedSource c disk) p.sources p'.sources
  texts : ∀ extensions, Outcome.Agree (List.Forall₂ SameText)
    (c.disk.textsWith extensions c.settings.directoriesToSkip p.path)
    (disk.textsWith extensions c.settings.directoriesToSkip p'.path)
  hasReadme : p'.hasFile disk c.settings.readmeFilename = p.hasFile c.disk c.settings.readmeFilename
  readme : p'.fileNamed disk c.settings.readmeFilename = p.fileNamed c.disk c.settings.readmeFilename
  supplied : Registry.SuppliedAgree (c.holding c.disk p) (c.holding disk p')

namespace MovedProject
variable {c : Context} {p p' : Project} {disk : Disk}

theorem sourcesOutside (h : MovedProject c p disk p') {words : Words} (hwords : words ∈ c.settings.exemptions) :
    List.Forall₂ (MovedSource c disk) (p.sourcesOutside words) (p'.sourcesOutside words) := by
  refine List.rel_filter ?_ h.sources
  intro s t hst
  simp only [hst.exempt words hwords]

theorem trackedData_eq (h : MovedProject c p disk p') :
    Layout.trackedData (c.holding disk p') p' = Layout.trackedData (c.holding c.disk p) p := by
  have hp : p.repository? (c.holding c.disk p).disk = none := h.unversioned
  have hp' : p'.repository? (c.holding disk p').disk = none := h.unversioned'
  rw [Layout.trackedData, Layout.trackedData, hp, hp']

theorem emptyMessage_eq (h : MovedProject c p disk p') :
    Commits.emptyMessage (c.holding disk p') p' = Commits.emptyMessage (c.holding c.disk p) p := by
  have hp : p.repository? (c.holding c.disk p).disk = none := h.unversioned
  have hp' : p'.repository? (c.holding disk p').disk = none := h.unversioned'
  rw [Commits.emptyMessage, Commits.emptyMessage, hp, hp']

theorem noMoreThanBefore_eq (h : MovedProject c p disk p') :
    Commits.noMoreThanBefore (c.holding disk p') p' = Commits.noMoreThanBefore (c.holding c.disk p) p := by
  simp only [Commits.noMoreThanBefore, Context.holding, h.alone]

theorem unchanged_eq (h : MovedProject c p disk p') :
    Readme.unchanged (c.holding disk p') p' = Readme.unchanged (c.holding c.disk p) p := by
  simp only [Readme.unchanged, Context.holding, h.alone]

theorem absent_eq (h : MovedProject c p disk p') :
    Readme.absent (c.holding disk p') p' = Readme.absent (c.holding c.disk p) p := by
  simp only [Readme.absent, Context.holding, h.hasReadme]
  rfl

theorem bilingual_eq (h : MovedProject c p disk p') :
    Readme.bilingual (c.holding disk p') p' = Readme.bilingual (c.holding c.disk p) p := by
  simp only [Readme.bilingual, Context.holding, h.readme]
  rfl

theorem tabs_eq (h : MovedProject c p disk p') :
    Layout.tabs (c.holding disk p') p' = Layout.tabs (c.holding c.disk p) p := by
  refine (h.texts _).bind_eq fun texts texts' htexts => congrArg Except.ok ?_
  refine find?_of_forall₂ htexts (fun entry entry' hentry => ?_) fun entry entry' hentry => hentry.1
  -- Of the path only the extension of its last component counts.
  rw [Layout.isTabbed, Layout.isTabbed, hentry.1, hentry.2]

theorem styleFaults_eq (h : MovedProject c p disk p') :
    Idioms.styleFaults (c.holding disk p') p' = Idioms.styleFaults (c.holding c.disk p) p := by
  have hmem : c.settings.pep8PathsToIgnore ∈ c.settings.exemptions := by simp [Settings.exemptions]
  have hamount : p'.styleFaults disk c.settings.pep8PathsToIgnore =
      p.styleFaults c.disk c.settings.pep8PathsToIgnore := by
    rw [Project.styleFaults, Project.styleFaults]
    congr 1
    refine (List.forall₂_eq_eq_eq ▸ List.rel_map (P := Eq) ?_ (h.sourcesOutside hmem)).symm
    intro s t hst
    simp only [hst.opened]
  simp only [Idioms.styleFaults, Context.holding, hamount]
  rfl

theorem tangled_eq (h : MovedProject c p disk p') :
    Layout.tangled (c.holding disk p') p' = Layout.tangled (c.holding c.disk p) p := by
  have hblocks := Outcome.mapM_of_forall₂ h.sources
    (f := fun s => do Layout.tangledIn c.runtime.codecs (← c.disk.openFile s.path) c.settings.maxComplexity)
    (g := fun t => do Layout.tangledIn c.runtime.codecs (← disk.openFile t.path) c.settings.maxComplexity)
    fun s t hst => by simp only [hst.opened]
  simp only [Layout.tangled, Context.holding, hblocks]

theorem short_eq (h : MovedProject c p disk p') :
    Naming.short (c.holding disk p') p' = Naming.short (c.holding c.disk p) p := by
  have hnames := Outcome.mapM_of_forall₂ h.sources (f := Naming.shortNames c.settings)
    (g := Naming.shortNames c.settings) fun s t hst => by simp only [Naming.shortNames, hst.walk]
  simp only [Naming.short, Context.holding, hnames]

theorem encodingDeclaration_eq (h : MovedProject c p disk p') :
    Layout.encodingDeclaration (c.holding disk p') p' = Layout.encodingDeclaration (c.holding c.disk p) p := by
  have hmem : c.settings.encodingDeclarationsPathsToIgnore ∈ c.settings.exemptions := by simp [Settings.exemptions]
  refine congrArg Except.ok (find?_of_forall₂ (h.sourcesOutside hmem) (fun s t hst => ?_) fun s t hst => hst.name)
  rw [hst.content]

theorem unparsed_eq (h : MovedProject c p disk p') :
    Layout.unparsed (c.holding disk p') p' = Layout.unparsed (c.holding c.disk p) p := by
  refine congrArg Except.ok (find?_of_forall₂ h.sources (fun s t hst => ?_) fun s t hst => hst.name)
  rw [Source.isParsed, Source.isParsed, hst.tree]

theorem numberInCall_eq (h : MovedProject c p disk p') :
    Idioms.numberInCall (c.holding disk p') p' = Idioms.numberInCall (c.holding c.disk p) p := by
  have htests (s : Source) : (!Text.hasText "tests" s.path) = !s.isIgnored (.list ["tests"]) := by
    simp [Source.isIgnored, Words.anyIn, Words.items]
  have hmem : Words.list ["tests"] ∈ c.settings.exemptions := by simp [Settings.exemptions]
  simp only [Idioms.numberInCall, Idioms.firstPlace, htests]
  refine Outcome.firstFinding_of_forall₂ (h.sourcesOutside hmem) fun s t hst => ?_
  simp only [hst.walk, hst.atLine, Context.holding]

end MovedProject

/-! ### Groups -/

/-- A check that says the same wherever the project lies. -/
def Check.IgnoresPlace (check : Check) : Prop :=
  ∀ {c : Context} {p p' : Project} {disk : Disk}, MovedProject c p disk p' →
    check.run (c.holding disk p') = check.run (c.holding c.disk p)

namespace Check

theorem ignoresPlace_onProject {name : String} {judge : Context → Project → Outcome (Option String)}
    (h : ∀ {c : Context} {p p' : Project} {disk : Disk}, MovedProject c p disk p' →
      judge (c.holding disk p') p' = judge (c.holding c.disk p) p) : (onProject name judge).IgnoresPlace := by
  intro c p p' disk hmoved
  rw [run_onProject rfl, run_onProject rfl, h hmoved]

/-- A check that stops at the first source with a fault. -/
theorem ignoresPlace_sources {name : String} {judge : Context → Source → Outcome (Option String)}
    (h : ∀ {c : Context} {p p' : Project} {disk : Disk} {s t : Source}, MovedSource c disk s t →
      judge (c.holding disk p') t = judge (c.holding c.disk p) s) :
    (onProject name fun c p => firstFinding (judge c) p.sources).IgnoresPlace :=
  ignoresPlace_onProject fun hmoved => Outcome.firstFinding_of_forall₂ hmoved.sources fun _ _ hst => h hst

theorem ignoresPlace_supplied {check : Check} (h : check ∈ Registry.supplied) : check.IgnoresPlace :=
  fun hmoved => hmoved.supplied check h

/-- The same of a check that leaves out some sources. -/
theorem ignoresPlace_sourcesOutside (words : Settings → Words) (hwords : ∀ s : Settings, words s ∈ s.exemptions)
    {name : String} {judge : Context → Source → Outcome (Option String)}
    (h : ∀ {c : Context} {p p' : Project} {disk : Disk} {s t : Source}, MovedSource c disk s t →
      judge (c.holding disk p') t = judge (c.holding c.disk p) s) :
    (onProject name fun c p => firstFinding (judge c) (p.sourcesOutside (words c.settings))).IgnoresPlace :=
  ignoresPlace_onProject fun {c _ _ _} hmoved =>
    Outcome.firstFinding_of_forall₂ (hmoved.sourcesOutside (hwords c.settings)) fun _ _ hst => h hst

end Check

namespace Registry
open Check MovedProject

theorem general_ignores_place : ∀ check ∈ general, check.IgnoresPlace := by
  simp only [general, List.forall_mem_cons]
  refine ⟨ignoresPlace_onProject trackedData_eq, ignoresPlace_onProject styleFaults_eq,
    ignoresPlace_onProject unchanged_eq, ignoresPlace_sources fun hst => ?camelCase,
    ignoresPlace_onProject tangled_eq, ignoresPlace_onProject encodingDeclaration_eq,
    ignoresPlace_sources fun hst => ?star,
    ignoresPlace_sourcesOutside (·.localImportsPathsToIgnore) (by simp [Settings.exemptions]) fun hst => ?inner,
    ignoresPlace_sourcesOutside (·.localVarNamedAsGlobalPathsToIgnore) (by simp [Settings.exemptions])
      fun hst => ?localConstants,
    ignoresPlace_sourcesOutside (·.badVariablesPathsToIgnore) (by simp [Settings.exemptions]) fun hst => ?blacklisted,
    ignoresPlace_onProject short_eq, ignoresPlace_sources fun hst => ?rangeFromZero, ignoresPlace_onProject tabs_eq,
    ignoresPlace_sources fun hst => ?broadExcept, ignoresPlace_supplied (by simp [supplied]),
    ignoresPlace_sources fun hst => ?namedLambda,
    ignoresPlace_onProject numberInCall_eq, ignoresPlace_onProject bilingual_eq,
    ignoresPlace_sources fun hst => ?queryAddress, ignoresPlace_sources fun hst => ?lengthTest,
    ignoresPlace_sourcesOutside (·.extraDocstringsPathsToIgnore) (by simp [Settings.exemptions]) fun hst => ?docstrings,
    ignoresPlace_sources fun hst => ?exitCall, ignoresPlace_supplied (by simp [supplied]),
    ignoresPlace_sources fun hst => ?semicolons,
    ignoresPlace_sources fun hst => ?statusComparison, ignoresPlace_sources fun hst => ?mutableDefault,
    ignoresPlace_sources fun hst => ?sliceFromZero, ignoresPlace_sources fun hst => ?textOfInput,
    ignoresPlace_sources fun hst => ?parenthesizedReturn,
    ignoresPlace_sourcesOutside (·.deepNestingPathsToIgnore) (by simp [Settings.exemptions]) fun hst => ?nested,
    ignoresPlace_sources fun hst => ?addedTexts, ignoresPlace_sources fun hst => ?debugger,
    ignoresPlace_sources fun hst => ?several, by simp⟩
  -- What is left looks at the tree, the lines and the name of one source, and at the settings.
  all_goals
    simp only [Naming.mixedNames, Layout.hasSemicolons, Layout.lineAt, hst.walk, hst.lines, hst.nameIf, hst.atLine]
  all_goals rfl

theorem early_ignore_place : ∀ check ∈ [commitsCheck, readmeCheck, parseCheck], check.IgnoresPlace := by
  simp only [List.forall_mem_cons]
  exact ⟨ignoresPlace_onProject noMoreThanBefore_eq, ignoresPlace_onProject absent_eq,
    ignoresPlace_onProject unparsed_eq, by simp⟩

theorem warnings_ignore_place : ∀ check ∈ warnings.flatMap (·.checks), check.IgnoresPlace := by
  simp only [warnings, List.flatMap_cons, List.flatMap_nil, List.append_nil, List.cons_append, List.nil_append,
    List.forall_mem_cons]
  refine ⟨ignoresPlace_onProject emptyMessage_eq, ignoresPlace_sources fun hst => ?misaligned,
    ignoresPlace_sources fun hst => ?shadowing, by simp⟩
  case misaligned =>
    simp only [hst.walk, hst.content, hst.atLine]
    rfl
  case shadowing =>
    simp only [hst.walk]
    rfl

end Registry

/-- Projects that go together are judged alike by the usual groups. -/
theorem MovedProject.run_eq {c : Context} {p p' : Project} {disk : Disk} (h : MovedProject c p disk p') :
    Registry.errors.run (c.holding disk p') Registry.warnings =
      Registry.errors.run (c.holding c.disk p) Registry.warnings := by
  refine Groups.run_congr fun check hcheck => ?_
  rcases Groups.mem_executed hcheck with hmem | hmem
  · rw [Registry.errors_eq] at hmem
    have hmem : check ∈ [Registry.commitsCheck, Registry.readmeCheck, Registry.parseCheck] ++ Registry.general := by
      simpa using hmem
    rcases List.mem_append.mp hmem with hearly | hgeneral
    · exact Registry.early_ignore_place check hearly h
    · exact Registry.general_ignores_place check hgeneral h
  · exact Registry.warnings_ignore_place check hmem h

end Scrutiny
